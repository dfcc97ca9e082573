/-
Module: CrashMarker.Proofs.Prediction
Purpose: Inspecting a marker tells in advance what opening it comes to.
Main exports:
  Memory.reading, Memory.Behind.completes_load, Memory.completes_inspect,
  Memory.completes_openMarker, Memory.inspect_predicts_open, Memory.inspect_predicts_open_not_beyond
-/
import CrashMarker.Proofs.Memory.Sighted
import CrashMarker.Store.Inspection

namespace CrashMarker

/-!
Inspecting and opening take different ways to the same bytes.  Both judge the layout from the size that
the storage reports, and read as many bytes as that layout has flags.  Where the size is overstated
there may be fewer bytes than that, and then both fail in the same way; where there are enough, what they
read says as much as the whole file.

That holds as long as the size that is reported fits into a machine word.  Past that it starts over from
zero, and a marker may be taken for a shorter one.  Inspecting and opening still agree then, but not on
what the whole file says.
-/

namespace Memory

variable {memory base : Memory} {world : World Memory} {lifecycle : Lifecycle} {handle : Handle}
  {object : ObjectId} {file : FileObject}

/-- What reading a marker of such bytes comes to where sizes are overstated by so much. -/
def reading (extra : Nat) (bytes : List UInt8) : Except StoreError (Layout × Option Record) :=
  let size := wordSum bytes.length extra
  if min 2 size ≤ bytes.length then .ok (Layout.ofSize size, Record.decode? (bytes.take (min 2 size)))
  else .error (.truncated (min 2 size) bytes.length)

/-- As long as the size fits into a word, a marker is read if it is as long as it says or has both flags,
and what is read is what the whole file says. -/
theorem reading_of_le {extra : Nat} {bytes : List UInt8} (fits : bytes.length + extra ≤ largestWord) :
    reading extra bytes = if extra = 0 ∨ 2 ≤ bytes.length then
        .ok (Layout.ofSize (bytes.length + extra), Record.decode? bytes)
      else .error (.truncated (min 2 (bytes.length + extra)) bytes.length) := by
  unfold reading
  rw [wordSum_of_le fits]
  by_cases readable : extra = 0 ∨ 2 ≤ bytes.length
  · have enough : min 2 (bytes.length + extra) ≤ bytes.length := by omega
    rw [if_pos readable, if_pos enough, Record.decode?_take_of_le (by omega)]
  · have short : ¬ min 2 (bytes.length + extra) ≤ bytes.length := by omega
    rw [if_neg readable, if_neg short]

/-! ## Inspecting -/

/-- All that reading has done to a world, in at most so many actions beside the interrupted ones, is to
use up interruptions. -/
def Looked (actions : Nat) (world : World Memory) (taken : List Taken) (after : World Memory) : Prop :=
  ∃ interrupts, interrupts ≤ world.storage.interrupts ∧
    taken.length ≤ actions + world.storage.interrupts ∧
    after = { world with storage := { world.storage with interrupts } }

theorem Looked.preceded {actions : Nat} {taken : List Taken} {after : World Memory} {first : Taken}
    (looked : Looked actions world taken after) : Looked (actions + 1) world (first :: taken) after := by
  obtain ⟨interrupts, fewer, steps, same⟩ := looked
  refine ⟨interrupts, fewer, ?_, same⟩
  rw [List.length_cons]
  omega

/-- Reading an opened marker comes to what is foretold from its bytes, and only looks. -/
theorem Behind.completes_load (behind : world.storage.Behind handle object file) :
    (Target.load handle).Completes world fun taken outcome after =>
      outcome = reading world.storage.extraSize file.bytes ∧ Looked 3 world taken after := by
  unfold Target.load
  apply Script.completes_bind
  apply Script.completes_ask behind.size_eq
  apply Script.completes_bind
  apply (behind.completes_readFull 0 _).mono
  rintro taken filled after ⟨rfl, interrupts, fewer, steps, rfl⟩
  rw [Layout.readLength_ofSize] at steps ⊢
  have looked : Looked 2 world taken
      { world with storage := { world.storage with interrupts } } :=
    ⟨interrupts, fewer, by omega, rfl⟩
  rw [List.drop_zero]
  unfold reading fill
  by_cases enough : min 2 (wordSum file.bytes.length world.storage.extraSize) ≤ file.bytes.length
  · simp only [enough, if_true]
    apply Script.completes_done
    rw [List.append_nil]
    exact ⟨rfl, looked.preceded⟩
  · simp only [enough, if_false]
    apply Script.completes_done
    rw [List.append_nil]
    exact ⟨rfl, looked.preceded⟩

/-- What inspecting a file of such bytes comes to. -/
def glimpse (extra : Nat) (bytes : List UInt8) : Except StoreError Snapshot :=
  match reading extra bytes with
  | .ok (layout, record) => .ok ⟨layout, wordSum bytes.length extra, record⟩
  | .error error => .error error

/-- Where sizes fit into a word, they are the sums that they should be. -/
theorem glimpse_of_le {extra : Nat} {bytes : List UInt8} (fits : bytes.length + extra ≤ largestWord) :
    glimpse extra bytes = if extra = 0 ∨ 2 ≤ bytes.length then
        .ok ⟨Layout.ofSize (bytes.length + extra), bytes.length + extra, Record.decode? bytes⟩
      else .error (.truncated (min 2 (bytes.length + extra)) bytes.length) := by
  unfold glimpse
  rw [reading_of_le fits, wordSum_of_le fits]
  by_cases readable : extra = 0 ∨ 2 ≤ bytes.length
  · rw [if_pos readable, if_pos readable]
  · rw [if_neg readable, if_neg readable]

/-- Inspecting an opened marker comes to what is foretold from its bytes, and only looks. -/
theorem Behind.completes_inspectHandle (behind : world.storage.Behind handle object file) :
    (inspectHandle handle).Completes world fun taken outcome after =>
      outcome = glimpse world.storage.extraSize file.bytes ∧ Looked 4 world taken after := by
  unfold inspectHandle
  apply Script.completes_bind
  apply Script.completes_ask behind.size_eq
  apply Script.completes_bind
  apply behind.completes_load.mono
  rintro taken outcome after ⟨rfl, looked⟩
  unfold glimpse
  cases reading world.storage.extraSize file.bytes with
  | ok loaded =>
    apply Script.completes_done
    rw [List.append_nil]
    exact ⟨rfl, looked.preceded⟩
  | error error =>
    apply Script.completes_done
    rw [List.append_nil]
    exact ⟨rfl, looked.preceded⟩

theorem answer_present (memory : Memory) (path : Path) :
    Storage.answer (.present path) memory = (.ok (memory.named path).isSome, memory) := rfl

/-- What is named can be opened, unless openings are to fail. -/
theorem answer_openFile {path : Path} (opens : memory.failingOpens = 0)
    (named : memory.named path = some object) :
    Storage.answer (.openFile path) memory =
      (.ok ⟨memory.nextHandle⟩, memory.withHandle object) := by
  change memory.openFile path = _
  simp only [openFile, opens, named, withHandle]

/-- Inspecting a file opens it under the next handle and closes that handle again. -/
theorem completes_inspect {path : Path} (opens : world.storage.failingOpens = 0)
    (named : world.storage.named path = some object)
    (there : world.storage.objects.get? object = some file) :
    (inspect path).Completes world fun taken outcome after =>
      outcome = glimpse world.storage.extraSize file.bytes ∧
        ∃ interrupts, interrupts ≤ world.storage.interrupts ∧
          taken.length ≤ 7 + world.storage.interrupts ∧ after = { world with
            storage := ({ world.storage.withHandle object with interrupts } : Memory).close
              ⟨world.storage.nextHandle⟩ } := by
  have present := answer_present world.storage path
  rw [named] at present
  have behind := (Sighted.withHandle there).behind
  unfold inspect
  apply Script.completes_bind
  apply Script.completes_ask present
  apply Script.completes_bind
  apply Script.completes_ask (answer_openFile opens named)
  apply Script.completes_bind
  apply (Behind.completes_inspectHandle behind).mono
  rintro taken outcome after ⟨rfl, interrupts, fewer, steps, rfl⟩
  apply Script.completes_bind
  apply Script.completes_perform
  refine Script.completes_done ⟨rfl, interrupts, fewer, ?_, rfl⟩
  have same : (world.storage.withHandle object).interrupts = world.storage.interrupts := rfl
  simp only [List.length_append, List.length_cons, List.length_nil, same] at steps ⊢
  omega

/-- Where there is no file, inspecting sees so and does nothing. -/
theorem completes_inspect_missing {path : Path} (absent : world.storage.named path = none) :
    (inspect path).Completes world fun taken outcome after =>
      outcome = .ok .missing ∧ taken.length = 1 ∧ after = world := by
  have present := answer_present world.storage path
  rw [absent] at present
  unfold inspect
  apply Script.completes_bind
  apply Script.completes_ask present
  exact Script.completes_done ⟨rfl, rfl, rfl⟩

/-! ## Opening -/

/-- The lock is taken if it is to be, since nobody has it, and closing the handle gives it up again. -/
theorem Sighted.completes_acquireLock (target : Target)
    (sighted : world.storage.Sighted base handle object file) (free : file.owner = none) :
    (target.acquireLock handle).Completes lifecycle world fun _ outcome left after =>
      outcome = .ok target.config.fileLock ∧ left = lifecycle ∧ ∃ storage held,
        after = { world with storage } ∧ storage.Sighted base handle object held ∧
          held.bytes = file.bytes ∧ released handle held = file ∧
          storage.extraSize = world.storage.extraSize ∧
          storage.writeCalls = world.storage.writeCalls := by
  unfold Target.acquireLock
  cases target.config.fileLock with
  | false =>
    have kept : released handle file = file := released_eq_self (by rw [free]; nofun)
    exact Guarded.completes_pure ⟨rfl, rfl, _, file, rfl, sighted, rfl, kept, rfl, rfl⟩
  | true =>
    have told : Storage.answer (.tryLock handle) world.storage = (.ok true,
      world.storage.updateObject object fun file => { file with owner := some handle }) :=
        sighted.behind.tryLock_eq free
    apply Guarded.completes_bind
    apply Guarded.completes_call told
    apply Guarded.completes_pure
    refine ⟨rfl, rfl, _, _, rfl, sighted.updateObject _, rfl, ?_, rfl, rfl⟩
    simp [released, ← free]

/-- A record is saved in the end, and its file then starts with it. -/
theorem Sighted.completes_persist (target : Target) (record : Record)
    (sighted : world.storage.Sighted base handle object file) :
    (target.persist handle record).Completes lifecycle world fun _ outcome left after =>
      outcome = .ok () ∧ left = lifecycle ∧ ∃ storage, after = { world with storage } ∧
        storage.Sighted base handle object
          { file with bytes := overlay file.bytes 0 record.encode } := by
  unfold Target.persist
  apply Guarded.completes_bind
  apply Guarded.completes_require
  apply (sighted.completes_writeFull record.encode).mono
  rintro taken outcome after ⟨rfl, storage, rfl, written⟩
  simp only
  split
  · have told : Storage.answer (.sync handle) storage = (.ok (), storage) := written.behind.sync_eq
    exact Guarded.completes_call told ⟨rfl, rfl, storage, rfl, written⟩
  · exact Guarded.completes_pure ⟨rfl, rfl, storage, rfl, written⟩

/-- A marker that can be read is put in order, and yields its record or a clean one. -/
theorem Sighted.completes_normalize (target : Target)
    (sighted : world.storage.Sighted base handle object file) :
    (target.normalize handle).Completes lifecycle world fun _ outcome left after =>
      left = lifecycle ∧ match reading world.storage.extraSize file.bytes with
      | .ok (_, record) => outcome = .ok (record.getD .clean)
      | .error error => outcome = .error error ∧ ∃ interrupts,
          after = { world with storage := { world.storage with interrupts } } := by
  unfold Target.normalize
  apply Guarded.completes_bind
  apply Guarded.completes_require
  apply sighted.behind.completes_load.mono
  rintro taken outcome after ⟨rfl, interrupts, -, -, rfl⟩
  cases reading world.storage.extraSize file.bytes with
  | error error => exact ⟨rfl, rfl, interrupts, rfl⟩
  | ok loaded =>
    have onward : Sighted { world.storage with interrupts } base handle object file :=
      sighted.counted world.storage.maxTransfer interrupts world.storage.writeCalls
    obtain ⟨layout, record⟩ := loaded
    cases record with
    | none =>
      apply Guarded.completes_bind
      apply (Sighted.completes_persist target .clean onward).mono
      rintro late outcome left after ⟨rfl, rfl, -⟩
      exact Guarded.completes_pure ⟨rfl, rfl⟩
    | some record =>
      cases layout with
      | legacy =>
        apply Guarded.completes_bind
        apply (Sighted.completes_persist target record onward).mono
        rintro late outcome left after ⟨rfl, rfl, -⟩
        apply Guarded.completes_bind
        apply Guarded.completes_perform
        exact Guarded.completes_pure ⟨rfl, rfl⟩
      | _ => exact Guarded.completes_pure ⟨rfl, rfl⟩

/-- What opening comes to on a file that is there and not locked. -/
def Adopts (before : World Memory) (lifecycle : Lifecycle) (bytes : List UInt8)
    (outcome : Except StoreError Unit) (left : Lifecycle) (after : World Memory) : Prop :=
  match reading before.storage.extraSize bytes with
  | .ok (_, record) =>
    outcome = .ok () ∧ left.state = .opened ∧ after.cached = record.getD .clean
  | .error error =>
    outcome = .error error ∧ left = lifecycle ∧ after.cached = before.cached ∧
      (∀ path, after.storage.file path = before.storage.file path) ∧
      after.storage.writeCalls = before.storage.writeCalls

/-- Opening a file that is there adopts its record, or it closes the handle again and leaves everything
as it was. -/
theorem completes_takeOver (target : Target) (opens : world.storage.failingOpens = 0)
    (named : world.storage.named target.path = some object)
    (there : world.storage.objects.get? object = some file) (free : file.owner = none) :
    (do
      let handle ← Guarded.call (.openFile target.path)
      Guarded.closingOnFailure handle do
        let locked ← Target.acquireLock target handle
        let record ← Target.normalize target handle
        Target.publish record
        Target.adopt handle locked
        Guarded.emit (.opened target.path record locked) : Guarded Unit).Completes lifecycle world
      fun _ outcome left after => Adopts world lifecycle file.bytes outcome left after := by
  have sighted := Sighted.withHandle there
  apply Guarded.completes_bind
  apply Guarded.completes_call (answer_openFile opens named)
  apply Guarded.completes_closingOnFailure
  apply Guarded.completes_bind
  apply (Sighted.completes_acquireLock target sighted free).mono
  rintro taken outcome left after ⟨rfl, rfl, storage, held, rfl, locking, bytes, back, sizes, writes⟩
  apply Guarded.completes_bind
  apply (Sighted.completes_normalize target locking).mono
  rintro late outcome left after ⟨rfl, reached⟩
  have same : storage.extraSize = world.storage.extraSize := sizes
  rw [bytes, same] at reached
  unfold Adopts
  cases told : reading world.storage.extraSize file.bytes with
  | ok loaded =>
    rw [told] at reached
    subst reached
    unfold Target.publish
    apply Guarded.completes_bind
    apply Guarded.completes_bind
    apply Guarded.completes_perform
    apply Guarded.completes_perform
    apply Guarded.completes_bind
    apply Guarded.completes_set
    apply Guarded.completes_perform
    exact ⟨rfl, rfl, rfl⟩
  | error error =>
    rw [told] at reached
    obtain ⟨rfl, interrupts, rfl⟩ := reached
    have closing := locking.counted storage.maxTransfer interrupts storage.writeCalls
    refine ⟨rfl, rfl, rfl, fun path => closing.file_close (there.trans (congrArg some back.symm)) path,
      (writeCalls_close _ _).trans writes⟩

/-- What a store that is asked to open its marker comes to, if `seen` is what inspecting would have
shown. -/
def Foretells (seen : Except StoreError Snapshot) (before : World Memory)
    (outcome : Except StoreError Unit) (after : World Memory) : Prop :=
  if before.lifecycle.state = .opened then
    outcome = .error (.alreadyOpen "open") ∧ after = before
  else
    match seen with
    | .ok snapshot =>
      outcome = .ok () ∧ after.lifecycle.state = .opened ∧
        after.cached = snapshot.record.getD .clean
    | .error error =>
      outcome = .error error ∧ after.lifecycle = before.lifecycle ∧ after.cached = before.cached ∧
        (∀ path, after.storage.file path = before.storage.file path) ∧
        after.storage.writeCalls = before.storage.writeCalls

/-- A store that adopts what it reads does what inspecting has foretold. -/
theorem foretells_of_adopts {bytes : List UInt8} {outcome : Except StoreError Unit}
    {left : Lifecycle} {after : World Memory} (notOpen : world.lifecycle.state ≠ .opened)
    (adopts : Adopts world world.lifecycle bytes outcome left after) :
    Foretells (glimpse world.storage.extraSize bytes) world outcome
      { after with lifecycle := left } := by
  unfold Adopts at adopts
  unfold Foretells glimpse
  rw [if_neg notOpen]
  cases told : reading world.storage.extraSize bytes with
  | ok loaded =>
    rw [told] at adopts
    exact adopts
  | error error =>
    rw [told] at adopts
    exact adopts

/-- A store that is open refuses, whatever inspecting shows. -/
theorem foretells_refused {seen : Except StoreError Snapshot} (opened : world.lifecycle.state = .opened) :
    Foretells seen world (.error (.alreadyOpen "open")) world := by
  unfold Foretells
  rw [if_pos opened]
  exact ⟨rfl, rfl⟩

/-- Opening adopts the file that is there, if nobody has its lock. -/
theorem completes_openMarker (target : Target) (opens : world.storage.failingOpens = 0)
    (named : world.storage.named target.path = some object)
    (there : world.storage.objects.get? object = some file) (free : file.owner = none) :
    target.openMarker.Completes world fun _ outcome after =>
      Foretells (glimpse world.storage.extraSize file.bytes) world outcome after := by
  have present := answer_present world.storage target.path
  rw [named] at present
  unfold Target.openMarker Target.ensurePresent
  apply Guarded.completes_script
  apply Guarded.completes_bind
  apply Guarded.completes_ensureNotOpen
  · exact foretells_refused
  · intro notOpen
    apply Guarded.completes_bind
    apply Guarded.completes_bind
    apply Guarded.completes_call present
    apply Guarded.completes_pure
    apply (completes_takeOver target opens named there free).mono
    intro taken outcome left after adopts
    exact foretells_of_adopts notOpen adopts

/-- Where there is no file, opening makes an empty one and adopts a clean record. -/
theorem completes_openMarker_missing (target : Target) (opens : world.storage.failingOpens = 0)
    (sizes : world.storage.extraSize = 0) (absent : world.storage.named target.path = none) :
    target.openMarker.Completes world fun _ outcome after =>
      Foretells (.ok .missing) world outcome after := by
  have present := answer_present world.storage target.path
  rw [absent] at present
  have made : Storage.answer (.createNew target.path) world.storage =
      (.ok (), world.storage.put target.path []) := by
    change world.storage.createNew target.path = _
    simp only [createNew, absent]
  have named : (world.storage.put target.path []).named target.path =
      some ⟨world.storage.nextObject⟩ := Table.get?_set_self _ _ _
  have there : (world.storage.put target.path []).objects.get? ⟨world.storage.nextObject⟩ =
      some {} := Table.get?_set_self _ _ _
  unfold Target.openMarker Target.ensurePresent
  apply Guarded.completes_script
  apply Guarded.completes_bind
  apply Guarded.completes_ensureNotOpen
  · exact foretells_refused
  · intro notOpen
    apply Guarded.completes_bind
    apply Guarded.completes_bind
    apply Guarded.completes_call present
    apply Guarded.completes_bind
    apply Guarded.completes_ask made
    apply Guarded.completes_modify
    have taking : Guarded.Completes _ { world.lifecycle with associated := true }
        { world with storage := world.storage.put target.path [] } _ :=
      completes_takeOver target opens named there rfl
    apply taking.mono
    intro taken outcome left after adopts
    unfold Foretells
    rw [if_neg notOpen]
    have read : reading (world.storage.put target.path []).extraSize [] = .ok (.empty, none) := by
      change reading world.storage.extraSize [] = _
      rw [sizes]
      rfl
    unfold Adopts at adopts
    rw [read] at adopts
    exact adopts

/-- Inspecting a marker foretells what opening it comes to, on a memory that denies no opening: if the
file is there and nobody has its lock, or if there is none and sizes are told as they are.  As long as the
overstated size fits into a word, what is seen is what the whole file says, unless the file is shorter
than it has to be. -/
theorem inspect_predicts_open (store : Store) (opens : memory.failingOpens = 0) :
    (∀ bytes, memory.file store.target.path = some { bytes } →
      ∃ steps seen looked outcome after,
        (inspect store.target.path).run steps (store.world memory) = some (seen, looked) ∧
        store.target.openMarker.run steps (store.world memory) = some (outcome, after) ∧
        (bytes.length + memory.extraSize ≤ largestWord →
          seen = if memory.extraSize = 0 ∨ 2 ≤ bytes.length then
            .ok ⟨Layout.ofSize (bytes.length + memory.extraSize), bytes.length + memory.extraSize,
              Record.decode? bytes⟩
          else .error (.truncated (min 2 (bytes.length + memory.extraSize)) bytes.length)) ∧
        (∀ path, looked.storage.file path = memory.file path) ∧
        Foretells seen (store.world memory) outcome after) ∧
    (memory.named store.target.path = none → memory.extraSize = 0 →
      ∃ steps outcome after,
        (inspect store.target.path).run steps (store.world memory) =
          some (.ok .missing, store.world memory) ∧
        store.target.openMarker.run steps (store.world memory) = some (outcome, after) ∧
        Foretells (.ok .missing) (store.world memory) outcome after) := by
  constructor
  · intro bytes found
    obtain ⟨object, named, there⟩ := Option.bind_eq_some_iff.1 found
    have looking : (store.world memory).storage.failingOpens = 0 := opens
    obtain ⟨early, seen, looked, ⟨same, interrupts, -, -, unchanged⟩, inspected⟩ :=
      (completes_inspect looking named there).run_eq
    obtain ⟨late, outcome, after, foretold, opened⟩ :=
      (completes_openMarker store.target looking named there rfl).run_eq
    refine ⟨early.length + late.length, seen, looked, outcome, after, inspected late.length, ?_, ?_, ?_,
      ?_⟩
    · rw [Nat.add_comm]
      exact opened early.length
    · intro fits
      rw [same]
      exact glimpse_of_le fits
    · have closing := (Sighted.withHandle there).counted memory.maxTransfer interrupts memory.writeCalls
      rw [unchanged]
      exact closing.file_close there
    · rw [same]
      exact foretold
  · intro absent sizes
    have looking : Script.Completes _ (store.world memory) _ := completes_inspect_missing absent
    have opening : Script.Completes _ (store.world memory) _ :=
      completes_openMarker_missing store.target opens sizes absent
    obtain ⟨early, seen, looked, ⟨rfl, -, rfl⟩, inspected⟩ := looking.run_eq
    obtain ⟨late, outcome, after, foretold, opened⟩ := opening.run_eq
    refine ⟨early.length + late.length, outcome, after, inspected late.length, ?_, foretold⟩
    rw [Nat.add_comm]
    exact opened early.length

/-- A legacy marker whose size is overstated by one byte, on a memory that interrupts two transfers and
moves one byte at a time. -/
def overstated : Memory :=
  { holding ⟨"marker"⟩ (some [1]) with maxTransfer := 1, interrupts := 2, extraSize := 1 }

/-- Inspecting the overstated marker fails, and so does opening it, in the same way. -/
theorem inspect_predicts_open_overstated :
    overstated.failingOpens = 0 ∧ [1].length + overstated.extraSize ≤ largestWord ∧
      ∃ steps looked after,
      (inspect ⟨"marker"⟩).run steps ((Store.fresh ⟨⟨"marker"⟩, .standard⟩).world overstated) =
        some (.error (.truncated 2 1), looked) ∧
      (Target.openMarker ⟨⟨"marker"⟩, .standard⟩).run steps
        ((Store.fresh ⟨⟨"marker"⟩, .standard⟩).world overstated) =
          some (.error (.truncated 2 1), after) ∧
      after.storage.contents ⟨"marker"⟩ = some [1] := by
  have opens : overstated.failingOpens = 0 := rfl
  have found : overstated.file ⟨"marker"⟩ = some { bytes := [1] } := by rfl
  obtain ⟨steps, seen, looked, outcome, after, inspected, opened, same, -, foretold⟩ :=
    (inspect_predicts_open (Store.fresh ⟨⟨"marker"⟩, .standard⟩) opens).1 [1] found
  have fits : ([1] : List UInt8).length + overstated.extraSize ≤ largestWord := by decide
  obtain rfl : seen = .error (.truncated 2 1) := same fits
  obtain ⟨rfl, -, -, unchanged, -⟩ := foretold
  refine ⟨opens, fits, steps, looked, after, inspected, opened, ?_⟩
  rw [contents, unchanged]
  rfl

/-- A dirty legacy marker on a memory that overstates every size by the largest word. -/
def overstatedPastWords : Memory := { holding ⟨"marker"⟩ (some [1]) with extraSize := largestWord }

/-- Neither may the size go past the largest word, nor may the store have its marker open.  Past that word
the size starts over from zero, so that a dirty marker of one byte is taken for an empty one, and opening
it makes it clean.  And a store that has its marker open refuses to open it again, however well it can be
inspected. -/
theorem inspect_predicts_open_not_beyond :
    (overstatedPastWords.failingOpens = 0 ∧ overstatedPastWords.isLocked ⟨"marker"⟩ = false ∧
      ¬ (overstatedPastWords.extraSize = 0 ∨ 2 ≤ ([1] : List UInt8).length) ∧
      ∃ looked after,
        (inspect ⟨"marker"⟩).run 20
          ((Store.fresh ⟨⟨"marker"⟩, .standard⟩).world overstatedPastWords) =
            some (.ok ⟨.empty, 0, none⟩, looked) ∧
        (Target.openMarker ⟨⟨"marker"⟩, .standard⟩).run 20
          ((Store.fresh ⟨⟨"marker"⟩, .standard⟩).world overstatedPastWords) = some (.ok (), after) ∧
        after.storage.contents ⟨"marker"⟩ = some [0, 0]) ∧
    ∃ made : Store.Ran Memory (Except StoreError Unit),
      (Store.fresh ⟨⟨"marker"⟩, .readOnly⟩).run 20 (Target.create ⟨⟨"marker"⟩, .readOnly⟩) {} =
        some made ∧
      made.storage.failingOpens = 0 ∧ made.storage.isLocked ⟨"marker"⟩ = false ∧
      ∃ looked after,
        (inspect ⟨"marker"⟩).run 20 (made.store.world made.storage) =
          some (.ok ⟨.current, 2, some .created⟩, looked) ∧
        (Target.openMarker made.store.target).run 20 (made.store.world made.storage) =
          some (.error (.alreadyOpen "open"), after) := by
  constructor
  · exact ⟨rfl, rfl, by decide, _, _, rfl, rfl, rfl⟩
  · exact ⟨_, rfl, rfl, rfl, _, _, rfl, rfl⟩

end Memory

end CrashMarker
