/-
Module: CrashMarker.Proofs.Threads.Stages
Purpose: The stages of a transition, and what a thread may rely on at each of them.
Main exports:
  Target.transition_eq, Record.replay, Record.turns, Record.Changing, Shared, Ledger, Attained, Stands,
  Stands.act
-/
import CrashMarker.Proofs.Memory.Disturbed
import CrashMarker.Proofs.Traces.Evidence

namespace CrashMarker

/-!
Threads that share one store take turns at single actions.  A thread looks at its flag without the
mutex; if that does not settle the matter, it takes the mutex, looks once more, reads both flags, writes
the record, syncs it, and only then changes the cached flag and gives the mutex back.

Between any two of these actions other threads may act.  What a thread knows outside the mutex is a
matter of the past alone: that its flag has had the value asked for since it began.  What it knows under
the mutex is about the present: how the file, the cached flags and the bytes written so far belong
together.  Nobody else can change any of these meanwhile.
-/

/-! ## The stages -/

/-- Give the mutex back and end. -/
def Lifecycle.leave (lifecycle : Lifecycle) (outcome : Except StoreError Unit) :
    Script (Except StoreError Unit) :=
  .act (.release lifecycle) fun _ => .done outcome

namespace Target

variable (target : Target) (lifecycle : Lifecycle) (handle : Handle) (flag : Flag) (value : Bool)

/-- Report a change that has been made. -/
def reporting : Script (Except StoreError Unit) :=
  .act (.emit (.persisted target.path flag value)) fun _ => lifecycle.leave (.ok ())

def storing : Script (Except StoreError Unit) :=
  .act (.store flag value) fun _ => target.reporting lifecycle flag value

/-- Sync the record before the cached flag is changed. -/
def syncing : Script (Except StoreError Unit) :=
  .act (.ask (.sync handle)) fun
    | .ok _ => target.storing lifecycle flag value
    | .error cause => lifecycle.leave (.error (.storage cause))

/-- Go on with a record that has been written. -/
def concluding : Script (Except StoreError Unit) :=
  if target.config.syncOnWrite then target.syncing lifecycle handle flag value
  else target.storing lifecycle flag value

/-- Write what is left of a record. -/
def writing (record : Record) (written : Nat) : Script (Except StoreError Unit) :=
  .cycle written (fun written => .ask (.writeAt handle (0 + written) (record.encode.drop written)))
    (fun written answer => .done (writeTurn 2 written answer))
    fun
      | .ok _ => target.concluding lifecycle handle flag value
      | .error error => lifecycle.leave (.error error)

/-- Read the second flag of the record to be changed. -/
def noting (dirty : Bool) : Script (Except StoreError Unit) :=
  .act (.load .rebuild) fun rebuild =>
    target.writing lifecycle handle flag value ((Record.mk dirty rebuild).set flag value) 0

/-- Read the first flag of the record to be changed. -/
def looking : Script (Except StoreError Unit) :=
  .act (.load .dirty) fun dirty => target.noting lifecycle handle flag value dirty

/-- Look at the flag once more, now under the mutex. -/
def checking : Script (Except StoreError Unit) :=
  .act (.load flag) fun now =>
    if now = value then lifecycle.leave (.ok ())
    else
      match lifecycle.handle with
      | none => lifecycle.leave (.error .closed)
      | some handle => target.looking lifecycle handle flag value

def waiting : Script (Except StoreError Unit) :=
  .act .acquire fun lifecycle => target.checking lifecycle flag value

/-- A transition passes through these stages. -/
theorem transition_eq :
    target.transition flag value =
      .act (.load flag) fun now => if now = value then .done (.ok ()) else target.waiting flag value := by
  unfold transition waiting checking
  simp only [Script.perform, Script.bind_eq, Script.act_bind, Script.done_bind]
  congr 1
  funext now
  split
  · rfl
  simp only [Guarded.script, Script.perform, Script.bind_eq, Script.act_bind, Script.done_bind]
  congr 1
  funext lifecycle
  change Script.act _ _ = _
  congr 1
  funext again
  simp only [Script.done_bind, Script.pure_eq_done, ExceptT.bindCont]
  by_cases same : again = value
  · rw [if_pos same, if_pos same]
    rfl
  rw [if_neg same, if_neg same]
  obtain ⟨state, held, locked, associated⟩ := lifecycle
  cases held with
  | none => rfl
  | some handle =>
    change Script.act _ _ = Script.act _ _
    congr 1
    funext dirty
    change Script.act _ _ = Script.act _ _
    congr 1
    funext rebuild
    change Script.cycle _ _ _ _ = Script.cycle _ _ _ _
    congr 1
    funext outcome
    cases outcome with
    | error error => rfl
    | ok done =>
      simp only [Script.done_bind, Script.pure_eq_done, ExceptT.bindCont, concluding]
      by_cases syncs : target.config.syncOnWrite = true
      · simp only [syncs, if_true]
        change Script.act _ _ = Script.act _ _
        congr 1
        funext synced
        cases synced <;> rfl
      · simp only [syncs]
        rfl

end Target

/-! ## Changes one after the other -/

namespace Record

/-- The record after a number of changes. -/
def replay (record : Record) (changes : List (Flag × Bool)) : Record :=
  changes.foldl (fun record (flag, value) => record.set flag value) record

/-- The records that come of a number of changes, one after the other. -/
def turns : Record → List (Flag × Bool) → List Record
  | _, [] => []
  | record, (flag, value) :: changes =>
    record.set flag value :: turns (record.set flag value) changes

/-- Every change gives its flag a value that it did not have. -/
def Changing : Record → List (Flag × Bool) → Prop
  | _, [] => True
  | record, (flag, value) :: changes =>
    record.get flag ≠ value ∧ Changing (record.set flag value) changes

variable (record : Record) (early : List (Flag × Bool)) (flag : Flag) (value : Bool)

/-- Changes one after the other are replayed one after the other. -/
theorem replay_append (late : List (Flag × Bool)) :
    record.replay (early ++ late) = (record.replay early).replay late :=
  List.foldl_append

/-- The last change adds the last record. -/
theorem turns_snoc : record.turns (early ++ [(flag, value)]) =
    record.turns early ++ [(record.replay early).set flag value] := by
  induction early generalizing record with
  | nil => rfl
  | cons change early inductionHypothesis =>
    simp only [List.cons_append, turns, inductionHypothesis]
    rfl

/-- A further change has to change something. -/
theorem changing_snoc : record.Changing (early ++ [(flag, value)]) ↔
    record.Changing early ∧ (record.replay early).get flag ≠ value := by
  induction early generalizing record with
  | nil => simp [Changing, replay]
  | cons change early inductionHypothesis =>
    simp only [List.cons_append, Changing, inductionHypothesis, and_assoc]
    rfl

end Record

/-! ## What the mutex protects -/

/-- A store that threads share: it has its marker open, and had certain flags cached at first. -/
structure Shared where
  target : Target
  lifecycle : Lifecycle
  handle : Handle
  first : Record
  holds : lifecycle.handle = some handle

/-- How things belong together when a beginning of another record has been written: the cached flags are
what the changes have made of the first ones, a record was written for each change, and the file tells
the cached flags but for what has been written of the next record. -/
structure Ledger (shared : Shared) (world : World Memory) (taken : List Taken) (chunk : List UInt8) :
    Prop where
  cached : world.cached = shared.first.replay (published taken)
  changing : shared.first.Changing (published taken)
  written : accepted taken = (shared.first.turns (published taken)).flatMap
    (fun record => laid shared.handle 0 record.encode) ++ laid shared.handle 0 chunk
  file : ∃ base, ∃ file : FileObject, Record.decode? base = some world.cached ∧
    world.storage.InHand shared.target.path shared.handle
      { file with bytes := overlay base 0 chunk }

/-- A cached flag had a value at some instant, where instants are counted by the actions taken. -/
def Attained (first : Record) (taken : List Taken) (flag : Flag) (value : Bool) (began ended : Nat) :
    Prop :=
  ∃ instant, began ≤ instant ∧ instant ≤ ended ∧ instant ≤ taken.length ∧
    (first.replay (published (taken.take instant))).get flag = value

variable {shared : Shared} {world after : World Memory} {taken : List Taken} {step : Taken}
  {chunk : List UInt8} {flag : Flag} {value : Bool} {began ended : Nat}

/-- What a flag has been, it has been at every later time. -/
theorem Attained.later (attained : Attained shared.first taken flag value began ended)
    (late : List Taken) {later : Nat} (more : ended ≤ later) :
    Attained shared.first (taken ++ late) flag value began later := by
  obtain ⟨instant, since, before, passed, has⟩ := attained
  refine ⟨instant, since, Nat.le_trans before more, ?_, ?_⟩
  · rw [List.length_append]
    exact Nat.le_add_right_of_le passed
  · rwa [List.take_append_of_le_length passed]

/-- What a flag is now it has attained. -/
theorem Attained.now (since : began ≤ taken.length)
    (has : (shared.first.replay (published taken)).get flag = value) :
    Attained shared.first taken flag value began taken.length :=
  ⟨taken.length, since, Nat.le_refl _, Nat.le_refl _, by rwa [List.take_length]⟩

/-- There is but one file in hand. -/
theorem Memory.InHand.unique {memory : Memory} {path : Path} {handle : Handle} {file other : FileObject}
    (one : memory.InHand path handle file) (two : memory.InHand path handle other) : file = other := by
  obtain ⟨object, -, bound, there⟩ := one.reached
  obtain ⟨same, -, alsoBound, alsoThere⟩ := two.reached
  rw [bound] at alsoBound
  cases alsoBound
  rw [there] at alsoThere
  exact Option.some.inj alsoThere

namespace Ledger

/-- An action that writes nothing and changes no flag. -/
theorem quiet (ledger : Ledger shared world taken chunk) (cached : after.cached = world.cached)
    (storage : ∀ file, world.storage.InHand shared.target.path shared.handle file →
      after.storage.InHand shared.target.path shared.handle file)
    (unwritten : step.accepted = []) (unpublished : step.published = []) :
    Ledger shared after (taken ++ [step]) chunk := by
  have changes : published (taken ++ [step]) = published taken := by simp [unpublished]
  have bytes : accepted (taken ++ [step]) = accepted taken := by simp [unwritten]
  constructor
  · rw [changes, cached, ledger.cached]
  · rw [changes]
    exact ledger.changing
  · rw [changes, bytes]
    exact ledger.written
  · obtain ⟨base, file, decoded, inHand⟩ := ledger.file
    exact ⟨base, file, by rw [cached, decoded], storage _ inHand⟩

/-- An action that does nothing at all. -/
theorem still (ledger : Ledger shared world taken chunk) (unwritten : step.accepted = [])
    (unpublished : step.published = []) : Ledger shared world (taken ++ [step]) chunk :=
  ledger.quiet rfl (fun _ => id) unwritten unpublished

/-- With nothing written of another record, the file tells the cached flags. -/
theorem told (ledger : Ledger shared world taken []) :
    (world.storage.contents shared.target.path).bind Record.decode? = some world.cached := by
  obtain ⟨base, file, decoded, inHand⟩ := ledger.file
  have same : overlay base 0 [] = base := by simp [overlay_zero]
  rw [inHand.atRest.contents, Option.map_some, Option.bind_some, same, decoded]

/-- One more piece of the record has been written. -/
theorem write {record : Record} {written moved : Nat} {storage : Memory}
    (ledger : Ledger shared world taken (record.encode.take written)) (room : written + moved ≤ 2)
    (there : ∀ file, world.storage.InHand shared.target.path shared.handle file →
      storage.InHand shared.target.path shared.handle { file with
        bytes := overlay file.bytes written ((record.encode.drop written).take moved) }) :
    Ledger shared { world with storage }
      (taken ++ [⟨.ask (.writeAt shared.handle (0 + written) (record.encode.drop written)),
        .ok moved⟩])
      (record.encode.take (written + moved)) := by
  have changes : published (taken ++ [⟨.ask (.writeAt shared.handle (0 + written)
      (record.encode.drop written)), .ok moved⟩]) = published taken := by simp [Taken.published]
  have length : (record.encode.take written).length = written :=
    List.length_take_of_le (by rw [Record.length_encode]; omega)
  constructor
  · rw [changes]
    exact ledger.cached
  · rw [changes]
    exact ledger.changing
  · have piece : laid shared.handle 0 (record.encode.take (written + moved)) =
        laid shared.handle 0 (record.encode.take written) ++
          laid shared.handle (0 + written) ((record.encode.drop written).take moved) := by
      rw [List.take_add, laid_append, length]
    rw [changes, piece, ← List.append_assoc, ← ledger.written, accepted_append]
    simp [Taken.accepted]
  · obtain ⟨base, file, decoded, inHand⟩ := ledger.file
    refine ⟨base, file, decoded, ?_⟩
    have onward : overlay (overlay base 0 (record.encode.take written)) written
        ((record.encode.drop written).take moved) =
        overlay base 0 (record.encode.take (written + moved)) := by
      rw [overlay_onward base (Nat.le_refl written), Nat.max_eq_right (Nat.le_add_right _ _)]
      · rw [Record.length_encode]
        omega
      · exact room
    rw [← onward]
    exact there _ inHand

/-- A call to write what is left of a record either is interrupted and moves nothing, or moves some of
it on. -/
theorem turn {record : Record} {written : Nat} {answer : Except StorageError Nat}
    (ledger : Ledger shared world taken (record.encode.take written)) (room : written < 2)
    (performed : (Action.ask (.writeAt shared.handle (0 + written)
      (record.encode.drop written))).perform world = (answer, after)) :
    after.cached = world.cached ∧ after.lifecycle = world.lifecycle ∧
      ((writeTurn 2 written answer = .again written ∧
          after.storage.patience < world.storage.patience ∧
          Ledger shared after (taken ++ [⟨.ask (.writeAt shared.handle (0 + written)
            (record.encode.drop written)), answer⟩]) (record.encode.take written)) ∨
        ∃ moved, answer = .ok moved ∧ 0 < moved ∧ written + moved ≤ 2 ∧
          after.storage.patience ≤ world.storage.patience ∧
          Ledger shared after (taken ++ [⟨.ask (.writeAt shared.handle (0 + written)
            (record.encode.drop written)), answer⟩]) (record.encode.take (written + moved))) := by
  obtain ⟨base, file, -, inHand⟩ := ledger.file
  have length : (record.encode.drop written).length = 2 - written := by
    rw [List.length_drop, Record.length_encode]
  have answers : ∀ {own storage},
      world.storage.writeAt shared.handle (0 + written) (record.encode.drop written) =
        (own, storage) →
      answer = own ∧ after = { world with storage } := by
    intro own storage same
    simp only [Action.perform, Storage.answer, Memory.answer, same] at performed
    cases performed
    exact ⟨rfl, rfl⟩
  rcases inHand.writeAt_eq (0 + written) (by rw [length]; omega) with
    ⟨-, cause, storage, same, interrupted, there⟩ | ⟨storage, same, there⟩
  · obtain ⟨rfl, rfl⟩ := answers same
    refine ⟨rfl, rfl, Or.inl ⟨?_, Memory.patient.writes same interrupted, ?_⟩⟩
    · simp [writeTurn, interrupted]
    · exact ledger.quiet rfl (fun _ other => inHand.unique other ▸ there) rfl rfl
  · obtain ⟨rfl, rfl⟩ := answers same
    generalize isMoved : world.storage.transferLength (record.encode.drop written).length = moved
      at same there
    have some : 0 < moved := isMoved ▸ Memory.transferLength_pos _ (by rw [length]; omega)
    have most : moved ≤ 2 - written := by
      rw [← length, ← isMoved]
      exact Memory.transferLength_le _ _
    have answered : Conduct.honest Memory (.writeAt shared.handle (0 + written)
        (record.encode.drop written)) world.storage (.ok moved) storage := same
    refine ⟨rfl, rfl, Or.inr ⟨moved, rfl, some, by omega, Memory.patient.calls answered, ?_⟩⟩
    rw [Nat.zero_add] at there
    exact ledger.write (by omega) fun other isInHand => inHand.unique isInHand ▸ there

/-- Once the whole record has been written, its change is made. -/
theorem publish (ledger : Ledger shared world taken (world.cached.set flag value).encode)
    (stale : world.cached.get flag ≠ value) :
    Ledger shared { world with cached := world.cached.set flag value }
      (taken ++ [⟨.store flag value, ()⟩]) [] := by
  have changes : published (taken ++ [⟨.store flag value, ()⟩]) =
      published taken ++ [(flag, value)] := by simp [Taken.published]
  constructor
  · rw [changes, Record.replay_append, ← ledger.cached]
    rfl
  · rw [changes, Record.changing_snoc, ← ledger.cached]
    exact ⟨ledger.changing, stale⟩
  · rw [changes, Record.turns_snoc, ← ledger.cached, accepted_append, ledger.written]
    simp [Taken.accepted, laid]
  · obtain ⟨base, file, -, inHand⟩ := ledger.file
    refine ⟨overlay base 0 (world.cached.set flag value).encode, file, ?_, ?_⟩
    · rw [overlay_zero, Record.decode?_encode_append]
    · simpa [overlay_zero] using inHand

end Ledger

/-! ## What a thread may rely on -/

/-- A transition under way. -/
structure Call where
  flag : Flag
  value : Bool
  /-- How many actions had been taken when it began. -/
  began : Nat
  /-- What is left of it to do. -/
  rest : Script (Except StoreError Unit)

/-- At which stage a call may be, whether it has the mutex there, for how many more steps it is good at
most while no write is interrupted, and what it may rely on. -/
inductive Stands (shared : Shared) (world : World Memory) (taken : List Taken) (flag : Flag)
    (value : Bool) (began : Nat) : Bool → Nat → Script (Except StoreError Unit) → Prop where
  | begun : Stands shared world taken flag value began false 12 (shared.target.transition flag value)
  | waiting : Stands shared world taken flag value began false 11 (shared.target.waiting flag value)
  | checking (ledger : Ledger shared world taken []) :
      Stands shared world taken flag value began true 10
        (shared.target.checking shared.lifecycle flag value)
  | looking (ledger : Ledger shared world taken []) (stale : world.cached.get flag ≠ value) :
      Stands shared world taken flag value began true 9
        (shared.target.looking shared.lifecycle shared.handle flag value)
  | noting (ledger : Ledger shared world taken []) (stale : world.cached.get flag ≠ value) :
      Stands shared world taken flag value began true 8
        (shared.target.noting shared.lifecycle shared.handle flag value world.cached.dirty)
  | writing {written : Nat} (stale : world.cached.get flag ≠ value) (room : written < 2)
      (ledger : Ledger shared world taken ((world.cached.set flag value).encode.take written)) :
      Stands shared world taken flag value began true (7 - written)
        (shared.target.writing shared.lifecycle shared.handle flag value
          (world.cached.set flag value) written)
  | syncing (stale : world.cached.get flag ≠ value)
      (ledger : Ledger shared world taken (world.cached.set flag value).encode) :
      Stands shared world taken flag value began true 5
        (shared.target.syncing shared.lifecycle shared.handle flag value)
  | storing (stale : world.cached.get flag ≠ value)
      (ledger : Ledger shared world taken (world.cached.set flag value).encode) :
      Stands shared world taken flag value began true 4
        (shared.target.storing shared.lifecycle flag value)
  | reporting (ledger : Ledger shared world taken [])
      (attained : Attained shared.first taken flag value began taken.length) :
      Stands shared world taken flag value began true 3
        (shared.target.reporting shared.lifecycle flag value)
  | leaving (ledger : Ledger shared world taken [])
      (attained : Attained shared.first taken flag value began taken.length) :
      Stands shared world taken flag value began true 2 (shared.lifecycle.leave (.ok ()))
  | complete (attained : Attained shared.first taken flag value began taken.length) :
      Stands shared world taken flag value began false 1 (.done (.ok ()))

/-- Whether a thread has the mutex after an action, given whether it had it before. -/
def Action.keepsMutex (before : Bool) : Action → Bool
  | .acquire => true
  | .release _ => false
  | _ => before

/-- What a thread's own action does to what it may rely on, and what it leaves to others. -/
structure Onward (shared : Shared) (world after : World Memory) (taken : List Taken) (step : Taken)
    (flag : Flag) (value : Bool) (began : Nat) (inside : Bool) (left : Nat)
    (rest : Script (Except StoreError Unit)) : Prop where
  lifecycle : after.lifecycle = shared.lifecycle
  aside : inside = false → after = world ∧ step.accepted = [] ∧ step.published = []
  given : inside = true → step.action.keepsMutex inside = false →
    Ledger shared after (taken ++ [step]) []
  makes : ∀ change ∈ step.published, change = (flag, value)
  gives : ∀ lifecycle, step.action = .release lifecycle → inside = true
  stands : ∃ fewer, fewer + after.storage.patience < left + world.storage.patience ∧
    Stands shared after (taken ++ [step]) flag value began (step.action.keepsMutex inside) fewer rest

section Onward

variable {rest : Script (Except StoreError Unit)} {left fewer : Nat}

/-- A thread outside the mutex does nothing that concerns others. -/
theorem Onward.outside (lifecycle : world.lifecycle = shared.lifecycle)
    (unwritten : step.accepted = []) (unpublished : step.published = [])
    (other : ∀ lifecycle, step.action ≠ .release lifecycle) (less : fewer < left)
    (stands : Stands shared world (taken ++ [step]) flag value began (step.action.keepsMutex false)
      fewer rest) :
    Onward shared world world taken step flag value began false left rest where
  lifecycle := lifecycle
  aside _ := ⟨rfl, unwritten, unpublished⟩
  given inside := by cases inside
  makes := by simp [unpublished]
  gives lifecycle releases := absurd releases (other lifecycle)
  stands := ⟨fewer, Nat.add_lt_add_right less _, stands⟩

/-- A thread that keeps the mutex leaves nothing to others. -/
theorem Onward.within (lifecycle : after.lifecycle = shared.lifecycle)
    (keeps : step.action.keepsMutex true = true)
    (makes : ∀ change ∈ step.published, change = (flag, value))
    (less : fewer + after.storage.patience < left + world.storage.patience)
    (stands : Stands shared after (taken ++ [step]) flag value began true fewer rest) :
    Onward shared world after taken step flag value began true left rest where
  lifecycle := lifecycle
  aside outside := by cases outside
  given _ gone := by rw [keeps] at gone; cases gone
  makes := makes
  gives _ _ := rfl
  stands := ⟨fewer, less, by rwa [keeps]⟩

/-- A thread that keeps the mutex and only looks goes on to a stage it knows. -/
theorem Onward.looks (lifecycle : world.lifecycle = shared.lifecycle)
    (keeps : step.action.keepsMutex true = true) (unpublished : step.published = [])
    (less : fewer < left)
    (stands : Stands shared world (taken ++ [step]) flag value began true fewer rest) :
    Onward shared world world taken step flag value began true left rest :=
  .within lifecycle keeps (by simp [unpublished]) (Nat.add_lt_add_right less _) stands

end Onward

namespace Stands

variable {inside : Bool} {left : Nat} {rest : Script (Except StoreError Unit)}

/-- What a thread outside the mutex relies on is not for others to change. -/
theorem beside (stands : Stands shared world taken flag value began false left rest) :
    Stands shared after (taken ++ [step]) flag value began false left rest := by
  cases stands with
  | begun => exact .begun
  | waiting => exact .waiting
  | complete attained => exact .complete (attained.later [step] (by simp))

/-- What a thread relies on is not changed by others that write nothing and change no flag. -/
theorem aside (stands : Stands shared world taken flag value began inside left rest)
    (unwritten : step.accepted = []) (unpublished : step.published = []) :
    Stands shared world (taken ++ [step]) flag value began inside left rest := by
  have quiet : ∀ {chunk}, Ledger shared world taken chunk →
      Ledger shared world (taken ++ [step]) chunk := fun ledger => ledger.still unwritten unpublished
  cases stands with
  | begun => exact .begun
  | waiting => exact .waiting
  | checking ledger => exact .checking (quiet ledger)
  | looking ledger stale => exact .looking (quiet ledger) stale
  | noting ledger stale => exact .noting (quiet ledger) stale
  | writing stale room ledger => exact .writing stale room (quiet ledger)
  | syncing stale ledger => exact .syncing stale (quiet ledger)
  | storing stale ledger => exact .storing stale (quiet ledger)
  | reporting ledger attained => exact .reporting (quiet ledger) (attained.later [step] (by simp))
  | leaving ledger attained => exact .leaving (quiet ledger) (attained.later [step] (by simp))
  | complete attained => exact .complete (attained.later [step] (by simp))

/-- A call to write leads on to what follows the record, or to another call. -/
theorem act_writing {written : Nat} {action : Action}
    {next : action.Answer → Script (Except StoreError Unit)} {answer : action.Answer}
    (stale : world.cached.get flag ≠ value) (room : written < 2)
    (ledger : Ledger shared world taken ((world.cached.set flag value).encode.take written))
    (acting : (shared.target.writing shared.lifecycle shared.handle flag value
      (world.cached.set flag value) written).head = .acting action next)
    (performed : action.perform world = (answer, after))
    (lifecycle : world.lifecycle = shared.lifecycle) :
    Onward shared world after taken ⟨action, answer⟩ flag value began true (7 - written)
      (next answer) := by
  cases acting
  obtain ⟨cached, same, turned⟩ := ledger.turn room performed
  rw [← same] at lifecycle
  rw [← cached] at stale turned ⊢
  rcases turned with ⟨again, less, kept⟩ | ⟨moved, rfl, some, most, less, wrote⟩
  · simp only [Script.done_bind, again]
    exact .within lifecycle rfl (by simp [Taken.published]) (Nat.add_lt_add_left less _)
      (.writing stale room kept)
  simp only [Script.done_bind, writeTurn_ok some]
  by_cases more : written + moved < 2
  · simp only [if_pos more]
    exact .within lifecycle rfl (by simp [Taken.published])
      (Nat.add_lt_add_of_lt_of_le (by omega) less) (.writing stale more wrote)
  · rw [List.take_of_length_le (by rw [Record.length_encode]; omega)] at wrote
    simp only [if_neg more, Target.concluding]
    cases shared.target.config.syncOnWrite with
    | true =>
      exact .within lifecycle rfl (by simp [Taken.published])
        (Nat.add_lt_add_of_lt_of_le (by omega) less) (.syncing stale wrote)
    | false =>
      exact .within lifecycle rfl (by simp [Taken.published])
        (Nat.add_lt_add_of_lt_of_le (by omega) less) (.storing stale wrote)

/-- Each action leads from one stage to the next. -/
theorem act {action : Action} {next : action.Answer → Script (Except StoreError Unit)}
    {answer : action.Answer}
    (stands : Stands shared world taken flag value began inside left rest)
    (acting : rest.head = .acting action next) (performed : action.perform world = (answer, after))
    (lifecycle : world.lifecycle = shared.lifecycle)
    (cached : world.cached = shared.first.replay (published taken)) (since : began ≤ taken.length)
    (free : action = .acquire → Ledger shared world taken []) :
    Onward shared world after taken ⟨action, answer⟩ flag value began inside left (next answer) := by
  cases stands with
  | begun =>
    rw [Target.transition_eq] at acting
    cases acting
    cases performed
    by_cases same : world.cached.get flag = value
    · simp only [if_pos same]
      rw [cached] at same
      exact .outside lifecycle rfl rfl (by simp) (by decide)
        (.complete ((Attained.now since same).later _ (by simp)))
    · simp only [if_neg same]
      exact .outside lifecycle rfl rfl (by simp) (by decide) .waiting
  | waiting =>
    cases acting
    cases performed
    simp only [lifecycle]
    exact .outside lifecycle rfl rfl (by simp) (by decide) (.checking ((free rfl).still rfl rfl))
  | checking ledger =>
    cases acting
    cases performed
    by_cases same : world.cached.get flag = value
    · simp only [if_pos same]
      rw [cached] at same
      exact .looks lifecycle rfl rfl (by decide)
        (.leaving (ledger.still rfl rfl) ((Attained.now since same).later _ (by simp)))
    · simp only [if_neg same, shared.holds]
      exact .looks lifecycle rfl rfl (by decide) (.looking (ledger.still rfl rfl) same)
  | looking ledger stale =>
    cases acting
    cases performed
    exact .looks lifecycle rfl rfl (by decide) (.noting (ledger.still rfl rfl) stale)
  | noting ledger stale =>
    cases acting
    cases performed
    exact .looks lifecycle rfl rfl (by decide)
      (.writing stale Nat.two_pos (ledger.still rfl rfl))
  | writing stale room ledger => exact act_writing stale room ledger acting performed lifecycle
  | syncing stale ledger =>
    cases acting
    obtain ⟨base, file, -, inHand⟩ := ledger.file
    have synced : (Action.ask (.sync shared.handle)).perform world = (.ok (), world) := by
      simp only [Action.perform, Storage.answer, Memory.answer, inHand.sync_eq]
    cases synced.symm.trans performed
    exact .looks lifecycle rfl rfl (by decide) (.storing stale (ledger.still rfl rfl))
  | storing stale ledger =>
    cases acting
    cases performed
    have wrote := ledger.publish stale
    refine .within lifecycle rfl (fun _ => List.mem_singleton.1)
      (Nat.add_lt_add_right (Nat.lt_succ_self 3) _)
      (.reporting wrote (.now (Nat.le_trans since (by simp)) ?_))
    rw [← wrote.cached]
    exact Record.get_set_self _ _ _
  | reporting ledger attained =>
    cases acting
    cases performed
    exact .within lifecycle rfl (by simp [Taken.published])
      (Nat.add_lt_add_right (Nat.lt_succ_self 2) _)
      (.leaving (ledger.quiet rfl (fun _ => id) rfl rfl) (attained.later _ (by simp)))
  | leaving ledger attained =>
    cases acting
    cases performed
    have given : Ledger shared { world with lifecycle := shared.lifecycle }
        (taken ++ [⟨.release shared.lifecycle, ()⟩]) [] := ledger.quiet rfl (fun _ => id) rfl rfl
    refine ⟨rfl, by simp, fun _ _ => given, by simp [Taken.published], fun _ _ => rfl, 1,
      Nat.add_lt_add_right (Nat.lt_succ_self 1) _, ?_⟩
    exact .complete (attained.later _ (by simp))
  | complete attained => cases acting

/-- A call that has not returned has a step to go. -/
theorem left_pos (stands : Stands shared world taken flag value began inside left rest) :
    0 < left := by
  cases stands <;> omega

/-- A call is over and has succeeded, or it has an action to take, and whoever has the mutex does not wait
for it. -/
theorem runs (stands : Stands shared world taken flag value began inside left rest) :
    (rest = .done (.ok ()) ∧ inside = false ∧
        Attained shared.first taken flag value began taken.length) ∨
      ∃ action next, rest.head = .acting action next ∧ (inside = true → action ≠ .acquire) := by
  cases stands with
  | begun => exact Or.inr ⟨_, _, by rw [Target.transition_eq]; rfl, nofun⟩
  | waiting => exact Or.inr ⟨_, _, rfl, nofun⟩
  | complete attained => exact Or.inl ⟨rfl, rfl, attained⟩
  | _ => exact Or.inr ⟨_, _, rfl, fun _ => nofun⟩

/-- Whoever has the mutex knows how much of a record has been written, and that it is needed. -/
theorem ledger (stands : Stands shared world taken flag value began true left rest) :
    ∃ chunk, Ledger shared world taken chunk ∧ chunk <+: (world.cached.set flag value).encode ∧
      (chunk ≠ [] → world.cached.get flag ≠ value) := by
  cases stands with
  | checking ledger => exact ⟨_, ledger, List.nil_prefix, nofun⟩
  | looking ledger => exact ⟨_, ledger, List.nil_prefix, nofun⟩
  | noting ledger => exact ⟨_, ledger, List.nil_prefix, nofun⟩
  | writing stale room ledger => exact ⟨_, ledger, List.take_prefix _ _, fun _ => stale⟩
  | syncing stale ledger => exact ⟨_, ledger, List.prefix_rfl, fun _ => stale⟩
  | storing stale ledger => exact ⟨_, ledger, List.prefix_rfl, fun _ => stale⟩
  | reporting ledger => exact ⟨_, ledger, List.nil_prefix, nofun⟩
  | leaving ledger => exact ⟨_, ledger, List.nil_prefix, nofun⟩

/-- Whoever is about to write is about to write what is left of the record that differs from the cached
flags in its flag, and before the first byte the file tells the cached flags. -/
theorem writes {handle : Handle} {offset : Nat} {bytes : List UInt8}
    {next : (Action.ask (.writeAt handle offset bytes)).Answer → Script (Except StoreError Unit)}
    (stands : Stands shared world taken flag value began inside left rest)
    (acting : rest.head = .acting (.ask (.writeAt handle offset bytes)) next) :
    handle = shared.handle ∧ bytes = (world.cached.set flag value).encode.drop offset ∧
      offset < 2 ∧ world.cached.get flag ≠ value ∧
      (offset = 0 → Ledger shared world taken []) := by
  cases stands with
  | begun =>
    rw [Target.transition_eq] at acting
    cases acting
  | writing stale room ledger =>
    cases acting
    simp only [Nat.zero_add]
    refine ⟨trivial, trivial, room, stale, ?_⟩
    rintro rfl
    exact ledger
  | _ => cases acting

end Stands

end CrashMarker
