/-
Module: CrashMarker.Proofs.Coherence
Purpose: When the file tells what a transition that has returned without an error was to make it tell.
Main exports: Deed, settled, Chronicle, Chronicle.standing, transition_tells
-/
import CrashMarker.Proofs.Commands
import CrashMarker.Proofs.Memory.Faulted
import CrashMarker.Proofs.Operations

namespace CrashMarker

open Memory (Unreliable Shows)

/-!
The flags of a store change only after the record has been written, but a transition that fails may
have written it all the same.  From then on the file may tell the flag that was asked for, while the
store still has the flag as it was.  A transition back then finds nothing to do.  All other ways
through the operations of a store keep the two together, flag by flag, and a transition that does write
brings them together again.
-/

/-! ## What a store has done -/

/-- What a store was asked to do, the flags that it had then, and what it returned. -/
structure Deed where
  operation : Operation
  cached : Record
  outcome : Except StoreError Unit

/-- Whether the file certainly tells a flag as the store has it, going by what the store has done since
it was new, the latest deed first.  What tells against it is a change of that flag that has failed. -/
def settled (flag : Flag) : List Deed → Bool
  | [] => true
  | deed :: earlier =>
    match deed.operation, deed.outcome with
    | .create, .ok _ => true
    | .openMarker, .ok _ => true
    | .transition changed value, outcome =>
      if deed.cached.get changed = value then settled flag earlier
      else
        match outcome with
        | .ok _ => true
        | .error _ => decide (flag ≠ changed) && settled flag earlier
    | _, _ => settled flag earlier

/-- What may become of a new store that is never asked to delete its marker, on a memory whose calls
may fail.  A store that fails to give up its lock while it deletes still says that it is open, and has
nothing in hand. -/
inductive Chronicle (failures : StorageError → Prop) (target : Target) (memory : Memory) :
    List Deed → Store → Memory → Prop where
  | fresh : Chronicle failures target memory [] (.fresh target) memory
  | next {deeds : List Deed} {store next : Store} {now after : Memory} {operation : Operation}
      {outcome : Except StoreError Unit} (chronicle : Chronicle failures target memory deeds store now)
      (kept : operation ≠ .delete)
      (performs : store.Performs (Unreliable failures) operation now outcome next after) :
      Chronicle failures target memory (⟨operation, store.cached, outcome⟩ :: deeds) next after

/-- How a store stands to the file of its path.  It has the file in hand, which then has a record, and
tells every settled flag as the store has it, or it has nothing in hand. -/
inductive Standing (deeds : List Deed) (store : Store) (memory : Memory) : Prop where
  | holding {handle : Handle} {file : FileObject}
      (lifecycle : store.lifecycle = ⟨.opened, some handle, store.target.config.fileLock, true⟩)
      (inHand : memory.InHand store.target.path handle file) (nonempty : 0 < file.bytes.length)
      (told : ∀ flag, settled flag deeds →
        (Record.loaded (some file.bytes)).get flag = store.cached.get flag)
  | resting {found : Option FileObject} (notOpen : store.lifecycle.state ≠ .opened)
      (letGo : store.lifecycle.handle = none)
      (atRest : memory.AtRest store.target.path found)

variable {failures : StorageError → Prop} {target : Target} {deeds : List Deed}
  {store next : Store} {memory now after : Memory} {operation : Operation} {flag : Flag} {value : Bool}
  {outcome : Except StoreError Unit} {found : Option FileObject}

/-! ## What one operation preserves -/

/-- Setting up brings the flags together, or it leaves a store that is not open as it was. -/
theorem Standing.of_setUp {owner : Option Handle} {record : Record} {world : World Memory}
    (setUp : SetUp failures store.target found owner record (store.world memory) outcome world)
    (notOpen : store.lifecycle.state ≠ .opened) (letGo : store.lifecycle.handle = none) :
    Standing deeds (store.after world) world.storage := by
  cases setUp with
  | opened cached lifecycle long told free inHand =>
    refine .holding lifecycle inHand (Nat.lt_of_lt_of_le Nat.two_pos long) ?_
    intro flag settledFlag
    rw [told, ← cached]
    rfl
  | locked held owned locking cached lifecycle atRest =>
    have same : (store.after world).lifecycle = store.lifecycle := lifecycle
    refine .resting ?_ ?_ atRest
    · rw [same]
      exact notOpen
    · rw [same]
      exact letGo
  | failed failing cached lifecycle atRest =>
    refine .resting ?_ ?_ atRest
    · intro opened
      exact notOpen ((congrArg Lifecycle.state lifecycle).symm.trans opened)
    · exact (congrArg Lifecycle.handle lifecycle).trans letGo

/-- How a store stands to its file once it has been asked to create its marker. -/
theorem Standing.create (standing : Standing deeds store memory)
    (performs : store.Performs (Unreliable failures) .create memory outcome next after) :
    Standing (⟨.create, store.cached, outcome⟩ :: deeds) next after := by
  cases standing with
  | holding lifecycle inHand nonempty told =>
    obtain ⟨rfl, rfl, rfl⟩ :=
      performs.unchanged (upholds_create_refused (congrArg Lifecycle.state lifecycle))
    exact .holding lifecycle inHand nonempty told
  | resting notOpen letGo atRest =>
    obtain ⟨world, ⟨setUp, -⟩, rfl, rfl⟩ :=
      performs.of_upholds (Memory.shows_anything _ _)
        (atRest.upholds_create trivial (fun _ => trivial) notOpen)
    exact .of_setUp setUp notOpen letGo

/-- The same for opening it. -/
theorem Standing.openMarker (standing : Standing deeds store memory)
    (performs : store.Performs (Unreliable failures) .openMarker memory outcome next after) :
    Standing (⟨.openMarker, store.cached, outcome⟩ :: deeds) next after := by
  cases standing with
  | holding lifecycle inHand nonempty told =>
    obtain ⟨rfl, rfl, rfl⟩ :=
      performs.unchanged (upholds_openMarker_refused (congrArg Lifecycle.state lifecycle))
    exact .holding lifecycle inHand nonempty told
  | @resting found notOpen letGo atRest =>
    have start : memory.Shows store.target.path fun contents =>
        Record.loaded contents = Record.loaded (found.map (·.bytes)) := by
      rw [atRest.shows_iff]
    obtain ⟨world, setUp, rfl, rfl⟩ :=
      performs.of_upholds start (atRest.upholds_openMarker notOpen)
    exact .of_setUp setUp notOpen letGo

/-- The same for closing it, which writes nothing. -/
theorem Standing.closeMarker (standing : Standing deeds store memory)
    (performs : store.Performs (Unreliable failures) .closeMarker memory outcome next after) :
    Standing (⟨.closeMarker, store.cached, outcome⟩ :: deeds) next after := by
  cases standing with
  | @holding handle file lifecycle inHand nonempty told =>
    have holds : store.lifecycle.handle = some handle := congrArg Lifecycle.handle lifecycle
    have start : memory.Shows store.target.path fun _ => True := trivial
    obtain ⟨world, ⟨-, closed, atRest, -⟩, rfl, rfl⟩ :=
      performs.of_upholds start (inHand.upholds_closeMarker holds)
    refine .resting ?_ (congrArg Lifecycle.handle closed) atRest
    intro opened
    cases (congrArg Lifecycle.state closed).symm.trans opened
  | resting notOpen letGo atRest =>
    obtain ⟨rfl, rfl, rfl⟩ := performs.unchanged (upholds_closeMarker_idle letGo)
    exact .resting notOpen letGo atRest

/-- While one flag is changed, the file goes on telling the others as it did. -/
theorem get_loaded_of_performs {other : Flag} (different : other ≠ flag)
    (same : (Record.loaded (memory.contents store.target.path)).get other = store.cached.get other)
    (performs : store.Performs (Unreliable failures) (.transition flag value) memory outcome next
      after) :
    (Record.loaded (after.contents store.target.path)).get other = store.cached.get other := by
  have kept : (store.cached.set flag value).get other = store.cached.get other :=
    store.cached.get_set_of_ne value different
  have safe := safeToWrite_get (store.cached.set flag value) other
  rw [kept] at safe
  exact performs.always same (Memory.upholds_transition_anywhere safe)

/-- A file that is not empty stays so while a flag is changed. -/
theorem nonempty_of_performs
    (nonempty : ∃ bytes, memory.contents store.target.path = some bytes ∧ 0 < bytes.length)
    (performs : store.Performs (Unreliable failures) (.transition flag value) memory outcome next
      after) :
    ∃ bytes, after.contents store.target.path = some bytes ∧ 0 < bytes.length :=
  performs.always nonempty (Memory.upholds_transition_anywhere (safeToWrite_nonempty _))

/-- Changing a flag of a file in hand brings the flags together, and where it fails the other flag
stays as it was. -/
theorem standing_of_change {handle : Handle} {file : FileObject}
    (changes : store.cached.get flag ≠ value)
    (lifecycle : store.lifecycle = ⟨.opened, some handle, store.target.config.fileLock, true⟩)
    (inHand : memory.InHand store.target.path handle file) (nonempty : 0 < file.bytes.length)
    (told : ∀ flag, settled flag deeds →
      (Record.loaded (some file.bytes)).get flag = store.cached.get flag)
    (performs : store.Performs (Unreliable failures) (.transition flag value) memory outcome next
      after) :
    Standing (⟨.transition flag value, store.cached, outcome⟩ :: deeds) next after := by
  have holds : store.lifecycle.handle = some handle := congrArg Lifecycle.handle lifecycle
  have before : memory.contents store.target.path = some file.bytes := inHand.atRest.contents
  have full := nonempty_of_performs ⟨_, before, nonempty⟩ performs
  have others : ∀ name, name ≠ flag → settled name deeds →
      (Record.loaded (after.contents store.target.path)).get name = store.cached.get name := by
    intro name different settledName
    apply get_loaded_of_performs different ?_ performs
    rw [before]
    exact told name settledName
  obtain ⟨world, ⟨left, ⟨rfl, cached, written⟩ | ⟨⟨cause, error, failing, rfl⟩, cached, bytes,
    written⟩⟩, rfl, rfl⟩ := performs.of_upholds trivial (inHand.upholds_transition changes holds)
  · refine .holding (left.trans lifecycle) written ?_ ?_
    · exact Nat.lt_of_lt_of_le Nat.two_pos (Record.two_le_length_overlay _ _)
    · intro name _
      rw [Record.loaded_overlay_encode, ← cached]
      rfl
  · have shown : world.storage.contents store.target.path = some bytes := written.atRest.contents
    refine .holding (left.trans lifecycle) written ?_ ?_
    · obtain ⟨held, same, long⟩ := full
      cases same.symm.trans shown
      exact long
    · intro name settledName
      simp only [settled, changes, if_false, Bool.and_eq_true, decide_eq_true_eq] at settledName
      obtain ⟨different, earlier⟩ := settledName
      have kept := others name different earlier
      rw [shown] at kept
      exact kept.trans (congrArg (·.get name) cached.symm)

/-- How a store stands to its file once it has been asked to bring one flag to a value. -/
theorem Standing.transition (standing : Standing deeds store memory)
    (performs : store.Performs (Unreliable failures) (.transition flag value) memory outcome next
      after) :
    Standing (⟨.transition flag value, store.cached, outcome⟩ :: deeds) next after := by
  by_cases same : store.cached.get flag = value
  · obtain ⟨rfl, rfl, rfl⟩ := performs.unchanged (upholds_transition_idle same)
    cases standing with
    | holding lifecycle inHand nonempty told =>
      refine .holding lifecycle inHand nonempty ?_
      intro name settledName
      simp only [settled, same, if_true] at settledName
      exact told name settledName
    | resting notOpen letGo atRest => exact .resting notOpen letGo atRest
  · cases standing with
    | holding lifecycle inHand nonempty told =>
      exact standing_of_change same lifecycle inHand nonempty told performs
    | resting notOpen letGo atRest =>
      obtain ⟨rfl, rfl, rfl⟩ := performs.unchanged (upholds_transition_refused same letGo)
      exact .resting notOpen letGo atRest

/-- How a store stands to its file is known after each operation but deleting. -/
theorem Standing.performs (standing : Standing deeds store memory) (kept : operation ≠ .delete)
    (performs : store.Performs (Unreliable failures) operation memory outcome next after) :
    Standing (⟨operation, store.cached, outcome⟩ :: deeds) next after := by
  cases operation with
  | create => exact standing.create performs
  | openMarker => exact standing.openMarker performs
  | closeMarker => exact standing.closeMarker performs
  | delete => exact absurd rfl kept
  | transition flag value => exact standing.transition performs

/-! ## What a whole chronicle preserves -/

theorem Chronicle.target_eq (chronicle : Chronicle failures target memory deeds store now) :
    store.target = target := by
  induction chronicle with
  | fresh => rfl
  | next _ _ performs inductionHypothesis => exact performs.target_eq.trans inductionHypothesis

/-- At every point of a chronicle the store stands to its file as its deeds tell. -/
theorem Chronicle.standing (chronicle : Chronicle failures target memory deeds store now)
    (atRest : memory.AtRest target.path found) : Standing deeds store now := by
  induction chronicle with
  | fresh => exact .resting nofun rfl atRest
  | next _ kept performs inductionHypothesis => exact inductionHypothesis.performs kept performs

/-! ## What a transition that returns without an error says about the file -/

/-- Who opens a file gets the record that it stands for. -/
theorem cached_of_openMarker (notOpen : store.lifecycle.state ≠ .opened)
    (atRest : memory.AtRest store.target.path found)
    (performs : store.Performs (Unreliable failures) .openMarker memory (.ok ()) next after) :
    next.cached = Record.loaded (found.map (·.bytes)) := by
  have start : memory.Shows store.target.path fun contents =>
      Record.loaded contents = Record.loaded (found.map (·.bytes)) := by
    rw [atRest.shows_iff]
  obtain ⟨world, setUp, rfl, -⟩ := performs.of_upholds start (atRest.upholds_openMarker notOpen)
  cases setUp with
  | opened cached => exact cached

/-- Once a store that has a file in hand has vanished, so does the next one to open the file. -/
theorem cached_after_crash {handle : Handle} {file : FileObject} {reopened : Store} {last : Memory}
    (holds : store.lifecycle.handle = some handle)
    (inHand : memory.InHand store.target.path handle file)
    (performs : (Store.fresh store.target).Performs (Unreliable failures) .openMarker
      (store.crash memory) (.ok ()) reopened last) :
    reopened.cached = Record.loaded (some file.bytes) := by
  rw [Store.crash_of_handle holds] at performs
  have fresh : (Store.fresh store.target).lifecycle.state ≠ .opened := nofun
  have cached := cached_of_openMarker fresh inHand.close performs
  rw [Option.map_some, Memory.bytes_released] at cached
  exact cached

/-- The file that an open store has in hand after a transition without an error. -/
theorem Standing.transition_ok (standing : Standing deeds store memory)
    (opened : store.lifecycle.state = .opened)
    (performs : store.Performs (Unreliable failures) (.transition flag value) memory (.ok ()) next
      after) :
    ∃ handle file, next.lifecycle.handle = some handle ∧
      after.InHand store.target.path handle file ∧ 0 < file.bytes.length ∧
      ((Record.loaded (some file.bytes)).get flag = value ↔
        (store.cached.get flag = value →
          (Record.loaded (memory.contents store.target.path)).get flag = value)) ∧
      (settled flag (⟨.transition flag value, store.cached, .ok ()⟩ :: deeds) →
        (Record.loaded (some file.bytes)).get flag = value) := by
  cases standing with
  | resting notOpen => exact absurd opened notOpen
  | @holding handle file lifecycle inHand nonempty told =>
    have holds : store.lifecycle.handle = some handle := congrArg Lifecycle.handle lifecycle
    by_cases same : store.cached.get flag = value
    · -- The store takes the flag to be there already, so the file is what it was.
      obtain ⟨-, rfl, rfl⟩ := performs.unchanged (upholds_transition_idle same)
      refine ⟨handle, file, holds, inHand, nonempty, ?_, ?_⟩
      · rw [inHand.atRest.contents, Option.map_some]
        exact ⟨fun shown _ => shown, fun shown => shown same⟩
      · intro settledFlag
        simp only [settled, same, if_true] at settledFlag
        exact (told flag settledFlag).trans same
    · obtain ⟨world, ⟨left, ⟨-, cached, written⟩ | ⟨⟨_, _, _, impossible⟩, -⟩⟩, rfl, rfl⟩ :=
        performs.of_upholds trivial (inHand.upholds_transition same holds)
      · have shown : (Record.loaded (some (overlay file.bytes 0
            (store.cached.set flag value).encode))).get flag = value := by
          rw [Record.loaded_overlay_encode, Record.get_set_self]
        refine ⟨handle, _, (congrArg Lifecycle.handle left).trans holds, written, ?_, ?_,
          fun _ => shown⟩
        · exact Nat.lt_of_lt_of_le Nat.two_pos (Record.two_le_length_overlay _ _)
        · exact ⟨fun _ impossible => absurd impossible same, fun _ => shown⟩
      · cases impossible

/-- After a transition of an open store has returned without an error, the file holds a record, and
whoever opens the file next has that record.  It has the flag as asked for, unless the store had the
flag so already and the file had not, and that can be only if a change of the flag has failed and no
record has been written since. -/
theorem transition_tells (atRest : memory.AtRest target.path found)
    (chronicle : Chronicle failures target memory deeds store now)
    (opened : store.lifecycle.state = .opened)
    (performs : store.Performs (Unreliable failures) (.transition flag value) now (.ok ()) next
      after) :
    ∃ bytes shown, after.contents target.path = some bytes ∧ Record.decode? bytes = some shown ∧
      (shown.get flag = value ↔
        (store.cached.get flag = value →
          (Record.loaded (now.contents target.path)).get flag = value)) ∧
      (settled flag (⟨.transition flag value, store.cached, .ok ()⟩ :: deeds) →
        shown.get flag = value) ∧
      ∀ reopened last, (Store.fresh target).Performs (Unreliable failures) .openMarker
        (next.crash after) (.ok ()) reopened last → reopened.cached = shown := by
  cases chronicle.target_eq
  have standing := chronicle.standing atRest
  have reached : next.target = store.target := performs.target_eq
  obtain ⟨handle, file, holds, inHand, nonempty, exactly, enough⟩ :=
    standing.transition_ok opened performs
  refine ⟨file.bytes, Record.loaded (some file.bytes), inHand.atRest.contents,
    Record.decode?_eq_loaded nonempty, exactly, enough, ?_⟩
  intro reopened last opens
  rw [← reached] at inHand opens
  exact cached_after_crash holds inHand opens

/-! ## How the two come apart -/

/-- A transition whose write fails leaves the store as it was, whatever the write has done. -/
theorem performs_transition_failed {conduct : Conduct Memory} {handle : Handle}
    {cause : StorageError} (changes : store.cached.get flag ≠ value)
    (holds : store.lifecycle.handle = some handle) (final : cause.isInterrupted = false)
    (answered : conduct (.writeAt handle 0 (store.cached.set flag value).encode) memory
      (.error cause) after) :
    store.Performs conduct (.transition flag value) memory (.error (.storage cause)) store after := by
  obtain ⟨target, cached, ⟨state, held, locked, associated⟩⟩ := store
  cases holds
  let lifecycle : Lifecycle := ⟨state, some handle, locked, associated⟩
  let store : Store := ⟨target, cached, lifecycle⟩
  suffices ends : ∃ taken, (target.transition flag value).Ends conduct (store.world memory) taken
      (.error (.storage cause)) (store.world after) by
    obtain ⟨taken, ends⟩ := ends
    exact ⟨taken, store.world after, ends, rfl, rfl⟩
  have mayChange : (store.world memory).cached.get flag ≠ value := changes
  unfold Target.transition
  apply Script.exists_ends_step (.load flag) rfl rfl
  simp only [Script.done_bind, if_neg mayChange]
  apply Script.exists_ends_step .acquire rfl rfl
  apply Script.exists_ends_step (.load flag) rfl rfl
  simp only [Script.done_bind, Script.pure_eq_done, ExceptT.bindCont, if_neg mayChange]
  apply Script.exists_ends_step (.load .dirty) rfl rfl
  apply Script.exists_ends_step (.load .rebuild) rfl rfl
  refine Script.exists_ends_step (.ask (.writeAt handle 0 (cached.set flag value).encode)) rfl
    ⟨after, answered, rfl⟩ ?_
  simp only [Script.done_bind, Script.pure_eq_done, writeTurn, final]
  apply Script.exists_ends_step (.release lifecycle) rfl rfl
  exact ⟨[], .here _ _⟩

/-- A transition to the value that is cached may always return without having done anything. -/
theorem performs_transition_idle {conduct : Conduct Memory} (same : store.cached.get flag = value) :
    store.Performs conduct (.transition flag value) memory (.ok ()) store memory := by
  suffices ends : ∃ taken, (store.target.transition flag value).Ends conduct (store.world memory)
      taken (.ok ()) (store.world memory) by
    obtain ⟨taken, ends⟩ := ends
    exact ⟨taken, store.world memory, ends, rfl, rfl⟩
  have idle : (store.world memory).cached.get flag = value := same
  unfold Target.transition
  apply Script.exists_ends_step (.load flag) rfl rfl
  simp only [Script.done_bind, if_pos idle]
  exact ⟨[], .here _ _⟩

/-- No open store is safe from this, however it has come to be open: a change of a flag may fail after
it has been written, and then the change back returns without an error while the file tells the
opposite. -/
theorem exists_misled {cause : StorageError} (failing : failures cause)
    (final : cause.isInterrupted = false) (atRest : memory.AtRest target.path found)
    (chronicle : Chronicle failures target memory deeds store now)
    (opened : store.lifecycle.state = .opened) (flag : Flag) :
    ∃ misled,
      store.Performs (Unreliable failures) (.transition flag (!store.cached.get flag)) now
        (.error (.storage cause)) store misled ∧
      store.Performs (Unreliable failures) (.transition flag (store.cached.get flag)) misled (.ok ())
        store misled ∧
      (Record.loaded (misled.contents target.path)).get flag = !store.cached.get flag := by
  cases chronicle.target_eq
  cases chronicle.standing atRest with
  | resting notOpen => exact absurd opened notOpen
  | @holding handle file lifecycle inHand _ told =>
    have holds : store.lifecycle.handle = some handle := congrArg Lifecycle.handle lifecycle
    have changes : store.cached.get flag ≠ !store.cached.get flag := by
      cases store.cached.get flag <;> nofun
    have nonempty : 0 < (store.cached.set flag (!store.cached.get flag)).encode.length := Nat.two_pos
    obtain ⟨misled, answered, written⟩ := inHand.writeAt_unseen 0 nonempty failing
    refine ⟨misled, performs_transition_failed changes holds final answered,
      performs_transition_idle rfl, ?_⟩
    rw [written.atRest.contents, Option.map_some, Record.loaded_overlay_encode, Record.get_set_self]

/-! ## Chronicles that can be computed -/

/-- An operation that is run on a faulted memory is one on an unreliable memory. -/
theorem performs_unreliable {storage : Monitored Memory} {budget : Nat}
    {obeyed : Obeyed (Monitored Memory)} (failing : storage.Failing failures)
    (same : store.obey budget storage (.operate operation) = some obeyed)
    (told : obeyed.outcome = some outcome) :
    obeyed.storage.Failing failures ∧ store.Performs (Unreliable failures) operation storage.storage
      outcome obeyed.store obeyed.storage.storage := by
  obtain ⟨result, returned, performs⟩ := Store.performs_of_obey same
  cases returned.symm.trans told
  exact performs.viewed Monitored.views_unreliable failing

/-- The errors after which a transfer is not tried again. -/
def Lasting (cause : StorageError) : Prop := cause.isInterrupted = false

/-- A store that is about to create a marker. -/
def newMarker : Store := .fresh { path := ⟨"marker"⟩ }

/-- A memory on which the second sync fails, when it has been done. -/
def secondSyncFails : Monitored Memory where
  storage := {}
  faults := Table.empty.set .sync [.none, .fail (.io (.bare .other)) true]

/-- The store has created its marker. -/
def markerCreated : Obeyed (Monitored Memory) :=
  (newMarker.obey 30 secondSyncFails (.operate .create)).get (by decide)

/-- It was to mark it clean, and the sync has failed. -/
def markerNotCleared : Obeyed (Monitored Memory) :=
  (markerCreated.store.obey 30 markerCreated.storage
    (.operate (.transition .dirty false))).get (by decide)

/-- It was to mark it dirty again. -/
def markerMarked : Obeyed (Monitored Memory) :=
  (markerNotCleared.store.obey 30 markerNotCleared.storage
    (.operate (.transition .dirty true))).get (by decide)

/-- The store has vanished and another one has opened the marker. -/
def markerReopened : Obeyed (Monitored Memory) :=
  (newMarker.obey 30 (markerMarked.store.crash markerMarked.storage)
    (.operate .openMarker)).get (by decide)

/-- Instead of that it was to schedule an index rebuild. -/
def markerScheduled : Obeyed (Monitored Memory) :=
  (markerNotCleared.store.obey 30 markerNotCleared.storage
    (.operate (.transition .rebuild true))).get (by decide)

theorem secondSyncFails_failing : secondSyncFails.Failing Lasting := by
  apply Monitored.Failing.set (Monitored.failing_without_faults _)
  intro fault member
  rcases List.mem_cons.1 member with rfl | member
  · trivial
  · rcases List.mem_singleton.1 member with rfl
    intro path
    rfl

/-- What the store has done until its marker was to be marked clean. -/
def untilNotCleared : List Deed :=
  [⟨.transition .dirty false, .created, .error (.storage (.io (.bare .other)))⟩,
    ⟨.create, .clean, .ok ()⟩]

/-- The computed deeds are a chronicle over calls that fail in a lasting way only. -/
theorem chronicle_untilNotCleared :
    markerNotCleared.storage.Failing Lasting ∧
      Chronicle Lasting newMarker.target {} untilNotCleared markerNotCleared.store
        markerNotCleared.storage.storage := by
  have creates : newMarker.obey 30 secondSyncFails (.operate .create) = some markerCreated :=
    (Option.some_get _).symm
  have clears : markerCreated.store.obey 30 markerCreated.storage
      (.operate (.transition .dirty false)) = some markerNotCleared := (Option.some_get _).symm
  have done : markerCreated.outcome = some (.ok ()) := rfl
  have failed : markerNotCleared.outcome = some (.error (.storage (.io (.bare .other)))) := rfl
  have cached : markerCreated.store.cached = .created := by decide
  obtain ⟨failing, created⟩ := performs_unreliable secondSyncFails_failing creates done
  obtain ⟨stillFailing, notCleared⟩ := performs_unreliable failing clears failed
  have start : Chronicle Lasting newMarker.target {} [] newMarker {} := .fresh
  have chronicle := (start.next (by decide) created).next (by decide) notCleared
  rw [cached] at chronicle
  exact ⟨stillFailing, chronicle⟩

/-- The marker of a store that is open and has just been marked dirty says clean, and so does the next
store to open it. -/
theorem transition_misleads :
    Chronicle Lasting newMarker.target {} untilNotCleared markerNotCleared.store
        markerNotCleared.storage.storage ∧
      markerNotCleared.store.lifecycle.state = .opened ∧
      markerNotCleared.store.Performs (Unreliable Lasting) (.transition .dirty true)
        markerNotCleared.storage.storage (.ok ()) markerMarked.store markerMarked.storage.storage ∧
      markerMarked.storage.storage.contents ⟨"marker"⟩ = some [0, 0] ∧
      newMarker.Performs (Unreliable Lasting) .openMarker
        (markerMarked.store.crash markerMarked.storage.storage) (.ok ()) markerReopened.store
        markerReopened.storage.storage ∧
      markerReopened.store.cached.dirty = false := by
  have marks : markerNotCleared.store.obey 30 markerNotCleared.storage
      (.operate (.transition .dirty true)) = some markerMarked := (Option.some_get _).symm
  have opens : newMarker.obey 30 (markerMarked.store.crash markerMarked.storage)
      (.operate .openMarker) = some markerReopened := (Option.some_get _).symm
  have marked : markerMarked.outcome = some (.ok ()) := rfl
  have opened : markerReopened.outcome = some (.ok ()) := rfl
  obtain ⟨failing, chronicle⟩ := chronicle_untilNotCleared
  obtain ⟨left, marking⟩ := performs_unreliable failing marks marked
  obtain ⟨stillFailing, -⟩ := markerMarked.store.crash_viewed Monitored.views_unreliable left
  obtain ⟨-, opening⟩ := performs_unreliable stillFailing opens opened
  exact ⟨chronicle, by decide, marking, by decide, opening, by decide⟩

/-- If an index rebuild is scheduled after the failure, the marker gets both flags as the store has
them. -/
theorem transition_tells_scheduled :
    ∃ bytes shown, markerScheduled.storage.storage.contents ⟨"marker"⟩ = some bytes ∧
      Record.decode? bytes = some shown ∧ shown.get .rebuild = true := by
  have schedules : markerNotCleared.store.obey 30 markerNotCleared.storage
      (.operate (.transition .rebuild true)) = some markerScheduled := (Option.some_get _).symm
  have scheduled : markerScheduled.outcome = some (.ok ()) := rfl
  obtain ⟨failing, chronicle⟩ := chronicle_untilNotCleared
  obtain ⟨-, scheduling⟩ := performs_unreliable failing schedules scheduled
  have nothing : ({} : Memory).AtRest newMarker.target.path none := Memory.atRest_holding _ none
  obtain ⟨bytes, shown, held, decoded, -, enough, -⟩ :=
    transition_tells nothing chronicle (by decide) scheduling
  exact ⟨bytes, shown, held, decoded, enough (by decide)⟩

end CrashMarker
