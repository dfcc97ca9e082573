/-
Module: CrashMarker.Proofs.Removal
Purpose: Deleting a marker ends with the file gone, however many removals fail or race, and what it
  takes.
Main exports:
  callCount, Memory.completes_removeUntilGone, Store.Tethered, Fleet.Arises.tethered,
  Memory.completes_create_absent, Store.delete_ends_and_removes
-/
import CrashMarker.Proofs.Custody
import CrashMarker.Proofs.Memory.Misbehaving
import CrashMarker.Proofs.Prediction
import CrashMarker.Storage.Monitored

namespace CrashMarker

/-!
Nothing in the removal of a file bounds how often it is tried.  A memory that was asked to let removals
fail counts down with each that does, and only looks at the name after that, so the loop ends; a removal
that is said to race takes the name away and reports an error all the same, and then it is the look at the
path that ends the loop.
-/

/-! ## Counting calls -/

def Taken.calls (name : CallName) : Taken → Bool
  | ⟨.ask request, _⟩ => request.name = name
  | _ => false

def callCount (name : CallName) (taken : List Taken) : Nat := taken.countP (Taken.calls name)

section Counting

variable (name : CallName) (step : Taken) (early late taken : List Taken)

@[simp] theorem callCount_nil : callCount name [] = 0 := rfl

@[simp] theorem callCount_cons :
    callCount name (step :: taken) = callCount name taken + if step.calls name then 1 else 0 :=
  List.countP_cons

@[simp] theorem callCount_append :
    callCount name (early ++ late) = callCount name early + callCount name late :=
  List.countP_append

end Counting

/-- Removing a file again and again, once there has been a warning or not. -/
def Target.removeAgain (target : Target) (warned : Bool) : Script (Except StoreError Unit) :=
  .cycle warned (fun _ => .ask (.remove target.path))
    (fun warned answer => do
      match answer with
      | .ok _ => return .stop (.ok ())
      | .error (.notFound _) => return .stop (.ok ())
      | .error cause =>
        match ← Script.ask (.present target.path) with
        | .error failure => return .stop (.error (.storage failure))
        | .ok false => return .stop (.ok ())
        | .ok true =>
          if !warned then
            Script.emit (.removalRetried target.path cause)
          return .again true)
    .done

/-- Removing until the file is gone starts without a warning. -/
theorem Target.removeUntilGone_eq (target : Target) :
    target.removeUntilGone = target.removeAgain false := rfl

namespace Memory

variable {memory : Memory} {world : World Memory} {path : Path} {object : ObjectId}

/-! ## Removing the name -/

/-- The error of a removal that was asked to fail. -/
def busy : StorageError := .io (.explained .other "resource busy")

theorem answer_remove_missing (races : memory.racingRemoves = 0) (absent : memory.named path = none) :
    Storage.answer (.remove path) memory = (.error (.notFound path), memory) := by
  change memory.remove path = _
  simp only [remove, races, absent]

/-- A removal that is made to fail leaves everything in place, with one failure less to come. -/
theorem answer_remove_busy {failures : Nat} (races : memory.racingRemoves = 0)
    (named : memory.named path = some object) (failing : memory.failingRemoves = failures + 1) :
    Storage.answer (.remove path) memory =
      (.error busy, { memory with failingRemoves := failures }) := by
  change memory.remove path = _
  simp only [remove, races, named, failing, busy]

theorem answer_remove (races : memory.racingRemoves = 0) (named : memory.named path = some object)
    (failing : memory.failingRemoves = 0) :
    Storage.answer (.remove path) memory = (.ok (), memory.unlink path) := by
  change memory.remove path = _
  simp only [remove, races, named, failing]

/-- A removal that loses a race says that it has failed, and the name is gone. -/
theorem answer_remove_racing {others : Nat} (races : memory.racingRemoves = others + 1) :
    Storage.answer (.remove path) memory =
      (.error (.io (.explained .other "removed concurrently")),
        { memory.unlink path with racingRemoves := others }) := by
  change memory.remove path = _
  simp only [remove, races]

@[simp] theorem named_unlink (memory : Memory) (path : Path) : (memory.unlink path).named path = none :=
  Table.get?_erase_self _ _

/-- Every failure that the memory was asked for costs one removal and one look at the path, and the first
of them a warning, unless there has been one. -/
theorem completes_removeAgain (target : Target) (warned : Bool)
    (races : world.storage.racingRemoves = 0)
    (named : world.storage.named target.path = some object) :
    (target.removeAgain warned).Completes world fun taken outcome after =>
      outcome = .ok () ∧ callCount .remove taken = world.storage.failingRemoves + 1 ∧
        callCount .present taken = world.storage.failingRemoves ∧
        after = { world with
          storage := { world.storage.unlink target.path with failingRemoves := 0 }
          events := world.events ++ if warned = false ∧ 0 < world.storage.failingRemoves then
            [.removalRetried target.path busy] else [] } := by
  induction failing : world.storage.failingRemoves generalizing world warned with
  | zero =>
    apply Script.completes_turn
    apply Script.completes_act_ask (answer_remove races named failing)
    apply Script.completes_done
    apply Script.completes_done
    refine ⟨rfl, rfl, rfl, ?_⟩
    rw [if_neg (fun impossible => Nat.lt_irrefl 0 impossible.2), List.append_nil, ← failing]
    rfl
  | succ failures inductionHypothesis =>
    apply Script.completes_turn
    apply Script.completes_act_ask (answer_remove_busy races named failing)
    apply Script.completes_bind
    have present := answer_present { world.storage with failingRemoves := failures } target.path
    have still : ({ world.storage with failingRemoves := failures } : Memory).named target.path =
      some object := named
    rw [still] at present
    apply Script.completes_ask present
    cases warned with
    | false =>
      apply Script.completes_bind
      apply Script.completes_perform
      apply Script.completes_done
      have rest := @inductionHypothesis
        { world with
          storage := { world.storage with failingRemoves := failures }
          events := world.events ++ [.removalRetried target.path busy] } true races still rfl
      apply rest.mono
      rintro taken outcome after ⟨rfl, removals, checks, rfl⟩
      refine ⟨rfl, ?_, ?_, ?_⟩
      · simp [Taken.calls, Request.name, removals]
      · simp [Taken.calls, Request.name, checks]
      · simp [unlink]
    | true =>
      apply Script.completes_done
      have rest := @inductionHypothesis
        { world with storage := { world.storage with failingRemoves := failures } } true races still rfl
      apply rest.mono
      rintro taken outcome after ⟨rfl, removals, checks, rfl⟩
      refine ⟨rfl, ?_, ?_, ?_⟩
      · simp [Taken.calls, Request.name, removals]
      · simp [Taken.calls, Request.name, checks]
      · simp [unlink]

/-- The memory once the name of a file has been removed, for all that was asked to go wrong. -/
def afterRemoval (memory : Memory) (path : Path) : Memory :=
  { memory.unlink path with
    racingRemoves := memory.racingRemoves - 1
    failingRemoves :=
      if memory.racingRemoves = 0 ∧ (memory.named path).isSome then 0 else memory.failingRemoves }

/-- After a lost race the name is gone, and there is one race less to lose. -/
theorem afterRemoval_racing {others : Nat} (races : memory.racingRemoves = others + 1) :
    memory.afterRemoval path = { memory.unlink path with racingRemoves := others } := by
  simp only [afterRemoval, races, Nat.succ_ne_zero, false_and, if_false, Nat.add_sub_cancel]
  rfl

theorem afterRemoval_missing (races : memory.racingRemoves = 0) (absent : memory.named path = none) :
    memory.afterRemoval path = memory := by
  simp only [afterRemoval, races, absent, Option.isSome_none, Bool.false_eq_true, and_false, if_false,
    unlink_of_named_eq_none absent, Nat.zero_sub]
  rw [← races]

/-- After all failures the name is gone, and none is left. -/
theorem afterRemoval_present (races : memory.racingRemoves = 0)
    (named : memory.named path = some object) :
    memory.afterRemoval path = { memory.unlink path with failingRemoves := 0 } := by
  simp only [afterRemoval, races, named, Option.isSome_some, and_self, if_true, Nat.zero_sub]
  rw [← races]
  rfl

/-- The file is removed until it is gone.  Where a removal races, or there is no file, the first one
ends it; otherwise it is made once more than the memory was asked to let it fail. -/
theorem completes_removeUntilGone (target : Target) :
    target.removeUntilGone.Completes world fun taken outcome after =>
      outcome = .ok () ∧
      callCount .remove taken =
        (if world.storage.racingRemoves = 0 ∧ (world.storage.named target.path).isSome then
          world.storage.failingRemoves + 1 else 1) ∧
      callCount .present taken =
        (if 0 < world.storage.racingRemoves then 1
          else if (world.storage.named target.path).isSome then world.storage.failingRemoves else 0) ∧
      after = { world with
        storage := world.storage.afterRemoval target.path
        events := world.events ++ if world.storage.racingRemoves = 0 ∧
          (world.storage.named target.path).isSome ∧ 0 < world.storage.failingRemoves then
            [.removalRetried target.path busy] else [] } := by
  rw [Target.removeUntilGone_eq]
  cases races : world.storage.racingRemoves with
  | succ others =>
    apply Script.completes_turn
    apply Script.completes_act_ask (answer_remove_racing races)
    apply Script.completes_bind
    have present := answer_present
      { world.storage.unlink target.path with racingRemoves := others } target.path
    have gone : ({ world.storage.unlink target.path with racingRemoves := others } : Memory).named
      target.path = none := named_unlink _ _
    rw [gone] at present
    apply Script.completes_ask present
    apply Script.completes_done
    apply Script.completes_done
    refine ⟨rfl, ?_, ?_, ?_⟩
    · simp [Taken.calls, Request.name]
    · simp [Taken.calls, Request.name]
    · simp [afterRemoval_racing races]
  | zero =>
    cases named : world.storage.named target.path with
    | none =>
      apply Script.completes_turn
      apply Script.completes_act_ask (answer_remove_missing races named)
      apply Script.completes_done
      apply Script.completes_done
      refine ⟨rfl, ?_, ?_, ?_⟩
      · simp [Taken.calls, Request.name]
      · simp [Taken.calls, Request.name]
      · simp [afterRemoval_missing races named]
    | some object =>
      apply (completes_removeAgain target false races named).mono
      rintro taken outcome after ⟨rfl, removals, checks, rfl⟩
      refine ⟨rfl, ?_, ?_, ?_⟩
      · simp [removals]
      · simp [checks]
      · simp [afterRemoval_present races named]

/-! ## Letting go of the handle -/

/-- What letting go of a handle, if there was one, leaves of a memory: the handle is closed and owns no
lock any more, and all names and all that was asked to fail are as before. -/
structure LetGo (memory : Memory) (handle : Option Handle) (after : Memory) : Prop where
  sound : after.Sound
  names : after.names = memory.names
  removes : after.failingRemoves = memory.failingRemoves
  races : after.racingRemoves = memory.racingRemoves
  opens : after.failingOpens = memory.failingOpens
  closed : ∀ own, handle = some own → after.handles.get? own = none
  free : ∀ own, handle = some own → ∀ object, after.owner object ≠ some own

theorem letGo_nothing (sound : memory.Sound) : memory.LetGo none memory :=
  ⟨sound, rfl, rfl, rfl, rfl, nofun, nofun⟩

/-- Closing a handle lets go of it and of its lock. -/
theorem letGo_close {handle : Handle} (sound : memory.Sound)
    (bound : memory.handles.get? handle = some object) :
    memory.LetGo (some handle) (memory.close handle) where
  sound := sound.close handle
  names := by simp only [close, bound, updateObject]
  removes := by simp only [close, bound, updateObject]
  races := by simp only [close, bound, updateObject]
  opens := by simp only [close, bound, updateObject]
  closed own same := by
    cases same
    rw [handles_close, if_pos rfl]
  free own same other := by
    cases same
    rw [owner_close sound]
    split
    · simp
    · assumption

/-- Letting go of a handle goes well, with the lock given up first or not. -/
theorem completes_letGo {lifecycle : Lifecycle} {handle : Handle} (locked : Bool)
    (sound : world.storage.Sound) (bound : world.storage.handles.get? handle = some object) :
    (Target.letGo handle locked).Completes lifecycle world fun taken outcome left after =>
      outcome = .ok () ∧ left = lifecycle ∧ callCount .remove taken = 0 ∧
        callCount .present taken = 0 ∧
        ∃ storage, after = { world with storage } ∧ world.storage.LetGo (some handle) storage := by
  unfold Target.letGo
  apply Guarded.completes_bind
  apply Guarded.completes_closingOnFailure
  cases locked with
  | false =>
    apply Guarded.completes_pure
    apply Guarded.completes_perform
    exact ⟨rfl, rfl, rfl, rfl, _, rfl, letGo_close sound bound⟩
  | true =>
    obtain ⟨-, file, there⟩ := sound.opened bound
    have behind : world.storage.Behind handle object file := ⟨bound, there⟩
    have told : Storage.answer (.unlock handle) world.storage =
      (.ok (), world.storage.updateObject object (released handle)) := behind.withObject_eq _
    have unlocked := (Served.unlocked behind).sound sound
    have gone : (world.storage.updateObject object (released handle)).LetGo (some handle) _ :=
      letGo_close unlocked bound
    apply Guarded.completes_call told
    apply Guarded.completes_perform
    refine ⟨rfl, rfl, rfl, rfl, _, rfl, ?_⟩
    exact ⟨gone.sound, gone.names, gone.removes, gone.races, gone.opens, gone.closed, gone.free⟩

end Memory

/-- What a store believes of its handle is so: the handle is open, and there is a lock only with it. -/
structure Lifecycle.Tethered (lifecycle : Lifecycle) (memory : Memory) : Prop where
  sound : memory.Sound
  bound : ∀ handle, lifecycle.handle = some handle →
    ∃ object, memory.handles.get? handle = some object
  locked : lifecycle.locked = true → lifecycle.handle.isSome

/-- Every store that has come about on a memory is tethered to it, whatever calls have failed. -/
theorem Fleet.Arises.tethered {ι : Type} [DecidableEq ι] {failures : StorageError → Prop}
    {fleet : Fleet ι} (arises : fleet.Arises failures) (index : ι) :
    (fleet.stores index).lifecycle.Tethered fleet.memory where
  sound := arises.orderly.held.sound
  bound handle holds := by
    have known := arises.orderly.held.known (some index)
    rw [Fleet.hands, Grip.ofLifecycle_of_handle holds] at known
    obtain ⟨object, bound, -⟩ := known
    exact ⟨object, bound⟩
  locked locked := by
    obtain ⟨stranded, fits⟩ := arises.orderly.fits index
    exact (fits.locked locked).1

/-- A memory that is asked to misbehave keeps what is open. -/
theorem Lifecycle.Tethered.misbehave {lifecycle : Lifecycle} {memory : Memory}
    (tethered : lifecycle.Tethered memory) (amount : Nat) (misbehaviour : Misbehaviour) :
    lifecycle.Tethered (memory.misbehave amount misbehaviour) := by
  have sound := tethered.sound
  cases misbehaviour <;>
    exact ⟨⟨sound.named, sound.opened, sound.numbered, sound.owned⟩, tethered.bound, tethered.locked⟩

/-! ## Deleting, and creating again -/

namespace Memory

variable {memory : Memory} {world : World Memory} {lifecycle : Lifecycle} {path : Path}

/-- What deleting a marker comes to on a memory, apart from the lifecycle of its store: the name is
removed, and the calls and the warnings are those that the failures asked for make necessary. -/
structure Discards (memory : Memory) (path : Path) (early late : List Event) (taken : List Taken)
    (after : World Memory) : Prop where
  gone : after.storage.named path = none
  removals : callCount .remove taken =
    if memory.racingRemoves = 0 ∧ (memory.named path).isSome then memory.failingRemoves + 1 else 1
  checks : callCount .present taken =
    if 0 < memory.racingRemoves then 1
    else if (memory.named path).isSome then memory.failingRemoves else 0
  reports : after.events = early ++ (if memory.racingRemoves = 0 ∧ (memory.named path).isSome ∧
    0 < memory.failingRemoves then [.removalRetried path busy] else []) ++ late

theorem named_afterRemoval (memory : Memory) (path : Path) :
    (memory.afterRemoval path).named path = none :=
  named_unlink memory path

/-- The second half of deleting, with nothing in hand. -/
theorem completes_discard (target : Target) :
    (do
      modify fun lifecycle => { lifecycle with state := .deleted }
      Guarded.require (Target.removeUntilGone target)
      Guarded.emit (.deleted target.path) : Guarded Unit).Completes lifecycle world
        fun taken outcome left after => outcome = .ok () ∧
          left = { lifecycle with state := .deleted } ∧ after.cached = world.cached ∧
          after.storage = world.storage.afterRemoval target.path ∧
          world.storage.Discards target.path world.events [.deleted target.path] taken after := by
  apply Guarded.completes_bind
  apply Guarded.completes_modify
  apply Guarded.completes_bind
  apply Guarded.completes_require
  apply (completes_removeUntilGone target).mono
  rintro taken outcome after ⟨rfl, removals, checks, rfl⟩
  apply Guarded.completes_perform
  refine ⟨rfl, rfl, rfl, rfl, named_afterRemoval _ _, ?_, ?_, rfl⟩
  · simp [Taken.calls, removals]
  · simp [Taken.calls, checks]

/-- What comes before the removal does not show in it if it removes nothing. -/
theorem Discards.around {middle : Memory} {handle : Option Handle} {early late : List Event}
    {taken : List Taken} {last : World Memory} (discards : middle.Discards path early late taken last)
    (letGo : memory.LetGo handle middle) (before after : List Taken)
    (noRemovals : callCount .remove (before ++ after) = 0)
    (noChecks : callCount .present (before ++ after) = 0) (lifecycle : Lifecycle) :
    memory.Discards path early late (before ++ taken ++ after) { last with lifecycle } := by
  have named : middle.named path = memory.named path := by rw [Memory.named, letGo.names, Memory.named]
  obtain ⟨gone, removals, checks, reports⟩ := discards
  rw [letGo.races, letGo.removes, named] at removals checks reports
  rw [callCount_append] at noRemovals noChecks
  refine ⟨gone, ?_, ?_, reports⟩
  · rw [← removals, callCount_append, callCount_append]
    omega
  · rw [← checks, callCount_append, callCount_append]
    omega

/-- A store that has had to do with a file lets go of it and removes it. -/
theorem completes_delete (target : Target) (tethered : world.lifecycle.Tethered world.storage)
    (concerned : ¬ (world.lifecycle.state = .unopened ∧ world.lifecycle.associated = false)) :
    target.delete.Completes world fun taken outcome after =>
      outcome = .ok () ∧
      after.lifecycle =
        { world.lifecycle with state := .deleted, handle := none, locked := false } ∧
      world.storage.Discards target.path world.events [.deleted target.path] taken after ∧
      ∃ middle, world.storage.LetGo world.lifecycle.handle middle ∧
        after.storage = middle.afterRemoval target.path := by
  unfold Target.delete
  apply Guarded.completes_script
  apply Guarded.completes_bind
  apply Guarded.completes_get
  simp only [Lifecycle.goesOn_of_concerned concerned]
  cases held : world.lifecycle.handle with
  | none =>
    have unlocked : world.lifecycle.locked = false := by
      cases locked : world.lifecycle.locked with
      | false => rfl
      | true =>
        have holds := tethered.locked locked
        rw [held] at holds
        cases holds
    have letGo := letGo_nothing tethered.sound
    apply (completes_discard target).mono
    rintro taken outcome left after ⟨rfl, rfl, -, removed, discards⟩
    refine ⟨rfl, ?_, ?_, world.storage, letGo, removed⟩
    · rw [← held, ← unlocked]
    · exact discards.around letGo [⟨.acquire, _⟩] [⟨.release _, ()⟩] rfl rfl _
  | some handle =>
    obtain ⟨object, bound⟩ := tethered.bound handle held
    apply Guarded.completes_bind
    apply Guarded.completes_set
    apply Guarded.completes_bind
    apply (completes_letGo world.lifecycle.locked tethered.sound bound).mono
    rintro early outcome left middle ⟨rfl, rfl, noRemovals, noChecks, storage, rfl, letGo⟩
    apply (completes_discard target).mono
    rintro taken outcome left after ⟨rfl, rfl, -, removed, discards⟩
    refine ⟨rfl, rfl, ?_, storage, letGo, removed⟩
    have whole := discards.around letGo (⟨.acquire, world.lifecycle⟩ :: early)
      [⟨.release { world.lifecycle with state := .deleted, handle := none, locked := false }, ()⟩]
      (by simp [noRemovals, Taken.calls]) (by simp [noChecks, Taken.calls])
    simpa using whole _

/-- Where there is no file, creating makes one with a new record and keeps it open. -/
theorem completes_create_absent (target : Target) (opens : world.storage.failingOpens = 0)
    (absent : world.storage.named target.path = none) (notOpen : world.lifecycle.state ≠ .opened) :
    target.create.Completes world fun _ outcome after =>
      outcome = .ok () ∧ after.lifecycle.state = .opened ∧ after.lifecycle.handle.isSome ∧
        after.storage.contents target.path = some Record.created.encode := by
  have present := answer_present world.storage target.path
  rw [absent] at present
  have made : Storage.answer (.createNew target.path) world.storage =
      (.ok (), world.storage.put target.path []) := by
    change world.storage.createNew target.path = _
    simp only [createNew, absent]
  have named : (world.storage.put target.path []).named target.path =
      some ⟨world.storage.nextObject⟩ := Table.get?_set_self _ _ _
  have there : (world.storage.put target.path []).objects.get? ⟨world.storage.nextObject⟩ =
      some {} := Table.get?_set_self _ _ _
  have opened : Storage.answer (.openFile target.path) (world.storage.put target.path []) = _ :=
    answer_openFile opens named
  have sighted := Sighted.withHandle there
  rw [Target.create_eq]
  unfold Target.clear Target.make
  apply Guarded.completes_script
  apply Guarded.completes_bind
  apply Guarded.completes_ensureNotOpen
  · intro opened
    exact absurd opened notOpen
  · intro _
    apply Guarded.completes_bind
    apply Guarded.completes_bind
    apply Guarded.completes_call present
    apply Guarded.completes_pure
    apply Guarded.completes_bind
    apply Guarded.completes_ask made
    apply Guarded.completes_bind
    apply Guarded.completes_modify
    apply Guarded.completes_bind
    apply Guarded.completes_call opened
    apply Guarded.completes_closingOnFailure
    apply Guarded.completes_bind
    apply (Sighted.completes_acquireLock target sighted rfl).mono
    rintro early outcome left after ⟨rfl, rfl, storage, held, rfl, locking, bytes, -, -, -⟩
    apply Guarded.completes_bind
    apply (Sighted.completes_persist target .created locking).mono
    rintro late outcome left after ⟨rfl, rfl, storage, rfl, written⟩
    unfold Target.publish
    apply Guarded.completes_bind
    apply Guarded.completes_bind
    apply Guarded.completes_perform
    apply Guarded.completes_perform
    apply Guarded.completes_bind
    apply Guarded.completes_set
    apply Guarded.completes_perform
    refine ⟨rfl, rfl, rfl, ?_⟩
    have holds := written.contents_eq named
    rw [bytes, overlay_zero, List.drop_nil, List.append_nil] at holds
    exact holds

end Memory

/-- Deleting ends and removes.  Whatever file there is at the path, and however many removals were asked
to fail or to race, a store that has had to do with a file is told so, has let go of its handle and its
lock, and is deleted, and no file is left at the path.  A removal that races, or that finds no file, is
the only one; otherwise there is one more than fail, a look at the path after each that does, and one
warning if there is any.  After that the store can make its marker anew. -/
theorem Store.delete_ends_and_removes (store : Store) (memory : Memory)
    (tethered : store.lifecycle.Tethered memory)
    (concerned : ¬ (store.lifecycle.state = .unopened ∧ store.lifecycle.associated = false))
    (opens : memory.failingOpens = 0) :
    store.target.delete.Completes (store.world memory) fun taken outcome after =>
      outcome = .ok () ∧
      after.storage.named store.target.path = none ∧
      after.lifecycle =
        { store.lifecycle with state := .deleted, handle := none, locked := false } ∧
      (∀ handle, store.lifecycle.handle = some handle → after.storage.handles.get? handle = none ∧
        ∀ object, after.storage.owner object ≠ some handle) ∧
      callCount .remove taken =
        (if memory.racingRemoves = 0 ∧ (memory.named store.target.path).isSome then
          memory.failingRemoves + 1 else 1) ∧
      callCount .present taken =
        (if 0 < memory.racingRemoves then 1
          else if (memory.named store.target.path).isSome then memory.failingRemoves else 0) ∧
      after.events =
        (if memory.racingRemoves = 0 ∧ (memory.named store.target.path).isSome ∧
            0 < memory.failingRemoves then
          [.removalRetried store.target.path (.io (.explained .other "resource busy"))] else []) ++
          [.deleted store.target.path] ∧
      store.target.create.Completes ((store.after after).world after.storage) fun _ outcome last =>
        outcome = .ok () ∧ last.lifecycle.state = .opened ∧ last.lifecycle.handle.isSome ∧
          last.storage.contents store.target.path = some Record.created.encode := by
  have deletes : Script.Completes _ (store.world memory) _ :=
    Memory.completes_delete store.target tethered concerned
  apply deletes.mono
  rintro taken outcome after ⟨rfl, deleted, discards, middle, letGo, removed⟩
  refine ⟨rfl, discards.gone, deleted, ?_, discards.removals, discards.checks, discards.reports, ?_⟩
  · intro handle holds
    rw [removed]
    exact ⟨letGo.closed handle holds, letGo.free handle holds⟩
  · have opening : after.storage.failingOpens = 0 := by
      rw [removed]
      exact letGo.opens.trans opens
    have notOpen : after.lifecycle.state ≠ .opened := by
      rw [deleted]
      nofun
    exact Memory.completes_create_absent store.target opening discards.gone notOpen

/-- A new store that is alone with an empty memory. -/
def Fleet.alone : Fleet Unit := ⟨fun _ => .fresh { path := ⟨"marker"⟩ }, {}⟩

def Fleet.started : Obeyed (Monitored Memory) :=
  ((alone.stores ()).obey 40 { storage := {} } (.operate .create)).get (by decide)

/-- The store that has its marker open and locked is to delete it, where two removals are to fail. -/
theorem Store.delete_ends_and_removes_busy : ∃ taken after,
    (Target.delete { path := ⟨"marker"⟩ }).Ends (Conduct.honest Memory)
      (Fleet.started.store.world
        (Fleet.started.storage.storage.misbehave 2 .failingRemoves)) taken (.ok ()) after ∧
      Fleet.started.store.lifecycle = ⟨.opened, some ⟨0⟩, true, true⟩ ∧
      after.lifecycle = ⟨.deleted, none, false, true⟩ ∧
      callCount .remove taken = 3 ∧ callCount .present taken = 2 ∧
      after.events = [.removalRetried ⟨"marker"⟩ (.io (.explained .other "resource busy")),
        .deleted ⟨"marker"⟩] := by
  have begun : Fleet.alone.Arises fun _ => False := .start .empty fun _ => rfl
  have first : (Fleet.alone.stores ()).obey 40 { storage := {} } (.operate .create) =
    some Fleet.started := (Option.some_get _).symm
  obtain ⟨-, arises⟩ := begun.obey rfl (Monitored.failing_without_faults _) first
  have tethered := (arises.tethered ()).misbehave 2 .failingRemoves
  obtain ⟨taken, outcome, after, ended, rfl, -, deleted, -, removals, checks, reports, -⟩ :=
    Fleet.started.store.delete_ends_and_removes
      (Fleet.started.storage.storage.misbehave 2 .failingRemoves) tethered (by decide) (by decide)
  exact ⟨taken, after, ended, by decide, deleted, removals, checks, reports⟩

end CrashMarker
