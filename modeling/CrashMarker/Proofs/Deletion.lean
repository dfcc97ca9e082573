/-
Module: CrashMarker.Proofs.Deletion
Purpose: When deleting a marker takes it away from the store that has it open, and when it does not.
Main exports: Fleet.Considerate, Fleet.Considered, Fleet.delete_respects_lock_if_considerate
-/
import CrashMarker.Proofs.Exclusion
import CrashMarker.Proofs.Memory.Served

namespace CrashMarker

open Memory (Unreliable Calm)

/-!
Creating a marker looks first whether someone has the lock on the file that is in the way.  Deleting
does not look.  A store that has closed or deleted its marker, and is told to delete it again, removes
whatever file has come to be at the path since, and so the marker of another store may lose its name
while that store has it open.  The next store to open the path then locks another file.  This is the only
way in which it can come about.
-/

/-! ## What a removal leaves alone -/

namespace Memory

variable {handle : Handle} {object : ObjectId} {file : FileObject}

/-- Removing a name, again and again if need be, does nothing to a file that is open. -/
theorem Behind.upholds_removeUntilGone {world : World Memory} (target : Target) :
    target.removeUntilGone.Upholds Calm
      (fun memory => memory.Quiet ∧ memory.Behind handle object file) world fun _ _ => True := by
  unfold Target.removeUntilGone
  apply Script.upholds_cycle (fun _ _ => True) trivial
  intro warned before _
  apply Script.upholds_of_start
  rintro ⟨quiet, behind⟩
  apply Script.upholds_act
  rintro answer after ⟨storage, answered, rfl⟩
  obtain ⟨left, pace, waits, writes, served, rfl⟩ := answered.served_of_quiet quiet
  have kept := (served.quiet quiet).counted pace waits writes
  cases served with
  | missing => exact ⟨⟨kept, behind.counted _ _ _⟩, Script.upholds_done (Script.upholds_done trivial)⟩
  | removed =>
    have stays : (before.storage.unlink target.path).Behind handle object file :=
      ⟨behind.bound, behind.there⟩
    exact ⟨⟨kept, stays.counted _ _ _⟩, Script.upholds_done (Script.upholds_done trivial)⟩
  | strange through => cases through

/-- Deleting a marker that is not open does nothing to a file that is open. -/
theorem Behind.upholds_delete {world : World Memory} (target : Target)
    (letGo : world.lifecycle.handle = none) :
    target.delete.Upholds Calm (fun memory => memory.Quiet ∧ memory.Behind handle object file) world
      fun _ _ => True := by
  unfold Target.delete
  apply Guarded.upholds_script
  apply Guarded.upholds_bind
  apply Guarded.upholds_get
  simp only [letGo]
  split
  · exact Guarded.upholds_pure trivial
  · apply Guarded.upholds_bind
    apply Guarded.upholds_modify
    apply Guarded.upholds_bind
    apply Guarded.upholds_require
    apply (Behind.upholds_removeUntilGone target).mono
    intro outcome after _ _
    cases outcome with
    | ok done => exact Guarded.upholds_emit trivial
    | error error => trivial

end Memory

/-! ## Stores that delete only while no other has the marker -/

namespace Fleet

variable {ι : Type} [DecidableEq ι] {path : Path} {fleet : Fleet ι} {index : ι} {command : Command}
  {budget : Nat} {obeyed : Obeyed Memory}

/-- While another store has the marker open, a store deletes only if it has not done anything yet. -/
def Considerate (fleet : Fleet ι) (index : ι) (command : Command) : Prop :=
  (∃ other, other ≠ index ∧ (fleet.stores other).lifecycle.state = .opened) →
    Allowed (fleet.stores index) command

/-- What may become of stores that are considerate of each other. -/
inductive Considered (path : Path) : Fleet ι → Prop where
  | start {fleet : Fleet ι} (reached : fleet.Reachable path) : Considered path fleet
  | step {fleet : Fleet ι} {index : ι} {command : Command} {budget : Nat} {obeyed : Obeyed Memory}
      (considered : Considered path fleet) (considerate : fleet.Considerate index command)
      (carriedOut : (fleet.stores index).obey budget fleet.memory command = some obeyed) :
      Considered path (fleet.put index obeyed)

/-- Considerate stores never have the marker open twice. -/
theorem Considered.exclusive (considered : fleet.Considered path) :
    fleet.Exclusive path ∧ fleet.Locking path := by
  induction considered with
  | start reached => exact reached.exclusive
  | step _ considerate carriedOut inductionHypothesis =>
    exact inductionHypothesis.1.put inductionHypothesis.2 considerate carriedOut

/-! ## What a deletion does to the store that has the marker -/

/-- Whatever another store does, the file of the store that has the marker stays at its path, as long as
the other one does not delete what it has let go of. -/
theorem returns_beside {holder other : ι} (exclusive : fleet.Exclusive path)
    (locking : fleet.Locking path) (opened : (fleet.stores holder).lifecycle.state = .opened)
    (different : other ≠ holder) (allowed : Allowed (fleet.stores other) command) :
    Returns (fleet.stores other) fleet.memory command fun obeyed =>
      obeyed.storage.file path = fleet.memory.file path := by
  obtain ⟨⟨handle, bytes, holds⟩, waiting⟩ := exclusive.holds_of_opened opened
  have atRest := holds.inHand.atRest
  have here := atRest
  rw [(locking holder).1, ← (locking other).1] at here
  rw [(locking holder).1] at atRest
  apply returns_of_obey
  intro budget obeyed same
  obtain ⟨-, -, left, -⟩ :=
    (waiting other different).obey_beside (locking other).2 rfl here allowed same
  rw [(locking other).1] at left
  rw [left.found, atRest.found]

/-- A store that deletes what it has let go of takes the file away from the store that has it open, which
goes on holding the lock on a file without a name, and then it can make or open another file and lock
that. -/
theorem returns_taken_away {holder other : ι} (exclusive : fleet.Exclusive path)
    (locking : fleet.Locking path) (opened : (fleet.stores holder).lifecycle.state = .opened)
    (different : other ≠ holder) (concerned : (fleet.stores other).lifecycle.state ≠ .unopened) :
    Returns (fleet.stores other) fleet.memory (.operate .delete) fun obeyed =>
      obeyed.outcome = some (.ok ()) ∧ obeyed.storage.file path = none ∧
      (∃ handle object file, (fleet.stores holder).lifecycle.handle = some handle ∧
        obeyed.storage.Behind handle object file ∧ file.owner = some handle) ∧
      ∀ operation, operation = .create ∨ operation = .openMarker →
        Returns obeyed.store obeyed.storage (.operate operation) fun again =>
          again.outcome = some (.ok ()) ∧ again.store.lifecycle.state = .opened ∧
          again.store.lifecycle.locked = true := by
  obtain ⟨⟨handle, bytes, holds⟩, waiting⟩ := exclusive.holds_of_opened opened
  have waits := waiting other different
  obtain ⟨object, -, bound, there⟩ := holds.inHand.reached
  have atRest := holds.inHand.atRest
  rw [(locking holder).1, ← (locking other).1] at atRest
  apply returns_of_obey
  intro budget obeyed same
  obtain ⟨outcome, told, performed⟩ := Store.performs_of_obey same
  obtain ⟨-, performs⟩ := performed.viewed Memory.views_calm trivial
  have start : fleet.memory.Quiet ∧ fleet.memory.Behind handle object ⟨bytes, some handle⟩ :=
    ⟨holds.inHand.quiet, bound, there⟩
  obtain ⟨-, behind⟩ := performs.always start (Memory.Behind.upholds_delete _ waits.letGo)
  obtain ⟨world, ⟨cached, lifecycle, ⟨rfl, gone⟩ | ⟨⟨_, impossible⟩, -⟩⟩, next, left⟩ :=
    performs.of_upholds (Memory.shows_anything _ _)
      (atRest.upholds_delete (Or.inl concerned) waits.letGo)
  · have target : obeyed.store.target = (fleet.stores other).target := by rw [next]; rfl
    have after : obeyed.store.lifecycle =
        { (fleet.stores other).lifecycle with state := .deleted } := by rw [next]; exact lifecycle
    have waitsNow : obeyed.store.Waits := by
      constructor
      · rw [after]; nofun
      · rw [after]; exact waits.letGo
      · rw [after]; exact waits.unlocked
      · rw [after]; nofun
    change obeyed.storage = world.storage at left
    rw [← left] at gone
    refine ⟨told, ?_, ⟨handle, object, _, congrArg Lifecycle.handle holds.lifecycle, behind, rfl⟩, ?_⟩
    · rw [← (locking other).1]
      exact gone.found
    · intro operation setsUp
      rw [← target] at gone
      apply returns_opened_of_waits waitsNow _ rfl gone setsUp
      rw [target]
      exact (locking other).2
  · exact impossible.elim

/-- Among stores that lock the same marker and delete what they have let go of only while no other store
has the marker open, at most one has it open at a time, under the lock on the file at the path.  While it
does, the others leave that file where it is, whatever they do, with one exception: a store that has had
the marker itself may delete it.  Then that store is told that all is well, the file is gone although it
is locked, and the next store to create or open the marker has it as well. -/
theorem delete_respects_lock_if_considerate (considered : fleet.Considered path) :
    (∀ first second, (fleet.stores first).lifecycle.state = .opened →
      (fleet.stores second).lifecycle.state = .opened → first = second) ∧
    ∀ holder, (fleet.stores holder).lifecycle.state = .opened →
      (∃ handle file, (fleet.stores holder).lifecycle.handle = some handle ∧
        fleet.memory.InHand path handle file ∧ file.owner = some handle) ∧
      ∀ other, other ≠ holder →
        (∀ command, Allowed (fleet.stores other) command →
          Returns (fleet.stores other) fleet.memory command fun obeyed =>
            obeyed.storage.file path = fleet.memory.file path) ∧
        ((fleet.stores other).lifecycle.state ≠ .unopened →
          Returns (fleet.stores other) fleet.memory (.operate .delete) fun obeyed =>
            obeyed.outcome = some (.ok ()) ∧ obeyed.storage.file path = none ∧
            (∃ handle object file, (fleet.stores holder).lifecycle.handle = some handle ∧
              obeyed.storage.Behind handle object file ∧ file.owner = some handle) ∧
            ∀ operation, operation = .create ∨ operation = .openMarker →
              Returns obeyed.store obeyed.storage (.operate operation) fun again =>
                again.outcome = some (.ok ()) ∧ again.store.lifecycle.state = .opened ∧
                again.store.lifecycle.locked = true) := by
  obtain ⟨exclusive, locking⟩ := considered.exclusive
  constructor
  · intro first second opened alsoOpened
    obtain ⟨-, waiting⟩ := exclusive.holds_of_opened opened
    by_cases same : first = second
    · exact same
    · exact absurd alsoOpened (waiting second (Ne.symm same)).notOpen
  · intro holder opened
    constructor
    · obtain ⟨⟨handle, bytes, holds⟩, -⟩ := exclusive.holds_of_opened opened
      have inHand := holds.inHand
      rw [(locking holder).1] at inHand
      exact ⟨handle, _, congrArg Lifecycle.handle holds.lifecycle, inHand, rfl⟩
    · intro other different
      constructor
      · intro command allowed
        exact returns_beside exclusive locking opened different allowed
      · intro concerned
        exact returns_taken_away exclusive locking opened different concerned

/-! ## Two stores that have the same marker -/

/-- Let one store carry out a command, if it is done within so many actions. -/
def carryOut (budget : Nat) (fleet : Fleet ι) (turn : ι × Command) : Option (Fleet ι) :=
  ((fleet.stores turn.1).obey budget fleet.memory turn.2).map (fleet.put turn.1)

/-- One store makes the marker and closes it, and the other one opens it. -/
def handOver : List (Bool × Command) :=
  [(true, .operate .create), (true, .operate .closeMarker), (false, .operate .openMarker)]

/-- Two stores that lock one marker, which is not there yet. -/
def newPair : Fleet Bool := ⟨fun _ => .fresh ⟨⟨"marker"⟩, .standard⟩, .holding ⟨"marker"⟩ none⟩

theorem considered_newPair : newPair.Considered ⟨"marker"⟩ := by
  have atRest : (Memory.holding ⟨"marker"⟩ none).AtRest ⟨"marker"⟩
      ((none : Option (List UInt8)).map fun bytes => { bytes }) := Memory.atRest_holding _ _
  exact .start (.start (fun _ => rfl) atRest)

/-- What considerate stores do one after the other keeps them considerate. -/
theorem considered_of_carryOut {fleet next : Fleet ι} {turn : ι × Command} {budget : Nat}
    (considered : fleet.Considered path) (considerate : fleet.Considerate turn.1 turn.2)
    (same : fleet.carryOut budget turn = some next) : next.Considered path := by
  obtain ⟨obeyed, carriedOut, rfl⟩ := Option.map_eq_some_iff.1 same
  exact considered.step considerate carriedOut

/-- The store that has handed the marker over deletes it, and then it makes it anew.  Both stores have
the marker open in the end, and both say that they have the lock. -/
theorem delete_takes_locked_file :
    ∃ before after : Fleet Bool,
      handOver.foldlM (carryOut 40) newPair = some before ∧
      (before.stores false).lifecycle.state = .opened ∧
      (before.stores false).lifecycle.locked = true ∧
      before.memory.isLocked ⟨"marker"⟩ = true ∧
      (∃ deleted, before.carryOut 40 (true, .operate .delete) = some deleted ∧
        deleted.memory.contents ⟨"marker"⟩ = none ∧
        deleted.carryOut 40 (true, .operate .create) = some after) ∧
      ∀ index, (after.stores index).lifecycle.state = .opened ∧
        (after.stores index).lifecycle.locked = true := by
  refine ⟨_, _, rfl, rfl, rfl, rfl, ⟨_, rfl, rfl, rfl⟩, ?_⟩
  intro index
  cases index with
  | false => exact ⟨rfl, rfl⟩
  | true => exact ⟨rfl, rfl⟩

/-- As long as the marker has not been handed over, nobody else can take it away. -/
theorem delete_respects_lock_if_considerate_handed_over :
    ∃ fleet : Fleet Bool, newPair.carryOut 40 (true, .operate .create) = some fleet ∧
      (fleet.stores true).lifecycle.state = .opened ∧
      Returns (fleet.stores false) fleet.memory (.operate .delete) fun obeyed =>
        obeyed.storage.file ⟨"marker"⟩ = fleet.memory.file ⟨"marker"⟩ := by
  obtain ⟨fleet, same, opened, unopened⟩ : ∃ fleet : Fleet Bool,
      newPair.carryOut 40 (true, .operate .create) = some fleet ∧
        (fleet.stores true).lifecycle.state = .opened ∧
        (fleet.stores false).lifecycle.state = .unopened := ⟨_, rfl, rfl, rfl⟩
  have considerate : newPair.Considerate true (.operate .create) := fun _ => trivial
  have considered := considered_of_carryOut considered_newPair considerate same
  obtain ⟨-, others⟩ := (delete_respects_lock_if_considerate considered).2 true opened
  obtain ⟨beside, -⟩ := others false nofun
  exact ⟨fleet, same, opened, beside _ (Or.inr unopened)⟩

end Fleet

end CrashMarker
