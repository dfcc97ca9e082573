/-
Module: CrashMarker.Proofs.Ordinary
Purpose: The parts of operations that neither make a file nor have to do with the flags of the store.
Main exports: Event.tellsFlags, Action.ordinary, Target.ordinary_closeMarker, Target.ordinary_delete
-/
import CrashMarker.Proofs.Confined
import CrashMarker.Proofs.Operations

namespace CrashMarker

/-!
A store learns that it has made a file from one kind of call, and its flags are published by the two
actions that come right before an event tells of them.  All other parts of its operations take none of
these, and that can be read off their text.
-/

/-- Whether an event speaks of flags at all. -/
def Event.tellsFlags : Event → Bool
  | .created _ _ => true
  | .opened _ _ _ => true
  | .persisted _ _ _ => true
  | _ => false

/-- Whether an action makes no file, leaves the cached flags alone and reports nothing about flags. -/
def Action.ordinary : Action → Prop
  | .ask (.createNew _) => False
  | .store _ _ => False
  | .emit event => event.tellsFlags = false
  | _ => True

namespace Target

theorem ordinary_writeFull (handle : Handle) (offset : Nat) (bytes : List UInt8) :
    (writeFull handle offset bytes).Confined Action.ordinary := by
  unfold writeFull
  split
  · exact .done _
  · exact .cycle (fun _ => trivial) (fun _ _ => .done _) fun _ => .done _

theorem ordinary_readFull (handle : Handle) (offset count : Nat) :
    (readFull handle offset count).Confined Action.ordinary := by
  unfold readFull
  split
  · exact .done _
  · exact .cycle (fun _ => trivial) (fun _ _ => .done _) fun _ => .done _

/-- Saving a record, however it goes, is ordinary. -/
theorem ordinary_persist (target : Target) (handle : Handle) (record : Record) :
    (target.persist handle record).Confined Action.ordinary := by
  refine Guarded.confined_bind (Guarded.confined_require (ordinary_writeFull _ _ _)) fun _ => ?_
  split
  · exact Guarded.confined_call trivial
  · exact Guarded.confined_pure _

theorem ordinary_acquireLock (target : Target) (handle : Handle) :
    (target.acquireLock handle).Confined Action.ordinary := by
  unfold acquireLock
  split
  · exact Guarded.confined_pure _
  · refine Guarded.confined_bind (Guarded.confined_call trivial) fun taken => ?_
    split
    · exact Guarded.confined_pure _
    · exact Guarded.confined_bind (Guarded.confined_emit rfl) fun _ => Guarded.confined_throw _

theorem ordinary_probeLock (target : Target) : target.probeLock.Confined Action.ordinary := by
  refine Guarded.confined_bind (Guarded.confined_ask trivial) fun opened => ?_
  split
  · exact Guarded.confined_emit rfl
  · refine Guarded.confined_bind (Guarded.confined_closingOnFailure trivial ?_)
      fun _ => Guarded.confined_lift (Script.confined_perform trivial)
    refine Guarded.confined_bind (Guarded.confined_ask trivial) fun locked => ?_
    split
    · refine Guarded.confined_bind (Guarded.confined_ask trivial) fun unlocked => ?_
      split
      · exact Guarded.confined_pure _
      · exact Guarded.confined_emit rfl
    · exact Guarded.confined_bind (Guarded.confined_emit rfl) fun _ => Guarded.confined_throw _
    · exact Guarded.confined_emit rfl

theorem ordinary_load (handle : Handle) : (load handle).Confined Action.ordinary := by
  refine Script.confined_bind (Script.confined_perform trivial) fun size => ?_
  split
  · exact .done _
  · refine Script.confined_bind (ordinary_readFull _ _ _) fun filled => ?_
    split <;> exact .done _

theorem ordinary_normalize (target : Target) (handle : Handle) :
    (target.normalize handle).Confined Action.ordinary := by
  refine Guarded.confined_bind (Guarded.confined_require (ordinary_load handle)) fun loaded => ?_
  split
  · exact Guarded.confined_bind (ordinary_persist _ _ _) fun _ => Guarded.confined_pure _
  · refine Guarded.confined_bind (ordinary_persist _ _ _) fun _ => ?_
    exact Guarded.confined_bind (Guarded.confined_emit rfl) fun _ => Guarded.confined_pure _
  · exact Guarded.confined_pure _

theorem ordinary_removeOld (target : Target) : target.removeOld.Confined Action.ordinary := by
  refine Guarded.confined_bind (Guarded.confined_ask trivial) fun removed => ?_
  split
  · exact Guarded.confined_pure _
  · exact Guarded.confined_throw _

theorem ordinary_clear (target : Target) : target.clear.Confined Action.ordinary := by
  refine Guarded.confined_bind (Guarded.confined_call trivial) fun found => ?_
  split
  · simp only
    split
    · exact Guarded.confined_bind (ordinary_probeLock _) fun _ => ordinary_removeOld _
    · exact ordinary_removeOld _
  · exact Guarded.confined_pure _

theorem ordinary_letGo (handle : Handle) (locked : Bool) :
    (letGo handle locked).Confined Action.ordinary := by
  refine Guarded.confined_bind (Guarded.confined_closingOnFailure trivial ?_)
    fun _ => Guarded.confined_lift (Script.confined_perform trivial)
  split
  · exact Guarded.confined_call trivial
  · exact Guarded.confined_pure _

theorem ordinary_closeMarker (target : Target) : target.closeMarker.Confined Action.ordinary := by
  refine Guarded.confined_script trivial (fun _ => trivial)
    (Guarded.confined_bind Guarded.confined_get fun before => ?_)
  split
  · refine Guarded.confined_bind (Guarded.confined_set _) fun _ => ?_
    exact Guarded.confined_bind (ordinary_letGo _ _) fun _ => Guarded.confined_emit rfl
  · exact Guarded.confined_pure _

/-- Removing the file again and again is ordinary, for as long as it takes. -/
theorem ordinary_removeUntilGone (target : Target) :
    target.removeUntilGone.Confined Action.ordinary := by
  refine .cycle (fun _ => trivial) (fun warned answer => ?_) fun _ => .done _
  split
  · exact .done _
  · exact .done _
  · refine Script.confined_bind (Script.confined_perform trivial) fun found => ?_
    split
    · exact .done _
    · exact .done _
    · split
      · exact Script.confined_bind (Script.confined_perform rfl) fun _ => .done _
      · exact .done _

/-- Deleting a marker is ordinary throughout: it changes no flag and makes no file. -/
theorem ordinary_delete (target : Target) : target.delete.Confined Action.ordinary := by
  have discard : (do
      modify fun lifecycle => { lifecycle with state := .deleted }
      Guarded.require (removeUntilGone target)
      Guarded.emit (.deleted target.path) : Guarded Unit).Confined Action.ordinary := by
    refine Guarded.confined_bind (Guarded.confined_modify _) fun _ => ?_
    refine Guarded.confined_bind (Guarded.confined_require (ordinary_removeUntilGone _)) fun _ => ?_
    exact Guarded.confined_emit rfl
  refine Guarded.confined_script trivial (fun _ => trivial)
    (Guarded.confined_bind Guarded.confined_get fun before => ?_)
  split
  · exact Guarded.confined_pure _
  · split
    · refine Guarded.confined_bind (Guarded.confined_set _) fun _ => ?_
      exact Guarded.confined_bind (ordinary_letGo _ _) fun _ => discard
    · exact discard

theorem ordinary_present (target : Target) : target.present.Confined Action.ordinary := by
  refine Script.confined_bind (Script.confined_perform trivial) fun found => ?_
  split <;> exact .done _

end Target

end CrashMarker
