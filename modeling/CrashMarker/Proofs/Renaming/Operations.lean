/-
Module: CrashMarker.Proofs.Renaming.Operations
Purpose: No operation looks at the tokens of the handles that it works with.
Main exports: Operation.alike, alike_readFull, alike_writeFull, Target.alike_present, alike_readRecord
-/
import CrashMarker.Proofs.Operations
import CrashMarker.Proofs.Renaming.Alike
import CrashMarker.Store.Inspection

namespace CrashMarker

variable {rename : Handle → Handle}

theorem alike_readFull (handle : Handle) (offset count : Nat) :
    Script.Alike rename id (readFull handle offset count) (readFull (rename handle) offset count) := by
  unfold readFull
  split
  · exact .done _
  · refine .cycle (fun sofar answer => ?_) fun filled => .done filled
    cases answer <;> exact .done _

theorem alike_writeFull (handle : Handle) (offset : Nat) (bytes : List UInt8) :
    Script.Alike rename id (writeFull handle offset bytes) (writeFull (rename handle) offset bytes) := by
  unfold writeFull
  split
  · exact .done _
  · refine .cycle (fun written answer => ?_) fun outcome => .done outcome
    cases answer <;> exact .done _

namespace Target

theorem alike_persist (target : Target) (handle : Handle) (record : Record) :
    Guarded.Alike rename id (target.persist handle record) (target.persist (rename handle) record) := by
  refine Guarded.alike_bind (Guarded.alike_require (alike_writeFull handle 0 record.encode)) fun _ => ?_
  split
  · exact Guarded.alike_call (.sync handle)
  · exact Guarded.alike_pure ()

theorem alike_publish (record : Record) : Guarded.Alike rename id (publish record) (publish record) :=
  Guarded.alike_bind (Guarded.alike_lift (Script.alike_perform (.store .dirty record.dirty)))
    fun _ => Guarded.alike_lift (Script.alike_perform (.store .rebuild record.rebuild))

theorem alike_acquireLock (target : Target) (handle : Handle) :
    Guarded.Alike rename id (target.acquireLock handle) (target.acquireLock (rename handle)) := by
  unfold acquireLock
  split
  · exact Guarded.alike_pure false
  · refine Guarded.alike_bind (Guarded.alike_call (.tryLock handle)) fun taken => ?_
    cases taken with
    | true => exact Guarded.alike_pure true
    | false => exact Guarded.alike_bind (Guarded.alike_emit _) fun _ => Guarded.alike_throw _

theorem alike_adopt (handle : Handle) (locked : Bool) :
    Guarded.Alike rename id (adopt handle locked) (adopt (rename handle) locked) :=
  Guarded.alike_set _

/-- The handle that the probe opens is its own, so it is renamed throughout. -/
theorem alike_probeLock (target : Target) :
    Guarded.Alike rename id target.probeLock target.probeLock := by
  refine Guarded.alike_bind (Guarded.alike_ask (.openFile target.path)) fun opened => ?_
  cases opened with
  | error cause => exact Guarded.alike_emit _
  | ok handle =>
    refine Guarded.alike_bind (Guarded.alike_closingOnFailure handle ?_)
      fun _ => Guarded.alike_lift (Script.alike_perform (.close handle))
    refine Guarded.alike_bind (Guarded.alike_ask (.tryLock handle)) fun locked => ?_
    match locked with
    | .ok true =>
      refine Guarded.alike_bind (Guarded.alike_ask (.unlock handle)) fun unlocked => ?_
      cases unlocked with
      | ok _ => exact Guarded.alike_pure ()
      | error cause => exact Guarded.alike_emit _
    | .ok false => exact Guarded.alike_bind (Guarded.alike_emit _) fun _ => Guarded.alike_throw _
    | .error cause => exact Guarded.alike_emit _

theorem alike_load (handle : Handle) :
    Script.Alike rename id (load handle) (load (rename handle)) := by
  refine Script.alike_bind (Script.alike_perform (.ask (.size handle))) fun size => ?_
  cases size with
  | error cause => exact .done _
  | ok size =>
    refine Script.alike_bind (alike_readFull handle 0 _) fun filled => ?_
    obtain ⟨bytes, outcome⟩ := filled
    cases outcome <;> exact .done _

theorem alike_normalize (target : Target) (handle : Handle) :
    Guarded.Alike rename id (target.normalize handle) (target.normalize (rename handle)) := by
  refine Guarded.alike_bind (Guarded.alike_require (alike_load handle)) fun loaded => ?_
  match loaded with
  | (_, none) =>
    exact Guarded.alike_bind (alike_persist _ _ _) fun _ => Guarded.alike_pure Record.clean
  | (.legacy, some record) =>
    refine Guarded.alike_bind (alike_persist _ _ _) fun _ => ?_
    exact Guarded.alike_bind (Guarded.alike_emit _) fun _ => Guarded.alike_pure record
  | (.missing, some record) => exact Guarded.alike_pure record
  | (.empty, some record) => exact Guarded.alike_pure record
  | (.current, some record) => exact Guarded.alike_pure record

/-- A store remembers having made a file, whatever the token of its handle. -/
theorem alike_associate : Guarded.Alike rename id
    (modify fun lifecycle : Lifecycle => { lifecycle with associated := true })
    (modify fun lifecycle : Lifecycle => { lifecycle with associated := true }) :=
  Guarded.alike_modify fun _ => rfl

theorem alike_ensurePresent (target : Target) :
    Guarded.Alike rename id target.ensurePresent target.ensurePresent := by
  refine Guarded.alike_bind (Guarded.alike_call (.present target.path)) fun found => ?_
  cases found with
  | true => exact Guarded.alike_pure ()
  | false =>
    refine Guarded.alike_bind (Guarded.alike_ask (.createNew target.path)) fun made => ?_
    match made with
    | .ok _ => exact alike_associate
    | .error (.alreadyExists _) => exact Guarded.alike_pure ()
    | .error (.notFound _) => exact Guarded.alike_throw _
    | .error (.io _) => exact Guarded.alike_throw _

theorem alike_removeOld (target : Target) :
    Guarded.Alike rename id target.removeOld target.removeOld := by
  refine Guarded.alike_bind (Guarded.alike_ask (.remove target.path)) fun removed => ?_
  cases removed with
  | ok _ => exact Guarded.alike_pure ()
  | error cause => exact Guarded.alike_throw _

theorem alike_clear (target : Target) : Guarded.Alike rename id target.clear target.clear := by
  refine Guarded.alike_bind (Guarded.alike_call (.present target.path)) fun found => ?_
  cases found with
  | false => exact Guarded.alike_pure ()
  | true =>
    change Guarded.Alike rename id (if target.config.fileLock then _ else _)
      (if target.config.fileLock then _ else _)
    split
    · exact Guarded.alike_bind (alike_probeLock target) fun _ => alike_removeOld target
    · exact alike_removeOld target

/-- A store takes a marker over that has been given its record. -/
theorem alike_settle (record : Record) (handle : Handle) (locked : Bool) (event : Event) :
    Guarded.Alike rename id
      (do publish record; adopt handle locked; Guarded.emit event)
      (do publish record; adopt (rename handle) locked; Guarded.emit event) := by
  refine Guarded.alike_bind (alike_publish record) fun _ => ?_
  exact Guarded.alike_bind (alike_adopt handle locked) fun _ => Guarded.alike_emit event

theorem alike_make (target : Target) : Guarded.Alike rename id target.make target.make := by
  refine Guarded.alike_bind (Guarded.alike_ask (.createNew target.path)) fun made => ?_
  cases made with
  | error cause => exact Guarded.alike_throw _
  | ok _ =>
    refine Guarded.alike_bind alike_associate fun _ => ?_
    refine Guarded.alike_bind (Guarded.alike_call (.openFile target.path)) fun handle => ?_
    refine Guarded.alike_closingOnFailure handle ?_
    refine Guarded.alike_bind (alike_acquireLock target handle) fun locked => ?_
    refine Guarded.alike_bind (alike_persist target handle .created) fun _ => ?_
    exact alike_settle .created handle locked _

theorem alike_create (target : Target) : Script.Alike rename id target.create target.create := by
  rw [create_eq]
  refine Guarded.alike_script ?_
  refine Guarded.alike_bind (Guarded.alike_ensureNotOpen _) fun _ => ?_
  exact Guarded.alike_bind (alike_clear target) fun _ => alike_make target

theorem alike_openMarker (target : Target) :
    Script.Alike rename id target.openMarker target.openMarker := by
  refine Guarded.alike_script ?_
  refine Guarded.alike_bind (Guarded.alike_ensureNotOpen _) fun _ => ?_
  refine Guarded.alike_bind (alike_ensurePresent target) fun _ => ?_
  refine Guarded.alike_bind (Guarded.alike_call (.openFile target.path)) fun handle => ?_
  refine Guarded.alike_closingOnFailure handle ?_
  refine Guarded.alike_bind (alike_acquireLock target handle) fun locked => ?_
  refine Guarded.alike_bind (alike_normalize target handle) fun record => ?_
  exact alike_settle record handle locked _

theorem alike_letGo (handle : Handle) (locked : Bool) :
    Guarded.Alike rename id (letGo handle locked) (letGo (rename handle) locked) := by
  refine Guarded.alike_bind (Guarded.alike_closingOnFailure handle ?_)
    fun _ => Guarded.alike_lift (Script.alike_perform (.close handle))
  split
  · exact Guarded.alike_call (.unlock handle)
  · exact Guarded.alike_pure ()

theorem alike_closeMarker (target : Target) :
    Script.Alike rename id target.closeMarker target.closeMarker := by
  refine Guarded.alike_script (Guarded.alike_bind Guarded.alike_get fun before => ?_)
  obtain ⟨state, held, locked, associated⟩ := before
  cases held with
  | none => exact Guarded.alike_pure ()
  | some handle =>
    refine Guarded.alike_bind (Guarded.alike_set ⟨.closed, none, false, associated⟩) fun _ => ?_
    exact Guarded.alike_bind (alike_letGo handle locked) fun _ => Guarded.alike_emit _

theorem alike_removeUntilGone (target : Target) :
    Script.Alike rename id target.removeUntilGone target.removeUntilGone := by
  refine .cycle (fun warned answer => ?_) fun outcome => .done outcome
  match answer with
  | .ok _ => exact .done _
  | .error (.notFound _) => exact .done _
  | .error (.alreadyExists _) | .error (.io _) =>
    refine Script.alike_bind (Script.alike_perform (.ask (.present target.path))) fun found => ?_
    match found with
    | .error _ => exact .done _
    | .ok false => exact .done _
    | .ok true =>
      cases warned with
      | true => exact .done _
      | false => exact Script.alike_bind (Script.alike_perform (.emit _)) fun _ => .done _

theorem alike_delete (target : Target) : Script.Alike rename id target.delete target.delete := by
  have discard : Guarded.Alike rename id
      (do
        modify fun lifecycle : Lifecycle => { lifecycle with state := .deleted }
        Guarded.require (removeUntilGone target)
        Guarded.emit (.deleted target.path))
      (do
        modify fun lifecycle : Lifecycle => { lifecycle with state := .deleted }
        Guarded.require (removeUntilGone target)
        Guarded.emit (.deleted target.path)) := by
    refine Guarded.alike_bind (Guarded.alike_modify fun _ => rfl) fun _ => ?_
    refine Guarded.alike_bind (Guarded.alike_require (alike_removeUntilGone target)) fun _ => ?_
    exact Guarded.alike_emit _
  refine Guarded.alike_script (Guarded.alike_bind Guarded.alike_get fun before => ?_)
  obtain ⟨state, held, locked, associated⟩ := before
  change Guarded.Alike rename id (if state = .unopened && !associated then _ else _)
    (if state = .unopened && !associated then _ else _)
  split
  · exact Guarded.alike_pure ()
  · cases held with
    | none => exact discard
    | some handle =>
      refine Guarded.alike_bind (Guarded.alike_set ⟨state, none, false, associated⟩) fun _ => ?_
      exact Guarded.alike_bind (alike_letGo handle locked) fun _ => discard

theorem alike_transition (target : Target) (flag : Flag) (value : Bool) :
    Script.Alike rename id (target.transition flag value) (target.transition flag value) := by
  refine Script.alike_bind (Script.alike_perform (.load flag)) fun cached => ?_
  change Script.Alike rename id (if cached = value then _ else _) (if cached = value then _ else _)
  split
  · exact .done _
  · apply Guarded.alike_script
    refine Guarded.alike_bind (Guarded.alike_lift (Script.alike_perform (.load flag))) fun cached => ?_
    change Guarded.Alike rename id (if cached = value then _ else _) (if cached = value then _ else _)
    split
    · exact Guarded.alike_pure ()
    · refine Guarded.alike_bind Guarded.alike_get fun before => ?_
      obtain ⟨state, held, locked, associated⟩ := before
      cases held with
      | none => exact Guarded.alike_throw _
      | some handle =>
        refine Guarded.alike_bind (Guarded.alike_lift (Script.alike_perform (.load .dirty)))
          fun dirty => ?_
        refine Guarded.alike_bind (Guarded.alike_lift (Script.alike_perform (.load .rebuild)))
          fun rebuild => ?_
        refine Guarded.alike_bind (alike_persist target handle _) fun _ => ?_
        refine Guarded.alike_bind (Guarded.alike_lift (Script.alike_perform (.store flag value)))
          fun _ => ?_
        exact Guarded.alike_emit _

theorem alike_present (target : Target) : Script.Alike rename id target.present target.present := by
  refine Script.alike_bind (Script.alike_perform (.ask (.present target.path))) fun found => ?_
  cases found <;> exact .done _

end Target

/-- No operation tells tokens apart. -/
theorem Operation.alike (target : Target) (operation : Operation) :
    Script.Alike rename id (operation.script target) (operation.script target) := by
  cases operation with
  | create => exact Target.alike_create target
  | openMarker => exact Target.alike_openMarker target
  | closeMarker => exact Target.alike_closeMarker target
  | delete => exact Target.alike_delete target
  | transition flag value => exact Target.alike_transition target flag value

theorem alike_inspectHandle (handle : Handle) :
    Script.Alike rename id (inspectHandle handle) (inspectHandle (rename handle)) := by
  refine Script.alike_bind (Script.alike_perform (.ask (.size handle))) fun size => ?_
  cases size with
  | error cause => exact .done _
  | ok size =>
    refine Script.alike_bind (Target.alike_load handle) fun loaded => ?_
    cases loaded <;> exact .done _

/-- Inspecting opens a handle of its own, and what it tells says nothing of it. -/
theorem alike_inspect (path : Path) : Script.Alike rename id (inspect path) (inspect path) := by
  refine Script.alike_bind (Script.alike_perform (.ask (.present path))) fun found => ?_
  match found with
  | .error cause => exact .done _
  | .ok false => exact .done _
  | .ok true =>
    refine Script.alike_bind (Script.alike_perform (.ask (.openFile path))) fun opened => ?_
    match opened with
    | .error (.notFound _) => exact .done _
    | .error (.alreadyExists _) => exact .done _
    | .error (.io _) => exact .done _
    | .ok handle =>
      refine Script.alike_bind (alike_inspectHandle handle) fun outcome => ?_
      exact Script.alike_bind (Script.alike_perform (.close handle)) fun _ => .done outcome

theorem alike_readRecord (path : Path) :
    Script.Alike rename id (readRecord path) (readRecord path) := by
  refine Script.alike_bind (alike_inspect path) fun outcome => ?_
  cases outcome <;> exact .done _

end CrashMarker
