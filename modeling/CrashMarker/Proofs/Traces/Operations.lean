/-
Module: CrashMarker.Proofs.Traces.Operations
Purpose: What each operation on a store has done by the time it ends, whatever its storage does.
Main exports: Publishes, Establishes, tells_create, tells_openMarker, tells_closeMarker, tells_delete,
  tells_transition
-/
import CrashMarker.Proofs.Traces.Parts

namespace CrashMarker

variable {σ : Type} {conduct : Conduct σ} {world : World σ} {lifecycle : Lifecycle} {target : Target}
  {handle : Handle} {evidence : Handle → Record → List Taken → Prop}

/-! ## Publishing -/

/-- The cached flags were left alone until the actions taken bore the evidence asked for, and no bytes
moved any more from then on. -/
def Publishes (demanded : List Taken → Prop) (taken : List Taken) : Prop :=
  ∃ early late, taken = early ++ late ∧ published early = [] ∧ demanded early ∧
    Unwritten late ∧ received late = []

section Publishes

variable {demanded wider : List Taken → Prop} {taken early late : List Taken}

/-- Plain actions may come before the evidence. -/
theorem Publishes.preceded (publishes : Publishes demanded late) (plain : Plain early)
    (carries : ∀ taken, demanded taken → wider (early ++ taken)) :
    Publishes wider (early ++ late) := by
  obtain ⟨sooner, later, rfl, unpublished, borne, unwritten, unread⟩ := publishes
  refine ⟨early ++ sooner, later, (List.append_assoc _ _ _).symm, ?_, carries _ borne, unwritten,
    unread⟩
  rw [published_append, plain.published, unpublished, List.append_nil]

/-- Plain actions may come after the publication. -/
theorem Publishes.followed (publishes : Publishes demanded early) (plain : Plain late) :
    Publishes demanded (early ++ late) := by
  obtain ⟨sooner, later, rfl, unpublished, borne, unwritten, unread⟩ := publishes
  refine ⟨sooner, later ++ late, List.append_assoc _ _ _, unpublished, borne, ?_, ?_⟩
  · exact (unwritten_append _ _).2 ⟨unwritten, plain.unwritten⟩
  · rw [received_append, unread, plain.received, List.append_nil]

end Publishes

/-! ## Creating and opening -/

/-- What setting a marker up comes to: the store has the marker open under a handle, and published its
flags on the evidence asked for, or it has failed and is left with nothing in hand. -/
inductive Establishes (target : Target) (evidence : Handle → Record → List Taken → Prop) (grip : Grip)
    (lifecycle : Lifecycle) (before : World σ) (taken : List Taken) :
    Except StoreError Unit → Lifecycle → World σ → Prop where
  | opened {handle : Handle} {locked : Bool} {after : World σ}
      (locking : locked = true → target.config.fileLock = true)
      (publishes : Publishes (evidence handle after.cached) taken)
      (unsynced : target.config.syncOnWrite = false → Unsynced taken)
      (hand : grip.along taken = .on handle (some locked)) :
      Establishes target evidence grip lifecycle before taken (.ok ())
        ⟨.opened, some handle, locked, true⟩ after
  | failed {error : StoreError} {left : Lifecycle} {after : World σ}
      (other : error.isRefusal = false)
      (kept : left = { lifecycle with associated := left.associated })
      (cached : after.cached = before.cached) (unpublished : published taken = [])
      (unsynced : target.config.syncOnWrite = false → Unsynced taken)
      (hand : grip.along taken = .nothing) :
      Establishes target evidence grip lifecycle before taken (.error error) left after

/-- Evidence that is not spoiled by plain actions before it. -/
def Carried (evidence : Handle → Record → List Taken → Prop) : Prop :=
  ∀ early, Plain early → ∀ handle record taken, evidence handle record taken →
    evidence handle record (early ++ taken)

/-- That the flags have been saved is not spoiled by what was plain before. -/
theorem carried_saved {config : Config} : Carried (Saved config) :=
  fun _ plain _ _ _ saved => saved.preceded plain.accepted

theorem carried_shown {config : Config} : Carried fun handle record taken =>
    conduct.Measured → Shown config handle record taken :=
  fun _ plain _ _ _ shown measured =>
    (shown measured).imp (·.preceded plain.accepted) (·.preceded plain)

/-- What comes before a marker is set up may change the hand, and what is known of a file having been
made. -/
theorem Establishes.preceded {grip middleGrip : Grip} {before middle after : World σ}
    {early late : List Taken} {middleLifecycle left : Lifecycle} {outcome : Except StoreError Unit}
    (establishes : Establishes target evidence middleGrip middleLifecycle middle late outcome left after)
    (kept : middleLifecycle = { lifecycle with associated := middleLifecycle.associated })
    (cached : middle.cached = before.cached) (plain : Plain early)
    (hand : grip.along early = middleGrip)
    (carries : ∀ handle record taken, evidence handle record taken →
      evidence handle record (early ++ taken)) :
    Establishes target evidence grip lifecycle before (early ++ late) outcome left after := by
  have unsyncing : ∀ {taken}, Unsynced taken → Unsynced (early ++ taken) := fun unsynced =>
    (unsynced_append _ _).2 ⟨plain.unsynced, unsynced⟩
  cases establishes with
  | opened locking publishes unsynced further =>
    refine .opened locking (publishes.preceded plain (carries _ _)) (fun off => unsyncing (unsynced off))
      ?_
    rw [Grip.along_append, hand, further]
  | failed other same unchanged unpublished unsynced further =>
    refine .failed other ?_ (unchanged.trans cached) ?_ (fun off => unsyncing (unsynced off)) ?_
    · rw [same, kept]
    · rw [published_append, plain.published, unpublished, List.append_nil]
    · rw [Grip.along_append, hand, further]

/-- What comes after a marker has been set up changes nothing if nothing was done. -/
theorem Establishes.followed {grip : Grip} {before after last : World σ} {early late : List Taken}
    {left : Lifecycle} {outcome : Except StoreError Unit}
    (establishes : Establishes target evidence grip lifecycle before early outcome left after)
    (passive : Passive late) (cached : last.cached = after.cached) :
    Establishes target evidence grip lifecycle before (early ++ late) outcome left last := by
  have unsyncing : Unsynced early → Unsynced (early ++ late) := fun unsynced =>
    (unsynced_append _ _).2 ⟨unsynced, passive.plain.unsynced⟩
  have unchanged : ∀ {hand}, grip.along early = hand → grip.along (early ++ late) = hand := by
    rintro hand rfl
    rw [Grip.along_append, passive.handsOff]
  cases establishes with
  | opened locking publishes unsynced hand =>
    refine .opened locking ?_ (fun off => unsyncing (unsynced off)) (unchanged hand)
    rw [cached]
    exact publishes.followed passive.plain
  | failed other kept same unpublished unsynced hand =>
    refine .failed other kept (cached.trans same) ?_ (fun off => unsyncing (unsynced off))
      (unchanged hand)
    rw [published_append, unpublished, passive.plain.published, List.append_nil]

/-- What creating or opening a marker comes to: on a store that is open nothing but a refusal, and on
any other store the attempt to set the marker up. -/
def Attempts (target : Target) (name : String) (evidence : Handle → Record → List Taken → Prop)
    (world : World σ) (taken : List Taken) (outcome : Except StoreError Unit) (after : World σ) :
    Prop :=
  if world.lifecycle.state = .opened then
    outcome = .error (.alreadyOpen name) ∧ after = world ∧ Passive taken
  else
    Establishes target evidence .nothing world.lifecycle world taken outcome after.lifecycle after

variable [Storage σ]

/-- An attempt begins with taking the mutex and looking at the state of the store, and it ends with
giving the mutex back. -/
theorem tells_attempt {name : String} {body : Guarded Unit} (carried : Carried evidence)
    (establishes : body.Tells conduct world.lifecycle world
      (Establishes target evidence .nothing world.lifecycle world)) :
    (Guarded.script (do Guarded.ensureNotOpen name; body)).Tells conduct world
      (Attempts target name evidence world) := by
  apply Guarded.tells_script
  apply Guarded.tells_bind
  apply Guarded.tells_ensureNotOpen
  · intro opened
    simp only [Attempts, opened, if_true]
    exact ⟨trivial, trivial, by simp [Taken.passive]⟩
  · intro notOpen
    simp only [Attempts, notOpen, if_false, List.nil_append]
    apply establishes.mono
    intro taken outcome left after reached
    have locked : Passive [⟨.acquire, world.lifecycle⟩] := by simp [Taken.passive]
    have given : Passive [⟨.release left, ()⟩] := by simp [Taken.passive]
    exact (reached.preceded rfl rfl locked.plain (locked.handsOff _)
      (carried _ locked.plain)).followed given rfl

/-- Making a record the cached one and taking over the handle is all that is left to do once the marker
is in order. -/
theorem tells_settle (record : Record) (locked : Bool) (event : Event) :
    (do Target.publish record; Target.adopt handle locked; Guarded.emit event :
      Guarded Unit).Tells conduct lifecycle world fun taken outcome left after =>
        outcome = .ok () ∧ left = ⟨.opened, some handle, locked, true⟩ ∧ after.cached = record ∧
          Unwritten taken ∧ received taken = [] ∧ Unsynced taken ∧ HandsOff taken := by
  unfold Target.publish
  apply Guarded.tells_bind
  apply Guarded.tells_bind
  apply Guarded.tells_lift
  apply Script.tells_store
  apply Guarded.tells_lift
  apply Script.tells_store
  apply Guarded.tells_bind
  apply Guarded.tells_set
  apply Guarded.tells_emit
  exact ⟨rfl, rfl, rfl, by simp [Taken.writes], rfl, by simp [Taken.syncs], fun _ => rfl⟩

/-- Once the file is open, the lock is taken, the record is prepared and published, and the handle is
kept.  When that fails the handle is closed again. -/
theorem tells_takeOver {prepare : Guarded Record} {event : Record → Bool → Event}
    (prepares : ∀ world : World σ, prepare.Tells conduct lifecycle world
      fun taken outcome left after => left = lifecycle ∧ Steady target.config world taken after ∧
        Unrefused outcome ∧ ∀ record, outcome = .ok record → evidence handle record taken)
    (carried : Carried evidence) :
    (Guarded.closingOnFailure handle do
      let locked ← Target.acquireLock target handle
      let record ← prepare
      Target.publish record
      Target.adopt handle locked
      Guarded.emit (event record locked)).Tells conduct lifecycle world
        (Establishes target evidence (.on handle (some false)) lifecycle world) := by
  apply Guarded.tells_closingOnFailure
  apply Guarded.tells_bind
  apply (tells_acquireLock target).mono
  rintro early (error | locked) left middle ⟨rfl, cached, plain, unrefused, taking, known, hand⟩
  · refine .failed (unrefused _ rfl) rfl cached ?_ (fun _ => ?_) ?_
    · simp [plain.published, Taken.published]
    · simp [plain.unsynced, Taken.syncs]
    · simp [hand, Grip.step]
  obtain ⟨locking, held⟩ := taking locked rfl
  apply Guarded.tells_bind
  apply (prepares middle).mono
  rintro late (error | record) left last ⟨rfl, steady, unrefused, prepared⟩
  · refine .failed (unrefused _ rfl) rfl (steady.cached.trans cached) ?_ (fun off => ?_) ?_
    · simp [plain.published, steady.unpublished, Taken.published]
    · simp [plain.unsynced, steady.unsynced off, Taken.syncs]
    · simp [held, steady.handsOff _, Grip.step]
  · apply (tells_settle record locked (event record locked)).mono
    rintro closing outcome left after ⟨rfl, rfl, rfl, unwritten, unread, unsynced, handsOff⟩
    refine .opened locking ⟨early ++ late, closing, ?_, ?_, ?_, unwritten, unread⟩ (fun off => ?_) ?_
    · rw [List.append_assoc]
    · rw [published_append, plain.published, steady.unpublished, List.append_nil]
    · exact carried _ plain _ _ _ (prepared _ rfl)
    · simp [plain.unsynced, steady.unsynced off, unsynced]
    · simp [held, steady.handsOff _, handsOff _]

/-- The record is the same in every new marker, so that preparing it can be said to yield it. -/
theorem takeOver_saving (target : Target) (handle : Handle) : (do
    let locked ← Target.acquireLock target handle
    Target.persist target handle .created
    Target.publish .created
    Target.adopt handle locked
    Guarded.emit (.created target.path locked)) = (do
    let locked ← Target.acquireLock target handle
    let record ← (do Target.persist target handle .created; return Record.created : Guarded Record)
    Target.publish record
    Target.adopt handle locked
    Guarded.emit (.created target.path locked)) := by
  simp only [bind_assoc, pure_bind]

/-- A new marker is saved before it is published. -/
theorem tells_make (target : Target) :
    target.make.Tells conduct lifecycle world
      (Establishes target (Saved target.config) .nothing lifecycle world) := by
  unfold Target.make
  apply Guarded.tells_bind
  apply Guarded.tells_ask
  intro answer storage answered
  cases answer with
  | error cause =>
    exact Guarded.tells_throw (.failed rfl rfl rfl rfl (fun _ => by simp [Taken.syncs]) rfl)
  | ok made =>
    apply Guarded.tells_bind
    apply Guarded.tells_modify
    apply Guarded.tells_bind
    apply Guarded.tells_call
    intro answer storage answered
    cases answer with
    | error cause =>
      exact .failed rfl rfl rfl rfl (fun _ => by simp [Taken.syncs]) rfl
    | ok handle =>
      simp only [takeOver_saving]
      apply (tells_takeOver (fun world => tells_saving target .created) carried_saved).mono
      intro taken outcome left after establishes
      have plain : Plain [⟨.ask (.createNew target.path), .ok made⟩,
          ⟨.ask (.openFile target.path), .ok handle⟩] := by simp [Taken.plain]
      have whole : Establishes target (Saved target.config) .nothing lifecycle world
          ([⟨.ask (.createNew target.path), .ok made⟩,
            ⟨.ask (.openFile target.path), .ok handle⟩] ++ taken) outcome left after :=
        establishes.preceded rfl rfl plain rfl (carried_saved _ plain)
      exact whole

/-- Creating publishes its flags on the evidence that they have been saved. -/
theorem tells_create (target : Target) :
    target.create.Tells conduct world (Attempts target "create" (Saved target.config) world) := by
  rw [Target.create_eq]
  apply tells_attempt carried_saved
  apply Guarded.tells_bind
  apply (tells_clear target).mono
  rintro early (error | _) left middle ⟨rfl, cached, plain, unrefused, hand⟩
  · exact .failed (unrefused _ rfl) rfl cached plain.published (fun _ => plain.unsynced) hand
  · apply (tells_make target).mono
    intro late outcome left after reached
    exact reached.preceded rfl cached plain hand (carried_saved _ plain)

/-- Opening publishes only what has been saved or read, as far as reads can be trusted to yield no more
than they were asked for. -/
theorem tells_openMarker (target : Target) :
    target.openMarker.Tells conduct world (Attempts target "open"
      (fun handle record taken => conduct.Measured → Shown target.config handle record taken)
      world) := by
  unfold Target.openMarker
  apply tells_attempt carried_shown
  apply Guarded.tells_bind
  apply (tells_ensurePresent target).mono
  rintro early (error | _) left middle ⟨kept, cached, passive, unrefused⟩
  · exact .failed (unrefused _ rfl) kept cached passive.plain.published (fun _ => passive.plain.unsynced)
      (passive.handsOff _)
  apply Guarded.tells_bind
  apply Guarded.tells_call
  intro answer storage answered
  cases answer with
  | error cause =>
    refine .failed rfl kept cached ?_ (fun _ => ?_) ?_
    · simp [passive.plain.published, Taken.published]
    · simp [passive.plain.unsynced, Taken.syncs]
    · simp [passive.handsOff _, Grip.step]
  | ok handle =>
    apply (tells_takeOver (fun world => tells_normalize target) carried_shown).mono
    intro late outcome left after reached
    have plain : Plain (early ++ [⟨.ask (.openFile target.path), .ok handle⟩]) := by
      simp [passive.plain, Taken.plain]
    have inHand : Grip.nothing.along (early ++ [⟨.ask (.openFile target.path), .ok handle⟩]) =
        .on handle (some false) := by
      rw [Grip.along_append, passive.handsOff]
      rfl
    have whole := reached.preceded kept cached plain inHand (carried_shown _ plain)
    rw [List.append_assoc] at whole
    exact whole

/-! ## Closing and deleting -/

/-- What closing leaves of the lifecycle. -/
def Lifecycle.afterClose (lifecycle : Lifecycle) : Lifecycle :=
  match lifecycle.handle with
  | none => lifecycle
  | some _ => { lifecycle with state := .closed, handle := none, locked := false }

/-- What deleting leaves of the lifecycle.  A store that was never concerned with a file is left alone,
and where the lock is not given up, the state stays what it was although the handle is gone. -/
def Lifecycle.afterDelete (lifecycle : Lifecycle) (taken : List Taken) : Lifecycle :=
  if lifecycle.state = .unopened ∧ lifecycle.associated = false then lifecycle
  else
    match lifecycle.handle with
    | none => { lifecycle with state := .deleted }
    | some _ =>
      { lifecycle with
        state := if unlockRefused taken then lifecycle.state else .deleted
        handle := none
        locked := false }

/-- Deleting goes on unless the store was never concerned with a file. -/
theorem Lifecycle.goesOn_of_concerned
    (concerned : ¬ (lifecycle.state = .unopened ∧ lifecycle.associated = false)) :
    (decide (lifecycle.state = .unopened) && !lifecycle.associated) = false := by
  simpa using concerned

/-- A store that has let go has nothing in hand. -/
theorem Grip.ofLifecycle_of_letGo (letGo : lifecycle.handle = none) :
    ofLifecycle lifecycle = nothing := by
  rw [ofLifecycle, letGo]

/-- A store with a handle knows about its lock. -/
theorem Grip.ofLifecycle_of_handle (holds : lifecycle.handle = some handle) :
    ofLifecycle lifecycle = on handle (some lifecycle.locked) := by
  rw [ofLifecycle, holds]

/-- Closing lets go of what is in hand, even if it fails. -/
theorem tells_closeMarker (target : Target) :
    target.closeMarker.Tells conduct world fun taken outcome after =>
      after.cached = world.cached ∧ Plain taken ∧ Unrefused outcome ∧
        after.lifecycle = world.lifecycle.afterClose ∧
        (Grip.ofLifecycle world.lifecycle).along taken = Grip.ofLifecycle after.lifecycle := by
  unfold Target.closeMarker
  apply Guarded.tells_script
  apply Guarded.tells_bind
  apply Guarded.tells_get
  cases held : world.lifecycle.handle with
  | none =>
    simp only [held]
    refine Guarded.tells_pure ⟨rfl, by simp [Taken.plain], unrefused_ok _, ?_, rfl⟩
    rw [Lifecycle.afterClose, held]
  | some handle =>
    simp only [held]
    apply Guarded.tells_bind
    apply Guarded.tells_set
    apply Guarded.tells_bind
    apply (tells_letGo world.lifecycle.locked).mono
    rintro taken (error | _) left after ⟨rfl, cached, plain, unrefused, -, empty⟩
    · refine ⟨cached, by simp [Taken.plain, plain], unrefused_error (unrefused _ rfl), ?_, ?_⟩
      · rw [Lifecycle.afterClose, held]
      · rw [Grip.ofLifecycle_of_handle held, Grip.ofLifecycle_of_letGo rfl]
        simp [Grip.step, empty]
    · apply Guarded.tells_emit
      refine ⟨cached, by simp [Taken.plain, plain], unrefused_ok _, ?_, ?_⟩
      · rw [Lifecycle.afterClose, held]
      · rw [Grip.ofLifecycle_of_handle held, Grip.ofLifecycle_of_letGo rfl]
        simp [Grip.step, empty]

/-- The second half of deleting, with nothing in hand. -/
theorem tells_discard (target : Target) :
    (do
      modify fun lifecycle => { lifecycle with state := .deleted }
      Guarded.require (Target.removeUntilGone target)
      Guarded.emit (.deleted target.path) : Guarded Unit).Tells conduct lifecycle world
        fun taken outcome left after => left = { lifecycle with state := .deleted } ∧
          after.cached = world.cached ∧ Passive taken ∧ Unrefused outcome := by
  apply Guarded.tells_bind
  apply Guarded.tells_modify
  apply Guarded.tells_bind
  apply Guarded.tells_require
  apply (tells_removeUntilGone target).mono
  rintro taken (error | _) after ⟨cached, passive, unrefused⟩
  · exact ⟨rfl, cached, passive, unrefused_error (unrefused _ rfl)⟩
  · apply Guarded.tells_emit
    exact ⟨rfl, cached, by simp [Taken.passive, passive], unrefused_ok _⟩

/-- Deleting lets go of what is in hand, even if it fails. -/
theorem tells_delete (target : Target) :
    target.delete.Tells conduct world fun taken outcome after =>
      after.cached = world.cached ∧ Plain taken ∧ Unrefused outcome ∧
        after.lifecycle = world.lifecycle.afterDelete taken ∧
        (unlockRefused taken = true → world.lifecycle.handle.isSome) ∧
        (Grip.ofLifecycle world.lifecycle).along taken = Grip.ofLifecycle after.lifecycle := by
  unfold Target.delete
  apply Guarded.tells_script
  apply Guarded.tells_bind
  apply Guarded.tells_get
  by_cases unconcerned : world.lifecycle.state = .unopened ∧ world.lifecycle.associated = false
  · simp only [unconcerned, Bool.not_false, Bool.and_self, decide_true, if_true]
    refine Guarded.tells_pure ⟨rfl, by simp [Taken.plain], unrefused_ok _, ?_, ?_, rfl⟩
    · rw [Lifecycle.afterDelete, if_pos unconcerned]
    · simp [Taken.unlockRefused]
  simp only [Lifecycle.goesOn_of_concerned unconcerned]
  cases held : world.lifecycle.handle with
  | none =>
    apply (tells_discard target).mono
    rintro taken outcome left after ⟨rfl, cached, passive, unrefused⟩
    have letGo : ({ world.lifecycle with state := .deleted } : Lifecycle).handle = none := held
    refine ⟨cached, by simp [Taken.plain, passive.plain], unrefused, ?_, ?_, ?_⟩
    · rw [Lifecycle.afterDelete, if_neg unconcerned, held]
    · simp [Taken.unlockRefused, passive.unlockRefused]
    · rw [Grip.ofLifecycle_of_letGo held, Grip.ofLifecycle_of_letGo letGo]
      simp [Grip.step, passive.handsOff _]
  | some handle =>
    apply Guarded.tells_bind
    apply Guarded.tells_set
    apply Guarded.tells_bind
    apply (tells_letGo world.lifecycle.locked).mono
    rintro early outcome left middle ⟨rfl, cached, plain, unrefused, given, empty⟩
    cases outcome with
    | error error =>
      have kept : unlockRefused early = true := by
        rw [← Bool.not_eq_false, ← given]
        simp
      refine ⟨cached, by simp [Taken.plain, plain], unrefused_error (unrefused _ rfl), ?_,
        fun _ => rfl, ?_⟩
      · rw [Lifecycle.afterDelete, if_neg unconcerned, held]
        simp [Taken.unlockRefused, kept]
      · rw [Grip.ofLifecycle_of_handle held, Grip.ofLifecycle_of_letGo rfl]
        simp [Grip.step, empty]
    | ok done =>
      apply (tells_discard target).mono
      rintro late outcome left after ⟨rfl, same, passive, unrefused⟩
      refine ⟨same.trans cached, by simp [Taken.plain, plain, passive.plain], unrefused, ?_,
        fun _ => rfl, ?_⟩
      · rw [Lifecycle.afterDelete, if_neg unconcerned, held]
        simp [Taken.unlockRefused, given.1 rfl, passive.unlockRefused]
      · rw [Grip.ofLifecycle_of_handle held, Grip.ofLifecycle_of_letGo rfl]
        simp [Grip.step, empty, passive.handsOff _]

/-! ## Changing a flag -/

/-- What a transition comes to: nothing where the flag has its value already, a refusal where nothing
is in hand, and otherwise the attempt to save the changed record and then to publish the change. -/
inductive Transits (target : Target) (flag : Flag) (value : Bool) (before : World σ)
    (taken : List Taken) : Except StoreError Unit → World σ → Prop where
  | idle {after : World σ} (same : before.cached.get flag = value) (cached : after.cached = before.cached)
      (passive : Passive taken) : Transits target flag value before taken (.ok ()) after
  | refused {after : World σ} (changes : before.cached.get flag ≠ value)
      (letGo : before.lifecycle.handle = none) (cached : after.cached = before.cached)
      (passive : Passive taken) : Transits target flag value before taken (.error .closed) after
  | changed {handle : Handle} {after : World σ} (changes : before.cached.get flag ≠ value)
      (holds : before.lifecycle.handle = some handle)
      (cached : after.cached = before.cached.set flag value)
      (publishes : Publishes (Saved target.config handle after.cached) taken)
      (unsynced : target.config.syncOnWrite = false → Unsynced taken) (handsOff : HandsOff taken) :
      Transits target flag value before taken (.ok ()) after
  | failed {handle : Handle} {error : StoreError} {after : World σ}
      (changes : before.cached.get flag ≠ value) (holds : before.lifecycle.handle = some handle)
      (other : error.isRefusal = false) (steady : Steady target.config before taken after) :
      Transits target flag value before taken (.error error) after

/-- A transition changes nothing but its flag, and that only after it has saved the change. -/
theorem tells_transition (target : Target) (flag : Flag) (value : Bool) :
    (target.transition flag value).Tells conduct world fun taken outcome after =>
      after.lifecycle = world.lifecycle ∧ Transits target flag value world taken outcome after := by
  unfold Target.transition
  apply Script.tells_bind
  apply Script.tells_load
  by_cases same : world.cached.get flag = value
  · rw [if_pos same]
    exact Script.tells_done ⟨rfl, .idle same rfl (by simp [Taken.passive])⟩
  rw [if_neg same]
  apply Guarded.tells_script
  apply Guarded.tells_bind
  apply Guarded.tells_lift
  apply Script.tells_load
  simp only [if_neg same]
  apply Guarded.tells_bind
  apply Guarded.tells_get
  cases held : world.lifecycle.handle with
  | none =>
    simp only [held]
    exact Guarded.tells_throw ⟨rfl, .refused same held rfl (by simp [Taken.passive])⟩
  | some handle =>
    simp only [held]
    apply Guarded.tells_bind
    apply Guarded.tells_lift
    apply Script.tells_load
    apply Guarded.tells_bind
    apply Guarded.tells_lift
    apply Script.tells_load
    apply Guarded.tells_bind
    apply (tells_persist target (world.cached.set flag value)).mono
    -- Nothing but looking happens before the record is saved, and nothing but reporting afterwards.
    have looking : Passive [⟨.load flag, world.cached.get flag⟩, ⟨.acquire, world.lifecycle⟩,
      ⟨.load flag, world.cached.get flag⟩, ⟨.load .dirty, world.cached.dirty⟩,
      ⟨.load .rebuild, world.cached.rebuild⟩] := by simp [Taken.passive]
    rintro saving (error | _) left middle ⟨rfl, steady, unrefused, saved⟩
    · have closing : Steady target.config middle [⟨.release world.lifecycle, ()⟩]
          { middle with lifecycle := world.lifecycle } := .of_passive rfl (by simp [Taken.passive])
      have whole := ((Steady.of_passive rfl looking).trans steady).trans closing
      exact ⟨rfl, .failed same held (unrefused _ rfl) whole⟩
    · apply Guarded.tells_bind
      apply Guarded.tells_lift
      apply Script.tells_store
      apply Guarded.tells_emit
      have cached : middle.cached.set flag value = world.cached.set flag value := by
        rw [steady.cached]
      have publishes : Publishes (Saved target.config handle (world.cached.set flag value))
          (saving ++ [⟨.store flag value, ()⟩, ⟨.emit (.persisted target.path flag value), ()⟩]) :=
        ⟨saving, _, rfl, steady.unpublished, saved rfl, by simp [Taken.writes], rfl⟩
      have closing : Plain [⟨.release world.lifecycle, ()⟩] := by simp [Taken.plain]
      have whole := (publishes.preceded looking.plain
        fun _ => (·.preceded looking.plain.accepted)).followed closing
      rw [← cached] at whole
      refine ⟨rfl, .changed same held cached whole (fun off => ?_) ?_⟩
      · simp [Taken.syncs, steady.unsynced off]
      · intro grip
        simp [Grip.step, steady.handsOff _]

end CrashMarker
