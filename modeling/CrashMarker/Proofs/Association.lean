/-
Module: CrashMarker.Proofs.Association
Purpose: What a store remembers of the files that it has made, and what it therefore removes.
Main exports:
  made, Restores, Operation.restores, Lifecycle.Untouched, Career.untouched_iff, Script.Meets,
  Career.association_sums_up_history
-/
import CrashMarker.Proofs.Ordinary
import CrashMarker.Proofs.Usability

namespace CrashMarker

/-!
A store whose setup fails is as it was before, with one exception: if it has made a file by then, it
remembers that.  From this alone it decides later whether a file at its path is any of its concern.  The
decision looks at two fields of the lifecycle, and it is right because these two fields sum up all that
the store has ever done.
-/

/-! ## Files made -/

/-- Whether the action has made a file. -/
def Taken.made : Taken → Bool
  | ⟨.ask (.createNew _), .ok _⟩ => true
  | _ => false

def made (taken : List Taken) : Bool := taken.any Taken.made

@[simp] theorem made_nil : made [] = false := rfl

@[simp] theorem made_cons (step : Taken) (taken : List Taken) :
    made (step :: taken) = (step.made || made taken) := rfl

@[simp] theorem made_append (early late : List Taken) :
    made (early ++ late) = (made early || made late) := List.any_append

/-- Whether an action is no attempt to make a file. -/
def Action.uncreative : Action → Prop
  | .ask (.createNew _) => False
  | _ => True

theorem Action.uncreative_of_ordinary {action : Action} (ordinary : action.ordinary) :
    action.uncreative := by
  cases action with
  | ask request => cases request <;> exact ordinary
  | _ => trivial

/-- An action that does not try to make a file has made none. -/
theorem Taken.made_of_uncreative {step : Taken} (uncreative : step.action.uncreative) :
    step.made = false := by
  obtain ⟨action, answer⟩ := step
  cases action with
  | ask request => cases request <;> first | exact uncreative.elim | rfl
  | _ => rfl

section Uncreative

variable {σ : Type} [Storage σ] {conduct : Conduct σ} {world after : World σ} {lifecycle : Lifecycle}
  {α : Type}

/-- A script that does not attempt to make a file makes none. -/
theorem Script.Passes.made {script last : Script α} {taken : List Taken}
    (passes : Passes conduct script world taken last after)
    (uncreative : script.Confined Action.uncreative) : made taken = false :=
  List.any_eq_false.2 fun step isTaken => by
    rw [Taken.made_of_uncreative (passes.confined uncreative step isTaken)]
    nofun

theorem Guarded.Confined.uncreative {body : Guarded α} (ordinary : body.Confined Action.ordinary) :
    body.Confined Action.uncreative :=
  Guarded.Confined.mono ordinary fun _ => Action.uncreative_of_ordinary

/-- What such a part tells, it tells together with that. -/
theorem Guarded.Tells.unmade {body : Guarded α}
    {ends : List Taken → Except StoreError α → Lifecycle → World σ → Prop}
    (tells : body.Tells conduct lifecycle world ends) (uncreative : body.Confined Action.uncreative) :
    body.Tells conduct lifecycle world
      fun taken outcome left after => made taken = false ∧ ends taken outcome left after :=
  ⟨fun ended => ⟨Script.Passes.made ended (uncreative lifecycle), tells.of_ends ended⟩⟩

end Uncreative

/-! ## Setups that fail -/

variable {σ : Type} {conduct : Conduct σ} {world : World σ} {lifecycle : Lifecycle}
  {target : Target} {handle : Handle}

/-- A setup fails and leaves everything as it was, except that the store remembers a file that it has
made, or it succeeds and the store is open. -/
def Restores (before : World σ) (taken : List Taken) (outcome : Except StoreError Unit)
    (after : World σ) : Prop :=
  (∀ error, outcome = .error error → after.cached = before.cached ∧ after.lifecycle =
    { before.lifecycle with associated := before.lifecycle.associated || made taken }) ∧
  (outcome = .ok () → after.lifecycle.state = .opened)

/-- All but what is remembered has been settled for attempts of any kind. -/
theorem Attempts.restores {name : String} {evidence : Handle → Record → List Taken → Prop}
    {after : World σ} {taken : List Taken} {outcome : Except StoreError Unit}
    (attempts : Attempts target name evidence world taken outcome after)
    (remembers : ∀ error, outcome = .error error →
      after.lifecycle.associated = (world.lifecycle.associated || made taken)) :
    Restores world taken outcome after := by
  unfold Attempts at attempts
  unfold Restores
  split at attempts
  · obtain ⟨rfl, rfl, -⟩ := attempts
    refine ⟨fun _ _ => ⟨rfl, ?_⟩, nofun⟩
    rw [← remembers _ rfl]
  · generalize after.lifecycle = left at attempts remembers ⊢
    cases attempts with
    | opened => exact ⟨nofun, fun _ => rfl⟩
    | failed _ kept cached =>
      refine ⟨fun _ _ => ⟨cached, ?_⟩, nofun⟩
      rw [← remembers _ rfl]
      exact kept

variable [Storage σ]

/-- Once the file is open, a setup makes no file, and it leaves what the mutex guards alone if it
fails. -/
theorem tells_failed_takeOver {α : Type} {prepare : Guarded α} {shown : α → Record}
    {event : α → Bool → Event} (ordinary : prepare.Confined Action.ordinary)
    (keeps : ∀ world : World σ, prepare.Tells conduct lifecycle world
      fun _ _ left _ => left = lifecycle) :
    (Guarded.closingOnFailure handle do
      let locked ← Target.acquireLock target handle
      let value ← prepare
      Target.publish (shown value)
      Target.adopt handle locked
      Guarded.emit (event value locked)).Tells conduct lifecycle world fun taken outcome left _ =>
        made taken = false ∧ ∀ error, outcome = .error error → left = lifecycle := by
  apply Guarded.Tells.unmade
  · apply Guarded.tells_closingOnFailure
    apply Guarded.tells_bind
    apply (tells_acquireLock target).mono
    rintro early (error | locked) left middle ⟨rfl, -⟩
    · exact fun _ _ => rfl
    apply Guarded.tells_bind
    apply (keeps middle).mono
    rintro late (error | value) left last rfl
    · exact fun _ _ => rfl
    apply (tells_settle (shown value) locked (event value locked)).mono
    rintro closing outcome left after ⟨rfl, -⟩
    nofun
  · refine Guarded.confined_closingOnFailure trivial ?_
    refine Guarded.confined_bind (.uncreative (target.ordinary_acquireLock handle)) fun locked => ?_
    refine Guarded.confined_bind (.uncreative ordinary) fun value => ?_
    refine Guarded.confined_bind ?_ fun _ => ?_
    · exact Guarded.confined_bind (Guarded.confined_lift (Script.confined_perform trivial))
        fun _ => Guarded.confined_lift (Script.confined_perform trivial)
    · exact Guarded.confined_bind (Guarded.confined_set _) fun _ => Guarded.confined_emit trivial

/-- A file that was made is remembered, also by a setup that fails afterwards. -/
theorem remembers_make (target : Target) :
    target.make.Tells conduct lifecycle world fun taken outcome left _ =>
      ∀ error, outcome = .error error → left.associated = (lifecycle.associated || made taken) := by
  unfold Target.make
  apply Guarded.tells_bind
  apply Guarded.tells_ask
  intro answer storage answered
  cases answer with
  | error cause =>
    apply Guarded.tells_throw
    simp [Taken.made]
  | ok _ =>
    apply Guarded.tells_bind
    apply Guarded.tells_modify
    apply Guarded.tells_bind
    apply Guarded.tells_call
    intro answer storage answered
    cases answer with
    | error cause =>
      intro error failed
      simp [Taken.made]
    | ok handle =>
      have keeps : ∀ world : World σ, (target.persist handle .created).Tells conduct
          { lifecycle with associated := true } world
          fun _ _ left _ => left = { lifecycle with associated := true } :=
        fun world => (tells_persist target .created).mono fun _ _ _ _ => And.left
      apply (tells_failed_takeOver (target.ordinary_persist handle .created) keeps).mono
      rintro taken outcome left after ⟨-, kept⟩ error failed
      rw [kept error failed]
      simp [Taken.made]

/-- Making sure that a file is there is remembered exactly if it made one. -/
theorem remembers_ensurePresent (target : Target) :
    target.ensurePresent.Tells conduct lifecycle world fun taken _ left _ =>
      left.associated = (lifecycle.associated || made taken) := by
  unfold Target.ensurePresent
  apply Guarded.tells_bind
  apply Guarded.tells_call
  intro answer storage answered
  match answer with
  | .error cause =>
    show lifecycle.associated = _
    simp [Taken.made]
  | .ok true =>
    apply Guarded.tells_pure
    simp [Taken.made]
  | .ok false =>
    apply Guarded.tells_bind
    apply Guarded.tells_ask
    intro answer storage answered
    cases answer with
    | ok _ =>
      apply Guarded.tells_modify
      simp [Taken.made]
    | error cause =>
      cases cause with
      | alreadyExists other =>
        apply Guarded.tells_pure
        simp [Taken.made]
      | _ =>
        apply Guarded.tells_throw
        simp [Taken.made]

/-- A creation that fails remembers a file exactly if it has made it. -/
theorem remembers_create (target : Target) :
    target.create.Tells conduct world fun taken outcome after => ∀ error, outcome = .error error →
      after.lifecycle.associated = (world.lifecycle.associated || made taken) := by
  rw [Target.create_eq]
  apply Guarded.tells_script
  apply Guarded.tells_bind
  apply Guarded.tells_ensureNotOpen
  · simp [Taken.made]
  intro _
  apply Guarded.tells_bind
  apply ((tells_clear target).unmade (.uncreative target.ordinary_clear)).mono
  rintro early (error | _) left middle ⟨unmade, rfl, -⟩
  · simp [Taken.made, unmade]
  apply (remembers_make target).mono
  intro late outcome left after remembers error failed
  simp [Taken.made, unmade, remembers error failed]

/-- The same for opening: only the file that it had to make is remembered. -/
theorem remembers_openMarker (target : Target) :
    target.openMarker.Tells conduct world fun taken outcome after => ∀ error, outcome = .error error →
      after.lifecycle.associated = (world.lifecycle.associated || made taken) := by
  apply Guarded.tells_script
  apply Guarded.tells_bind
  apply Guarded.tells_ensureNotOpen
  · simp [Taken.made]
  intro _
  apply Guarded.tells_bind
  apply (remembers_ensurePresent target).mono
  rintro early (error | _) left middle remembers
  · simp [Taken.made, remembers]
  apply Guarded.tells_bind
  apply Guarded.tells_call
  intro answer storage answered
  cases answer with
  | error cause =>
    intro error failed
    simp [Taken.made, remembers]
  | ok handle =>
    have keeps : ∀ world : World σ, (target.normalize handle).Tells conduct left world
        fun _ _ after _ => after = left :=
      fun world => (tells_normalize target).mono fun _ _ _ _ => And.left
    apply (tells_failed_takeOver (target.ordinary_normalize handle) keeps).mono
    rintro taken outcome left after ⟨unmade, kept⟩ error failed
    simp [Taken.made, unmade, kept error failed, remembers]

/-- Creating and opening restore the store when they fail. -/
theorem Operation.restores {operation : Operation} (target : Target)
    (setsUp : operation = .create ∨ operation = .openMarker) :
    (operation.script target).Tells conduct world (Restores world) := by
  rcases setsUp with rfl | rfl
  · exact ⟨fun ended => ((tells_create target).of_ends ended).restores
      ((remembers_create target).of_ends ended)⟩
  · exact ⟨fun ended => ((tells_openMarker target).of_ends ended).restores
      ((remembers_openMarker target).of_ends ended)⟩

/-! ## Stores that have had nothing to do with a file -/

/-- What the mutex guards when the store has never made a file nor set its marker up. -/
def Lifecycle.Untouched (lifecycle : Lifecycle) : Prop :=
  lifecycle.state = .unopened ∧ lifecycle.associated = false

/-- A transition works on the file that is open, and never makes one. -/
theorem Target.uncreative_transition (target : Target) (flag : Flag) (value : Bool) :
    (target.transition flag value).Confined Action.uncreative := by
  have loads : ∀ flag, (Guarded.lift (Script.perform (.load flag))).Confined Action.uncreative :=
    fun flag => Guarded.confined_lift (Script.confined_perform trivial)
  refine Script.confined_bind (Script.confined_perform trivial) fun cached => ?_
  split
  · exact .done _
  refine Guarded.confined_script trivial (fun _ => trivial)
    (Guarded.confined_bind (loads flag) fun cached => ?_)
  split
  · exact Guarded.confined_pure _
  refine Guarded.confined_bind Guarded.confined_get fun lifecycle => ?_
  split
  · exact Guarded.confined_throw _
  · refine Guarded.confined_bind (loads .dirty) fun dirty => ?_
    refine Guarded.confined_bind (loads .rebuild) fun rebuild => ?_
    refine Guarded.confined_bind (.uncreative (target.ordinary_persist _ _)) fun _ => ?_
    refine Guarded.confined_bind (Guarded.confined_lift (Script.confined_perform trivial)) fun _ => ?_
    exact Guarded.confined_emit trivial

namespace Lifecycle

/-- Closing makes no store a stranger to files, nor the other way round. -/
theorem Fits.untouched_afterClose {before : Bool} (fits : lifecycle.Fits target.config before) :
    lifecycle.afterClose.Untouched ↔ lifecycle.Untouched := by
  unfold afterClose
  cases held : lifecycle.handle with
  | none => exact Iff.rfl
  | some handle =>
    have opened := (fits.of_holds (by rw [held]; rfl)).1
    simp [Untouched, opened]

/-- Neither does deleting. -/
theorem untouched_afterDelete (lifecycle : Lifecycle) (taken : List Taken) :
    (lifecycle.afterDelete taken).Untouched ↔ lifecycle.Untouched := by
  unfold afterDelete
  split
  · exact Iff.rfl
  next concerned =>
    refine iff_of_false ?_ concerned
    split
    · nofun
    · rintro ⟨unopened, unassociated⟩
      simp only at unopened
      split at unopened
      · exact concerned ⟨unopened, unassociated⟩
      · cases unopened

/-- After an operation the store is untouched exactly if it was so before, and the operation has neither
made a file nor set the marker up. -/
theorem Fits.untouched_iff {operation : Operation} {store : Store} {storage : σ}
    {taken : List Taken} {outcome : Except StoreError Unit} {before : Bool}
    (fits : store.lifecycle.Fits target.config before)
    (ended : (operation.script target).Ends conduct (store.world storage) taken outcome world) :
    world.lifecycle.Untouched ↔ store.lifecycle.Untouched ∧ made taken = false ∧
      (operation = .create ∨ operation = .openMarker → outcome ≠ .ok ()) := by
  have setup : operation = .create ∨ operation = .openMarker →
      (world.lifecycle.Untouched ↔ store.lifecycle.Untouched ∧ made taken = false ∧
        outcome ≠ .ok ()) := by
    intro setsUp
    obtain ⟨fails, succeeds⟩ := (operation.restores target setsUp).of_ends ended
    cases outcome with
    | error error =>
      rw [(fails error rfl).2]
      simp [Untouched, Store.world, and_assoc]
    | ok _ => simp [Untouched, succeeds rfl]
  have idle : (operation.script target).Confined Action.ordinary → made taken = false :=
    fun ordinary => Script.Passes.made ended (ordinary.mono fun _ => Action.uncreative_of_ordinary)
  cases operation with
  | create => simpa using setup (Or.inl rfl)
  | openMarker => simpa using setup (Or.inr rfl)
  | closeMarker =>
    obtain ⟨-, -, -, closed, -⟩ := (tells_closeMarker target).of_ends ended
    have unmade := idle target.ordinary_closeMarker
    simp [closed, Store.world, fits.untouched_afterClose, unmade]
  | delete =>
    obtain ⟨-, -, -, deleted, -⟩ := (tells_delete target).of_ends ended
    have unmade := idle target.ordinary_delete
    simp [deleted, Store.world, untouched_afterDelete, unmade]
  | transition flag value =>
    obtain ⟨kept, -⟩ := (tells_transition target flag value).of_ends ended
    have unmade := Script.Passes.made ended (target.uncreative_transition flag value)
    simp [kept, Store.world, unmade]

end Lifecycle

/-- A store is untouched exactly if nothing in its whole history has touched it. -/
theorem Career.untouched_iff {episodes : List Episode} {store : Store}
    (career : Career conduct target episodes store) :
    store.lifecycle.Untouched ↔ ∀ episode ∈ episodes, made episode.taken = false ∧
      (episode.operation = .create ∨ episode.operation = .openMarker → episode.outcome ≠ .ok ()) := by
  induction career with
  | fresh => exact iff_of_true ⟨rfl, rfl⟩ (List.forall_mem_nil _)
  | next career ended inductionHypothesis =>
    rw [List.forall_mem_append, List.forall_mem_singleton, ← inductionHypothesis]
    exact career.fits.untouched_iff ended

/-- An untouched store holds nothing. -/
theorem Career.letGo_of_untouched {episodes : List Episode} {store : Store}
    (career : Career conduct target episodes store) (untouched : store.lifecycle.Untouched) :
    store.lifecycle.handle = none :=
  (career.fits.of_notOpen (by rw [untouched.1]; nofun)).1

/-! ## Leaving everything alone -/

/-- A guarded part that comes to nothing takes the mutex and gives it back, and that is all. -/
theorem Guarded.ends_script_iff_of_idle {body : Guarded Unit} {taken : List Taken}
    {outcome : Except StoreError Unit} {after : World σ}
    (idle : body.run.run world.lifecycle = .done (.ok (), world.lifecycle)) :
    body.script.Ends conduct world taken outcome after ↔
      taken = [⟨.acquire, world.lifecycle⟩, ⟨.release world.lifecycle, ()⟩] ∧ outcome = .ok () ∧
        after = world := by
  constructor
  · intro ended
    have tells : body.Tells conduct world.lifecycle world fun taken outcome left after =>
        taken = [] ∧ outcome = .ok () ∧ left = world.lifecycle ∧ after = world := by
      unfold Guarded.Tells
      rw [idle]
      exact Script.tells_done ⟨rfl, rfl, rfl, rfl⟩
    have whole : body.script.Tells conduct world fun taken outcome after =>
        taken = [⟨.acquire, world.lifecycle⟩, ⟨.release world.lifecycle, ()⟩] ∧ outcome = .ok () ∧
          after = world := by
      apply Guarded.tells_script
      apply tells.mono
      rintro _ _ _ _ ⟨rfl, rfl, rfl, rfl⟩
      exact ⟨rfl, rfl, rfl⟩
    exact whole.of_ends ended
  · rintro ⟨rfl, rfl, rfl⟩
    refine .step rfl rfl ?_
    simp only [Script.done_bind]
    rw [idle]
    exact .step rfl rfl (.here _ _)

/-- Closing or deleting an untouched store makes no call, and it succeeds. -/
theorem Operation.ends_iff_of_untouched {operation : Operation} {taken : List Taken}
    {outcome : Except StoreError Unit} {after : World σ}
    (lets : operation = .closeMarker ∨ operation = .delete)
    (untouched : world.lifecycle.Untouched) (letGo : world.lifecycle.handle = none) :
    (operation.script target).Ends conduct world taken outcome after ↔
      taken = [⟨.acquire, world.lifecycle⟩, ⟨.release world.lifecycle, ()⟩] ∧ outcome = .ok () ∧
        after = world := by
  obtain ⟨unopened, unassociated⟩ := untouched
  rcases lets with rfl | rfl
  · apply Guarded.ends_script_iff_of_idle
    generalize world.lifecycle = lifecycle at *
    cases lifecycle
    cases letGo
    rfl
  · apply Guarded.ends_script_iff_of_idle
    generalize world.lifecycle = lifecycle at *
    cases lifecycle
    cases unopened
    cases unassociated
    rfl

/-! ## Removing what may be of concern -/

/-- However the storage answers, the script comes to take one of the wanted actions, unless it comes to
an end before and `ends` holds there. -/
inductive Script.Meets {α : Type} (conduct : Conduct σ) (wanted : Taken → Prop)
    (ends : α → World σ → Prop) : Script α → World σ → Prop where
  | done {result : α} {world : World σ} (holds : ends result world) :
      Meets conduct wanted ends (.done result) world
  | step {script : Script α} {world : World σ} {action : Action} {next : action.Answer → Script α}
      (acting : script.head = .acting action next)
      (further : ∀ answer after, action.Allowed conduct world answer after →
        ¬ wanted ⟨action, answer⟩ → Meets conduct wanted ends (next answer) after) :
      Meets conduct wanted ends script world

theorem Script.Meets.mono {α : Type} {wanted : Taken → Prop} {ends weaker : α → World σ → Prop}
    {script : Script α} (meets : script.Meets conduct wanted ends world)
    (weaken : ∀ result after, ends result after → weaker result after) :
    script.Meets conduct wanted weaker world := by
  induction meets with
  | done holds => exact .done (weaken _ _ holds)
  | step acting _ inductionHypothesis => exact .step acting inductionHypothesis

/-- Two scripts one after the other meet what the first meets, or what the second meets after it. -/
theorem Script.meets_bind {α β : Type} {wanted : Taken → Prop} {ends : β → World σ → Prop}
    {script : Script α} {next : α → Script β}
    (first : script.Meets conduct wanted
      (fun result after => (next result).Meets conduct wanted ends after) world) :
    (script.bind next).Meets conduct wanted ends world := by
  induction first with
  | done holds => exact holds
  | step acting _ inductionHypothesis =>
    exact .step (head_bind_of_acting acting next) inductionHypothesis

/-- The same for a part that runs under the mutex with the given lifecycle. -/
def Guarded.Meets {α : Type} (conduct : Conduct σ) (wanted : Taken → Prop) (body : Guarded α)
    (lifecycle : Lifecycle) (world : World σ)
    (ends : Except StoreError α → Lifecycle → World σ → Prop) : Prop :=
  Script.Meets conduct wanted (fun result after => ends result.1 result.2 after)
    (body.run.run lifecycle) world

/-- A guarded sequence meets what its parts meet; where the first one fails, the second is not begun. -/
theorem Guarded.meets_bind {α β : Type} {wanted : Taken → Prop}
    {ends : Except StoreError β → Lifecycle → World σ → Prop} {body : Guarded α}
    {next : α → Guarded β}
    (first : body.Meets conduct wanted lifecycle world fun outcome left after =>
      match outcome with
      | .ok value => (next value).Meets conduct wanted left after ends
      | .error error => ends (.error error) left after) :
    (body >>= next).Meets conduct wanted lifecycle world ends := by
  apply Script.meets_bind
  apply Script.Meets.mono first
  rintro ⟨outcome, left⟩ after reached
  cases outcome with
  | ok value => exact reached
  | error error => exact .done reached

/-- With the mutex taken and given back around it, a guarded part meets what it meets. -/
theorem Guarded.meets_script {α : Type} {wanted : Taken → Prop} {body : Guarded α}
    {ends : Except StoreError α → World σ → Prop}
    (holds : body.Meets conduct wanted world.lifecycle world fun outcome left after =>
      ends outcome { after with lifecycle := left }) :
    body.script.Meets conduct wanted ends world := by
  refine .step rfl fun answer after allowed _ => ?_
  cases allowed
  apply Script.meets_bind
  refine .done ?_
  apply Script.meets_bind
  apply Script.Meets.mono holds
  rintro ⟨outcome, left⟩ after reached
  refine .step rfl fun answer last allowed _ => ?_
  cases allowed
  exact .done reached

/-- The action asks for the removal of the file at the path, or is a lock that was not given up. -/
def Taken.removesOrKeeps (path : Path) (step : Taken) : Prop :=
  step.action = .ask (.remove path) ∨ step.unlockRefused = true

namespace Target

/-- Letting go of a handle succeeds unless the lock was not given up. -/
theorem meets_letGo (path : Path) (handle : Handle) (locked : Bool) :
    (letGo handle locked).Meets conduct (Taken.removesOrKeeps path) lifecycle world
      fun outcome _ _ => outcome = .ok () := by
  cases locked with
  | false => exact .step rfl fun _ _ _ _ => .done rfl
  | true =>
    refine .step rfl fun answer after allowed unwanted => ?_
    cases answer with
    | error cause => exact absurd (Or.inr rfl) unwanted
    | ok _ => exact .step rfl fun _ _ _ _ => .done rfl

/-- The first thing that is done once the handle is gone is to ask for the removal. -/
theorem meets_discard (target : Target) :
    (do
      modify fun lifecycle => { lifecycle with state := .deleted }
      Guarded.require (removeUntilGone target)
      Guarded.emit (.deleted target.path) : Guarded Unit).Meets conduct
        (Taken.removesOrKeeps target.path) lifecycle world fun _ _ _ => False :=
  .step rfl fun _ _ _ unwanted => absurd (Or.inl rfl) unwanted

/-- Deleting a store that is not untouched comes to ask for the removal, unless the lock was not given
up. -/
theorem meets_delete (target : Target) (touched : ¬ world.lifecycle.Untouched) :
    target.delete.Meets conduct (Taken.removesOrKeeps target.path) (fun _ _ => False) world := by
  apply Guarded.meets_script
  apply Guarded.meets_bind
  refine .done ?_
  simp only [Lifecycle.goesOn_of_concerned touched]
  cases held : world.lifecycle.handle with
  | none => exact meets_discard target
  | some handle =>
    apply Guarded.meets_bind
    refine .done ?_
    apply Guarded.meets_bind
    apply Script.Meets.mono (meets_letGo target.path handle world.lifecycle.locked)
    rintro ⟨_, left⟩ after rfl
    exact meets_discard target

end Target

/-! ## The whole life of a store -/

/-- A setup that fails leaves the store as it was, except that it remembers a file that it has made.
Therefore a store is untouched exactly if none of its operations has made a file or set the marker up.
Closing or deleting an untouched store makes no call and succeeds; deleting any other store comes to ask
for the removal of the file, unless the lock was not given up. -/
theorem Career.association_sums_up_history {episodes : List Episode} {store : Store}
    (career : Career conduct target episodes store) :
    (∀ (storage : σ) (operation : Operation) taken error (world : World σ),
      operation = .create ∨ operation = .openMarker →
      (operation.script target).Ends conduct (store.world storage) taken (.error error) world →
        world.cached = store.cached ∧ world.lifecycle =
          { store.lifecycle with associated := store.lifecycle.associated || made taken }) ∧
      (store.lifecycle.Untouched ↔ ∀ episode ∈ episodes, made episode.taken = false ∧
        (episode.operation = .create ∨ episode.operation = .openMarker →
          episode.outcome ≠ .ok ())) ∧
      (store.lifecycle.Untouched → ∀ (storage : σ) (operation : Operation) taken outcome world,
        operation = .closeMarker ∨ operation = .delete →
        ((operation.script target).Ends conduct (store.world storage) taken outcome world ↔
          taken = [⟨.acquire, store.lifecycle⟩, ⟨.release store.lifecycle, ()⟩] ∧
            outcome = .ok () ∧ world = store.world storage)) ∧
      (¬ store.lifecycle.Untouched → ∀ storage : σ, target.delete.Meets conduct
        (Taken.removesOrKeeps target.path) (fun _ _ => False) (store.world storage)) := by
  refine ⟨?_, career.untouched_iff, ?_, fun touched _ => target.meets_delete touched⟩
  · intro storage operation taken error world setsUp ended
    exact ((operation.restores target setsUp).of_ends ended).1 error rfl
  · intro untouched storage operation taken outcome world lets
    exact Operation.ends_iff_of_untouched lets untouched (career.letGo_of_untouched untouched)

/-- A memory that refuses to open a file once. -/
def openingFails : Monitored Memory where
  storage := {}
  faults := Table.empty.set .openFile [.fail (.io (.bare .other)) false]

/-- A new store is closed, and then it makes a file and fails to open it. -/
def failedLife : List Episode × Store × Monitored Memory :=
  ((Store.fresh { path := ⟨"marker"⟩ }).live 40 [.closeMarker, .create] openingFails).get (by decide)

/-- What happened to the store is a career, with an opening that fails in it. -/
theorem career_failedLife :
    Career (Conduct.honest (Monitored Memory)) { path := ⟨"marker"⟩ } failedLife.1 failedLife.2.1 := by
  have lived : (Store.fresh { path := ⟨"marker"⟩ }).live 40 [.closeMarker, .create] openingFails =
      some failedLife := (Option.some_get _).symm
  exact career_of_live lived

/-- The file is left alone when the new store is deleted, and its removal is asked for when the store is
deleted that has made it. -/
theorem association_sums_up_history_failed :
    (∃ taken error world, (Operation.create.script { path := ⟨"marker"⟩ }).Ends
        (Conduct.honest (Monitored Memory)) ((Store.fresh { path := ⟨"marker"⟩ }).world openingFails)
        taken (.error error) world ∧ world.lifecycle = { associated := true }) ∧
      (∀ taken outcome world, (Operation.delete.script { path := ⟨"marker"⟩ }).Ends
        (Conduct.honest (Monitored Memory)) ((Store.fresh { path := ⟨"marker"⟩ }).world openingFails)
        taken outcome world → outcome = .ok () ∧ taken = [⟨.acquire, {}⟩, ⟨.release {}, ()⟩]) ∧
      ¬ failedLife.2.1.lifecycle.Untouched ∧
      (Target.mk ⟨"marker"⟩ .standard).delete.Meets (Conduct.honest (Monitored Memory))
        (Taken.removesOrKeeps ⟨"marker"⟩) (fun _ _ => False)
        (failedLife.2.1.world failedLife.2.2) := by
  have began : Career (Conduct.honest (Monitored Memory)) { path := ⟨"marker"⟩ } []
      (.fresh { path := ⟨"marker"⟩ }) := .fresh
  obtain ⟨fails, history, leaves, -⟩ := began.association_sums_up_history
  obtain ⟨-, later, -, removes⟩ := career_failedLife.association_sums_up_history
  have touched : ¬ failedLife.2.1.lifecycle.Untouched := by
    have someMade : ∃ episode ∈ failedLife.1, made episode.taken = true := by decide
    obtain ⟨episode, member, itMade⟩ := someMade
    intro untouched
    rw [(later.1 untouched episode member).1] at itMade
    cases itMade
  refine ⟨?_, ?_, touched, removes touched _⟩
  · have recorded : ((Operation.create.script { path := ⟨"marker"⟩ }).record 40
        ((Store.fresh { path := ⟨"marker"⟩ }).world openingFails)).map
          (fun record => (record.2.1, made record.1)) =
        some (.error (.storage (.io (.bare .other))), true) := rfl
    obtain ⟨⟨taken, outcome, world⟩, ran, same⟩ := Option.map_eq_some_iff.1 recorded
    obtain ⟨rfl, itMade⟩ := Prod.mk.inj same
    have ended := Script.ends_of_record ran
    obtain ⟨-, left⟩ := fails _ .create taken _ world (Or.inl rfl) ended
    rw [itMade] at left
    exact ⟨taken, _, world, ended, left⟩
  · intro taken outcome world ended
    have nothing := history.2 (List.forall_mem_nil _)
    obtain ⟨rfl, rfl, -⟩ := (leaves nothing _ .delete taken outcome world (Or.inr rfl)).1 ended
    exact ⟨rfl, rfl⟩

end CrashMarker
