/-
Module: CrashMarker.Proofs.Completes
Purpose: Scripts that come to their end on a storage that answers in one way, and what they have done
  by then.
Main exports:
  Script.Completes, Script.Completes.run_eq, Guarded.Completes, and one rule for each way in which a
  script is put together
-/
import CrashMarker.Proofs.Commands
import CrashMarker.Proofs.Traces.Tells

namespace CrashMarker

/-!
`Tells` says what holds wherever a script ends, and nothing where it does not.  On a storage that answers
each call in one way there is at most one end, and `Completes` says that there is one: the rules are
those of `Tells`, except that a repetition has to be followed turn by turn.
-/

variable {σ : Type} [Storage σ] {α β : Type}

namespace Script

/-- The script comes to an end, and there `ends` holds of the actions taken, the result and the world. -/
def Completes (script : Script α) (world : World σ) (ends : List Taken → α → World σ → Prop) : Prop :=
  ∃ taken result after, script.Ends (Conduct.honest σ) world taken result after ∧
    ends taken result after

variable {world : World σ}

/-- A script that completes can be run within as many actions as it takes. -/
theorem Completes.run_eq {script : Script α} {ends : List Taken → α → World σ → Prop}
    (completes : script.Completes world ends) :
    ∃ taken result after, ends taken result after ∧
      ∀ more, script.run (taken.length + more) world = some (result, after) := by
  obtain ⟨taken, result, after, ended, holds⟩ := completes
  exact ⟨taken, result, after, holds, run_mono (run_of_ends ended)⟩

theorem Completes.mono {script : Script α} {ends weaker : List Taken → α → World σ → Prop}
    (completes : script.Completes world ends)
    (weaken : ∀ taken result after, ends taken result after → weaker taken result after) :
    script.Completes world weaker := by
  obtain ⟨taken, result, after, ended, holds⟩ := completes
  exact ⟨taken, result, after, ended, weaken _ _ _ holds⟩

theorem completes_done {result : α} {ends : List Taken → α → World σ → Prop}
    (holds : ends [] result world) : (done result).Completes world ends :=
  ⟨[], result, world, .here _ _, holds⟩

/-- The next action does what it does, and the rest of the script goes on from there. -/
theorem completes_of_head {script : Script α} {action : Action} {next : action.Answer → Script α}
    {ends : List Taken → α → World σ → Prop} (acting : script.head = .acting action next)
    (further : (next (action.perform world).1).Completes (action.perform world).2
      fun late => ends (⟨action, (action.perform world).1⟩ :: late)) :
    script.Completes world ends := by
  obtain ⟨taken, result, after, ended, holds⟩ := further
  exact ⟨_, result, after, .step acting ((Action.allowed_honest_iff _ _ _ _).2 rfl) ended, holds⟩

/-- A passage through a script is one through the start of a sequence. -/
theorem Passes.bind {conduct : Conduct σ} {script last : Script α} {after : World σ}
    {taken : List Taken} (passes : Passes conduct script world taken last after) (next : α → Script β) :
    Passes conduct (script.bind next) world taken (last.bind next) after := by
  induction passes with
  | here => exact .here _ _
  | step acting allowed _ inductionHypothesis =>
    exact .step (head_bind_of_acting acting next) allowed inductionHypothesis

/-- A sequence completes if the second part completes wherever the first has ended. -/
theorem completes_bind {script : Script α} {next : α → Script β}
    {ends : List Taken → β → World σ → Prop}
    (first : script.Completes world fun early result middle =>
      (next result).Completes middle fun late => ends (early ++ late)) :
    (script.bind next).Completes world ends := by
  obtain ⟨early, value, middle, one, late, result, after, two, holds⟩ := first
  exact ⟨early ++ late, result, after, (one.bind next).trans two, holds⟩

/-- A repetition takes one turn and then goes on or stops. -/
theorem completes_turn {τ γ : Type} {state : τ} {first : τ → Action}
    {turn : (state : τ) → (first state).Answer → Script (Turn τ γ)} {next : γ → Script α}
    {ends : List Taken → α → World σ → Prop}
    (turned : (act (first state) (turn state)).Completes world fun early decision middle =>
      match decision with
      | .again following =>
        (cycle following first turn next).Completes middle fun late => ends (early ++ late)
      | .stop result => (next result).Completes middle fun late => ends (early ++ late)) :
    (cycle state first turn next).Completes world ends := by
  obtain ⟨early, decision, middle, one, reached⟩ := turned
  cases one with
  | step acting allowed further =>
    cases acting
    cases decision with
    | again following =>
      obtain ⟨late, result, after, two, holds⟩ := reached
      exact ⟨_, result, after, .step rfl allowed ((further.bind _).trans two), holds⟩
    | stop value =>
      obtain ⟨late, result, after, two, holds⟩ := reached
      exact ⟨_, result, after, .step rfl allowed ((further.bind _).trans two), holds⟩

theorem completes_perform {action : Action} {ends : List Taken → action.Answer → World σ → Prop}
    (holds : ends [⟨action, (action.perform world).1⟩] (action.perform world).1
      (action.perform world).2) : (perform action).Completes world ends :=
  completes_of_head rfl (completes_done holds)

/-- A call completes with the answer that the storage has for it. -/
theorem completes_act_ask {request : Request} {next : request.Answer → Script α}
    {ends : List Taken → α → World σ → Prop} {answer : request.Answer} {storage : σ}
    (answered : Storage.answer request world.storage = (answer, storage))
    (further : (next answer).Completes { world with storage }
      fun late => ends (⟨.ask request, answer⟩ :: late)) :
    (act (.ask request) next).Completes world ends := by
  apply completes_of_head rfl
  simp only [Action.perform, answered]
  exact further

theorem completes_ask {request : Request} {ends : List Taken → request.Answer → World σ → Prop}
    {answer : request.Answer} {storage : σ}
    (answered : Storage.answer request world.storage = (answer, storage))
    (holds : ends [⟨.ask request, answer⟩] answer { world with storage }) :
    (ask request).Completes world ends :=
  completes_act_ask answered (completes_done holds)

end Script

/-! ## The rules of guarded parts -/

namespace Guarded

/-- The same for a part that runs under the mutex with the given lifecycle: `ends` also tells the
lifecycle that the part leaves behind. -/
def Completes (body : Guarded α) (lifecycle : Lifecycle) (world : World σ)
    (ends : List Taken → Except StoreError α → Lifecycle → World σ → Prop) : Prop :=
  Script.Completes (body.run.run lifecycle) world fun taken result after =>
    ends taken result.1 result.2 after

variable {lifecycle : Lifecycle} {world : World σ}

theorem Completes.mono {body : Guarded α}
    {ends weaker : List Taken → Except StoreError α → Lifecycle → World σ → Prop}
    (completes : body.Completes lifecycle world ends)
    (weaken : ∀ taken outcome left after, ends taken outcome left after →
      weaker taken outcome left after) : body.Completes lifecycle world weaker :=
  Script.Completes.mono completes fun taken result after => weaken taken result.1 result.2 after

theorem completes_pure {value : α}
    {ends : List Taken → Except StoreError α → Lifecycle → World σ → Prop}
    (holds : ends [] (.ok value) lifecycle world) :
    (pure value : Guarded α).Completes lifecycle world ends :=
  Script.completes_done holds

theorem completes_throw {error : StoreError}
    {ends : List Taken → Except StoreError α → Lifecycle → World σ → Prop}
    (holds : ends [] (.error error) lifecycle world) :
    (throw error : Guarded α).Completes lifecycle world ends :=
  Script.completes_done holds

/-- A guarded sequence completes with its first part where that fails, and with both otherwise. -/
theorem completes_bind {body : Guarded α} {next : α → Guarded β}
    {ends : List Taken → Except StoreError β → Lifecycle → World σ → Prop}
    (first : body.Completes lifecycle world fun early outcome left after =>
      match outcome with
      | .ok value => (next value).Completes left after fun late => ends (early ++ late)
      | .error error => ends early (.error error) left after) :
    (body >>= next).Completes lifecycle world ends := by
  apply Script.completes_bind
  apply Script.Completes.mono first
  rintro early ⟨outcome, left⟩ after reached
  cases outcome with
  | ok value => exact reached
  | error error =>
    apply Script.completes_done
    rw [List.append_nil]
    exact reached

theorem completes_get {ends : List Taken → Except StoreError Lifecycle → Lifecycle → World σ → Prop}
    (holds : ends [] (.ok lifecycle) lifecycle world) :
    (get : Guarded Lifecycle).Completes lifecycle world ends :=
  Script.completes_done holds

theorem completes_set {following : Lifecycle}
    {ends : List Taken → Except StoreError PUnit → Lifecycle → World σ → Prop}
    (holds : ends [] (.ok ⟨⟩) following world) :
    (set following : Guarded PUnit).Completes lifecycle world ends :=
  Script.completes_done holds

theorem completes_modify {change : Lifecycle → Lifecycle}
    {ends : List Taken → Except StoreError PUnit → Lifecycle → World σ → Prop}
    (holds : ends [] (.ok ⟨⟩) (change lifecycle) world) :
    (modify change : Guarded PUnit).Completes lifecycle world ends :=
  Script.completes_done holds

theorem completes_lift {step : Script α}
    {ends : List Taken → Except StoreError α → Lifecycle → World σ → Prop}
    (holds : step.Completes world fun taken value after => ends taken (.ok value) lifecycle after) :
    (lift step).Completes lifecycle world ends := by
  apply Script.completes_bind
  apply Script.completes_bind
  refine holds.mono fun taken value after reached => ?_
  apply Script.completes_done
  apply Script.completes_done
  rw [List.append_nil, List.append_nil]
  exact reached

theorem completes_perform {action : Action}
    {ends : List Taken → Except StoreError action.Answer → Lifecycle → World σ → Prop}
    (holds : ends [⟨action, (action.perform world).1⟩] (.ok (action.perform world).1) lifecycle
      (action.perform world).2) : (lift (Script.perform action)).Completes lifecycle world ends :=
  completes_lift (Script.completes_perform holds)

theorem completes_ask {request : Request}
    {ends : List Taken → Except StoreError request.Answer → Lifecycle → World σ → Prop}
    {answer : request.Answer} {storage : σ}
    (answered : Storage.answer request world.storage = (answer, storage))
    (holds : ends [⟨.ask request, answer⟩] (.ok answer) lifecycle { world with storage }) :
    (ask request).Completes lifecycle world ends :=
  completes_lift (Script.completes_ask answered holds)

/-- A call that goes well completes with its value. -/
theorem completes_call {request : Request}
    {ends : List Taken → Except StoreError request.Value → Lifecycle → World σ → Prop}
    {value : request.Value} {storage : σ}
    (answered : Storage.answer request world.storage = (.ok value, storage))
    (holds : ends [⟨.ask request, .ok value⟩] (.ok value) lifecycle { world with storage }) :
    (call request).Completes lifecycle world ends :=
  completes_bind (completes_ask answered (completes_pure holds))

/-- A step that may fail completes as it does, with the lifecycle as it was. -/
theorem completes_require {step : Script (Except StoreError α)}
    {ends : List Taken → Except StoreError α → Lifecycle → World σ → Prop}
    (holds : step.Completes world fun taken outcome after => ends taken outcome lifecycle after) :
    (require step).Completes lifecycle world ends := by
  apply completes_bind
  apply completes_lift
  apply holds.mono
  intro taken outcome after reached
  rw [← List.append_nil taken] at reached
  cases outcome with
  | ok value => exact completes_pure reached
  | error error => exact completes_throw reached

/-- An operation for a store that is not open is refused at once on one that is. -/
theorem completes_ensureNotOpen {operation : String}
    {ends : List Taken → Except StoreError Unit → Lifecycle → World σ → Prop}
    (refused : lifecycle.state = .opened →
      ends [] (.error (.alreadyOpen operation)) lifecycle world)
    (passed : lifecycle.state ≠ .opened → ends [] (.ok ()) lifecycle world) :
    (ensureNotOpen operation).Completes lifecycle world ends := by
  apply completes_bind
  apply completes_get
  by_cases opened : lifecycle.state = .opened
  · simp only [opened, if_true]
    exact completes_throw (refused opened)
  · simp only [opened, if_false]
    exact completes_pure (passed opened)

/-- A part that fails closes its handle after all that it has done. -/
theorem completes_closingOnFailure {handle : Handle} {body : Guarded α}
    {ends : List Taken → Except StoreError α → Lifecycle → World σ → Prop}
    (holds : body.Completes lifecycle world fun taken outcome left after =>
      match outcome with
      | .ok value => ends taken (.ok value) left after
      | .error error => ends (taken ++ [⟨.close handle, ()⟩]) (.error error) left
        { after with storage := Storage.close handle after.storage }) :
    (closingOnFailure handle body).Completes lifecycle world ends := by
  apply Script.completes_bind
  apply Script.Completes.mono holds
  rintro taken ⟨outcome, left⟩ after reached
  cases outcome with
  | ok value =>
    apply Script.completes_done
    rw [List.append_nil]
    exact reached
  | error error =>
    apply completes_bind
    apply completes_perform
    exact completes_throw reached

/-- The mutex is taken before all that a guarded part does, and given back after it. -/
theorem completes_script {body : Guarded α}
    {ends : List Taken → Except StoreError α → World σ → Prop}
    (holds : body.Completes world.lifecycle world fun taken outcome left after =>
      ends (⟨.acquire, world.lifecycle⟩ :: taken ++ [⟨.release left, ()⟩]) outcome
        { after with lifecycle := left }) : body.script.Completes world ends := by
  apply Script.completes_bind
  apply Script.completes_perform
  apply Script.completes_bind
  apply Script.Completes.mono holds
  rintro taken ⟨outcome, left⟩ after reached
  apply Script.completes_bind
  apply Script.completes_perform
  exact Script.completes_done reached

end Guarded

end CrashMarker
