/-
Module: CrashMarker.Proofs.Upholds
Purpose: What holds of the storage all along a script, and of the result at its end.
Main exports:
  Script.Passes.of_bind, Script.Upholds, Guarded.Upholds, and one rule for each way in which a script
  is put together
-/
import CrashMarker.Execution
import CrashMarker.Store.Operation

namespace CrashMarker

/-!
An operation can be cut before any of its actions, and it can come to its end in many ways when the
conduct of its storage is not fixed.  `Upholds` speaks about both: what holds of the storage wherever
a script gets to, given that it holds at the start, and what holds of the result and the world where
the script ends.  The rules follow the constructors of scripts, and after them the layers of
`Guarded`, so that no proof about an operation looks at passages again.
-/

variable {σ : Type} [Storage σ] {conduct : Conduct σ} {α β : Type}

namespace Script

/-! ## Passages through a sequence -/

/-- The first action of a sequence is that of its first part, if there is one. -/
theorem head_bind_of_acting {script : Script α} {action : Action}
    {further : action.Answer → Script α} (acting : script.head = .acting action further)
    (next : α → Script β) :
    (script.bind next).head = .acting action fun answer => (further answer).bind next := by
  cases script with
  | done result => cases acting
  | act first rest =>
    cases acting
    rfl
  | cycle state first turn rest =>
    cases acting
    simp only [head, cycle_bind, bind_assoc]
    congr 1
    funext answer
    congr 1
    funext decision
    cases decision <;> rfl

theorem bind_eq_done {script : Script α} {next : α → Script β} {result : β}
    (finished : script.bind next = done result) :
    ∃ first, script = done first ∧ next first = done result := by
  cases script with
  | done first => exact ⟨first, rfl, finished⟩
  | act action rest => cases finished
  | cycle state first turn rest => cases finished

/-- A passage through one script and then another stops in the first, or it gets through the first
and goes on in the second. -/
theorem Passes.of_bind {script : Script α} {next : α → Script β} {last : Script β}
    {world after : World σ} {taken : List Taken}
    (passes : Passes conduct (script.bind next) world taken last after) :
    (∃ rest, Passes conduct script world taken rest after ∧ last = rest.bind next) ∨
      ∃ early late result middle, taken = early ++ late ∧
        script.Ends conduct world early result middle ∧
        Passes conduct (next result) middle late last after := by
  generalize same : script.bind next = whole at passes
  induction passes generalizing script with
  | here => exact Or.inl ⟨script, .here _ _, same.symm⟩
  | step acting allowed further inductionHypothesis =>
    cases look : script.head with
    | finished result =>
      have isDone := eq_done_of_head_finished look
      subst isDone
      subst same
      exact Or.inr ⟨[], _, result, _, rfl, .here _ _, .step acting allowed further⟩
    | acting action rest =>
      have unrolled := head_bind_of_acting look next
      rw [same, acting] at unrolled
      cases unrolled
      rcases inductionHypothesis rfl with ⟨stop, passes, ended⟩ | ⟨early, late, result, middle, cut,
        ends, onward⟩
      · exact Or.inl ⟨stop, .step look allowed passes, ended⟩
      · exact Or.inr ⟨_ :: early, late, result, middle, by rw [cut]; rfl,
          .step look allowed ends, onward⟩

/-- Where nothing has been done, nothing has changed. -/
theorem Passes.eq_of_nil {script last : Script α} {world after : World σ}
    (passes : Passes conduct script world [] last after) : last = script ∧ after = world := by
  generalize none : ([] : List Taken) = taken at passes
  cases passes with
  | here => exact ⟨rfl, rfl⟩
  | step => cases none

/-- A passage on a conduct is one on every conduct that allows more. -/
theorem Passes.mono {other : Conduct σ}
    (more : ∀ request before answer after,
      conduct request before answer after → other request before answer after)
    {script last : Script α} {world after : World σ} {taken : List Taken}
    (passes : Passes conduct script world taken last after) :
    Passes other script world taken last after := by
  induction passes with
  | here => exact .here _ _
  | @step _ _ action _ _ _ _ _ _ acting allowed _ inductionHypothesis =>
    refine .step acting ?_ inductionHypothesis
    cases action with
    | ask request =>
      obtain ⟨storage, answered, same⟩ := allowed
      exact ⟨storage, more _ _ _ _ answered, same⟩
    | _ => exact allowed

/-! ## The rules of scripts -/

/-- Given that `always` holds of the storage at the start, it holds wherever the script gets to, and
`ends` holds of the result and the world where the script ends. -/
def Upholds (conduct : Conduct σ) (always : σ → Prop) (script : Script α) (world : World σ)
    (ends : α → World σ → Prop) : Prop :=
  always world.storage →
    ∀ {taken : List Taken} {last : Script α} {after : World σ},
      Passes conduct script world taken last after →
        always after.storage ∧ ∀ result, last = done result → ends result after

variable {always : σ → Prop} {world : World σ}

/-- What a script upholds holds wherever it ends. -/
theorem Upholds.of_ends {script : Script α} {ends : α → World σ → Prop}
    (upholds : script.Upholds conduct always world ends) (start : always world.storage)
    {taken : List Taken} {result : α} {after : World σ}
    (ended : script.Ends conduct world taken result after) : ends result after :=
  (upholds start ended).2 result rfl

/-- What holds at the end may be weakened, and there `always` holds as well. -/
theorem Upholds.mono {script : Script α} {ends weaker : α → World σ → Prop}
    (upholds : script.Upholds conduct always world ends)
    (weaken : ∀ result after, always after.storage → ends result after → weaker result after) :
    script.Upholds conduct always world weaker := by
  intro start taken last after passes
  have reached := upholds start passes
  exact ⟨reached.1, fun result finished => weaken _ _ reached.1 (reached.2 result finished)⟩

/-- What holds all along may be weakened if it holds at the start. -/
theorem Upholds.widen {script : Script α} {wider : σ → Prop} {ends : α → World σ → Prop}
    (upholds : script.Upholds conduct always world ends) (start : always world.storage)
    (wide : ∀ storage, always storage → wider storage) :
    script.Upholds conduct wider world ends := by
  intro _ taken last after passes
  have reached := upholds start passes
  exact ⟨wide _ reached.1, reached.2⟩

/-- That `always` holds at the start may be used for all that follows. -/
theorem upholds_of_start {script : Script α} {ends : α → World σ → Prop}
    (upholds : always world.storage → script.Upholds conduct always world ends) :
    script.Upholds conduct always world ends :=
  fun start => upholds start start

theorem upholds_done {result : α} {ends : α → World σ → Prop} (holds : ends result world) :
    (done result).Upholds conduct always world ends := by
  intro start taken last after passes
  cases passes with
  | here =>
    refine ⟨start, fun other same => ?_⟩
    cases same
    exact holds
  | step acting => cases acting

/-- An action has to uphold the invariant with every answer that it may get. -/
theorem upholds_act {action : Action} {next : action.Answer → Script α} {ends : α → World σ → Prop}
    (further : ∀ answer middle, action.Allowed conduct world answer middle →
      always middle.storage ∧ (next answer).Upholds conduct always middle ends) :
    (act action next).Upholds conduct always world ends := by
  intro start taken last after passes
  cases passes with
  | here => exact ⟨start, fun result impossible => nomatch impossible⟩
  | step acting allowed rest =>
    cases acting
    obtain ⟨kept, onward⟩ := further _ _ allowed
    exact onward kept rest

/-- A sequence upholds the invariant if its second part does, wherever the first has ended. -/
theorem upholds_bind {script : Script α} {next : α → Script β} {ends : β → World σ → Prop}
    (first : script.Upholds conduct always world fun result middle =>
      (next result).Upholds conduct always middle ends) :
    (script.bind next).Upholds conduct always world ends := by
  intro start taken last after passes
  rcases passes.of_bind with ⟨rest, within, stopped⟩ | ⟨early, late, result, middle, -, ended, onward⟩
  · have reached := first start within
    refine ⟨reached.1, fun result finished => ?_⟩
    obtain ⟨value, isDone, last⟩ := bind_eq_done (stopped.symm.trans finished)
    have closing := reached.2 value isDone reached.1 (.here _ _)
    exact closing.2 result last
  · have reached := first start ended
    exact reached.2 result rfl reached.1 onward

/-- An invariant that every turn hands on to the next carries through a repetition. -/
theorem upholds_cycle {τ γ : Type} {state : τ} {first : τ → Action}
    {turn : (state : τ) → (first state).Answer → Script (Turn τ γ)} {next : γ → Script α}
    {ends : α → World σ → Prop} (invariant : τ → World σ → Prop) (begins : invariant state world)
    (turns : ∀ state world, invariant state world →
      (act (first state) (turn state)).Upholds conduct always world fun decision after =>
        match decision with
        | .again following => invariant following after
        | .stop result => (next result).Upholds conduct always after ends) :
    (cycle state first turn next).Upholds conduct always world ends := by
  intro start taken last after passes
  -- The passage is taken apart turn by turn, so the induction is on its length.
  induction length : taken.length using Nat.strongRecOn generalizing state world taken with
  | ind count inductionHypothesis =>
    cases passes with
    | here => exact ⟨start, fun result impossible => nomatch impossible⟩
    | @step _ _ _ _ _ _ _ answer taken acting allowed further =>
      cases acting
      rcases further.of_bind with ⟨rest, within, stopped⟩ | ⟨early, late, decision, middle, cut,
        ended, onward⟩
      · have reached := turns state world begins start (.step rfl allowed within)
        refine ⟨reached.1, fun result finished => ?_⟩
        obtain ⟨decision, isDone, last⟩ := bind_eq_done (stopped.symm.trans finished)
        cases decision with
        | again following => cases last
        | stop value => exact (reached.2 _ isDone reached.1 (.here _ _)).2 result last
      · have reached := turns state world begins start (.step rfl allowed ended)
        cases decision with
        | again following =>
          have shorter : late.length < count := by
            rw [← length, List.length_cons, cut, List.length_append]
            omega
          exact inductionHypothesis late.length shorter (reached.2 _ rfl) reached.1 onward rfl
        | stop value => exact reached.2 _ rfl reached.1 onward

theorem upholds_perform {action : Action} {ends : action.Answer → World σ → Prop}
    (holds : ∀ answer after, action.Allowed conduct world answer after →
      always after.storage ∧ ends answer after) :
    (perform action).Upholds conduct always world ends :=
  upholds_act fun answer after allowed =>
    (holds answer after allowed).imp id upholds_done

/-- A call has to leave a storage for which the invariant holds. -/
theorem upholds_ask {request : Request} {ends : request.Answer → World σ → Prop}
    (holds : ∀ answer storage, conduct request world.storage answer storage →
      always storage ∧ ends answer { world with storage }) :
    (ask request).Upholds conduct always world ends := by
  apply upholds_perform
  rintro answer after ⟨storage, answered, rfl⟩
  exact holds answer storage answered

/-- Closing a handle has to keep the invariant. -/
theorem upholds_close {handle : Handle} {ends : Unit → World σ → Prop}
    (kept : always world.storage → always (Storage.close handle world.storage))
    (holds : ends () { world with storage := Storage.close handle world.storage }) :
    (close handle).Upholds conduct always world ends := by
  intro start
  refine upholds_perform ?_ start
  rintro answer after allowed
  cases allowed
  exact ⟨kept start, holds⟩

/-- An action that does not concern the storage does only what it is for. -/
theorem upholds_private {action : Action} {ends : action.Answer → World σ → Prop}
    (fixed : ∀ answer after, action.Allowed conduct world answer after →
      action.perform world = (answer, after))
    (kept : (action.perform world).2.storage = world.storage)
    (holds : ends (action.perform world).1 (action.perform world).2) :
    (perform action).Upholds conduct always world ends := by
  intro start
  refine upholds_perform ?_ start
  intro answer after allowed
  have performed := fixed answer after allowed
  rw [performed] at kept holds
  exact ⟨kept ▸ start, holds⟩

theorem upholds_emit {event : Event} {ends : Unit → World σ → Prop}
    (holds : ends () { world with events := world.events ++ [event] }) :
    (emit event).Upholds conduct always world ends :=
  upholds_private (fun _ _ allowed => allowed) rfl holds

theorem upholds_load {flag : Flag} {ends : Bool → World σ → Prop}
    (holds : ends (world.cached.get flag) world) :
    (perform (.load flag)).Upholds conduct always world ends :=
  upholds_private (fun _ _ allowed => allowed) rfl holds

theorem upholds_store {flag : Flag} {value : Bool} {ends : Unit → World σ → Prop}
    (holds : ends () { world with cached := world.cached.set flag value }) :
    (perform (.store flag value)).Upholds conduct always world ends :=
  upholds_private (fun _ _ allowed => allowed) rfl holds

theorem upholds_acquire {ends : Lifecycle → World σ → Prop} (holds : ends world.lifecycle world) :
    (perform .acquire).Upholds conduct always world ends :=
  upholds_private (fun _ _ allowed => allowed) rfl holds

theorem upholds_release {lifecycle : Lifecycle} {ends : Unit → World σ → Prop}
    (holds : ends () { world with lifecycle }) :
    (perform (.release lifecycle)).Upholds conduct always world ends :=
  upholds_private (fun _ _ allowed => allowed) rfl holds

end Script

/-! ## The rules of guarded parts -/

namespace Guarded

/-- The same for a part that runs under the mutex with the given lifecycle: `ends` also tells the
lifecycle that the part leaves behind. -/
def Upholds (conduct : Conduct σ) (always : σ → Prop) (body : Guarded α) (lifecycle : Lifecycle)
    (world : World σ) (ends : Except StoreError α → Lifecycle → World σ → Prop) : Prop :=
  Script.Upholds conduct always (body.run.run lifecycle) world fun result after =>
    ends result.1 result.2 after

variable {always : σ → Prop} {lifecycle : Lifecycle} {world : World σ}

theorem Upholds.mono {body : Guarded α}
    {ends weaker : Except StoreError α → Lifecycle → World σ → Prop}
    (upholds : body.Upholds conduct always lifecycle world ends)
    (weaken : ∀ outcome left after, always after.storage → ends outcome left after →
      weaker outcome left after) :
    body.Upholds conduct always lifecycle world weaker :=
  Script.Upholds.mono upholds fun result after => weaken result.1 result.2 after

/-- An invariant may be widened, if it holds at the start. -/
theorem Upholds.widen {body : Guarded α} {wider : σ → Prop}
    {ends : Except StoreError α → Lifecycle → World σ → Prop}
    (upholds : body.Upholds conduct always lifecycle world ends) (start : always world.storage)
    (wide : ∀ storage, always storage → wider storage) :
    body.Upholds conduct wider lifecycle world ends :=
  Script.Upholds.widen upholds start wide

/-- The invariant may be used from the start on. -/
theorem upholds_of_start {body : Guarded α}
    {ends : Except StoreError α → Lifecycle → World σ → Prop}
    (upholds : always world.storage → body.Upholds conduct always lifecycle world ends) :
    body.Upholds conduct always lifecycle world ends :=
  fun start => upholds start start

theorem upholds_pure {value : α} {ends : Except StoreError α → Lifecycle → World σ → Prop}
    (holds : ends (.ok value) lifecycle world) :
    (pure value : Guarded α).Upholds conduct always lifecycle world ends :=
  Script.upholds_done holds

theorem upholds_throw {error : StoreError}
    {ends : Except StoreError α → Lifecycle → World σ → Prop}
    (holds : ends (.error error) lifecycle world) :
    (throw error : Guarded α).Upholds conduct always lifecycle world ends :=
  Script.upholds_done holds

/-- A guarded sequence upholds the invariant with its first part where that fails, and with both
otherwise. -/
theorem upholds_bind {body : Guarded α} {next : α → Guarded β}
    {ends : Except StoreError β → Lifecycle → World σ → Prop}
    (first : body.Upholds conduct always lifecycle world fun outcome left after =>
      match outcome with
      | .ok value => (next value).Upholds conduct always left after ends
      | .error error => ends (.error error) left after) :
    (body >>= next).Upholds conduct always lifecycle world ends := by
  apply Script.upholds_bind
  apply Script.Upholds.mono first
  rintro ⟨outcome, left⟩ after kept reached
  cases outcome with
  | ok value => exact reached
  | error error => exact Script.upholds_done reached

theorem upholds_get {ends : Except StoreError Lifecycle → Lifecycle → World σ → Prop}
    (holds : ends (.ok lifecycle) lifecycle world) :
    (get : Guarded Lifecycle).Upholds conduct always lifecycle world ends :=
  Script.upholds_done holds

theorem upholds_set {following : Lifecycle}
    {ends : Except StoreError PUnit → Lifecycle → World σ → Prop}
    (holds : ends (.ok ⟨⟩) following world) :
    (set following : Guarded PUnit).Upholds conduct always lifecycle world ends :=
  Script.upholds_done holds

theorem upholds_modify {change : Lifecycle → Lifecycle}
    {ends : Except StoreError PUnit → Lifecycle → World σ → Prop}
    (holds : ends (.ok ⟨⟩) (change lifecycle) world) :
    (modify change : Guarded PUnit).Upholds conduct always lifecycle world ends :=
  Script.upholds_done holds

theorem upholds_lift {step : Script α} {ends : Except StoreError α → Lifecycle → World σ → Prop}
    (holds : step.Upholds conduct always world fun value after => ends (.ok value) lifecycle after) :
    (lift step).Upholds conduct always lifecycle world ends := by
  apply Script.upholds_bind
  apply Script.upholds_bind
  refine holds.mono fun value after _ reached => ?_
  exact Script.upholds_done (Script.upholds_done reached)

theorem upholds_ask {request : Request}
    {ends : Except StoreError request.Answer → Lifecycle → World σ → Prop}
    (holds : ∀ answer storage, conduct request world.storage answer storage →
      always storage ∧ ends (.ok answer) lifecycle { world with storage }) :
    (ask request).Upholds conduct always lifecycle world ends :=
  upholds_lift (Script.upholds_ask holds)

/-- A call that has to succeed turns the error of its storage into one of the store. -/
theorem upholds_call {request : Request}
    {ends : Except StoreError request.Value → Lifecycle → World σ → Prop}
    (holds : ∀ answer storage, conduct request world.storage answer storage →
      always storage ∧ ends (answer.mapError .storage) lifecycle { world with storage }) :
    (call request).Upholds conduct always lifecycle world ends := by
  apply upholds_bind
  apply upholds_ask
  intro answer storage answered
  obtain ⟨kept, reached⟩ := holds answer storage answered
  refine ⟨kept, ?_⟩
  cases answer with
  | ok value => exact upholds_pure reached
  | error cause => exact upholds_throw reached

/-- A step that may fail ends the part as it fails. -/
theorem upholds_require {step : Script (Except StoreError α)}
    {ends : Except StoreError α → Lifecycle → World σ → Prop}
    (holds : step.Upholds conduct always world fun outcome after => ends outcome lifecycle after) :
    (require step).Upholds conduct always lifecycle world ends := by
  apply upholds_bind
  apply upholds_lift
  apply holds.mono
  intro outcome after _ reached
  cases outcome with
  | ok value => exact upholds_pure reached
  | error error => exact upholds_throw reached

theorem upholds_emit {event : Event}
    {ends : Except StoreError Unit → Lifecycle → World σ → Prop}
    (holds : ends (.ok ()) lifecycle { world with events := world.events ++ [event] }) :
    (emit event).Upholds conduct always lifecycle world ends :=
  upholds_lift (Script.upholds_emit holds)

/-- An operation for a store that is not open is either refused or passed on, and nothing has happened
yet. -/
theorem upholds_ensureNotOpen {operation : String}
    {ends : Except StoreError Unit → Lifecycle → World σ → Prop}
    (refused : lifecycle.state = .opened →
      ends (.error (.alreadyOpen operation)) lifecycle world)
    (passed : lifecycle.state ≠ .opened → ends (.ok ()) lifecycle world) :
    (ensureNotOpen operation).Upholds conduct always lifecycle world ends := by
  apply upholds_bind
  apply upholds_get
  by_cases opened : lifecycle.state = .opened
  · simp only [opened, if_true]
    exact upholds_throw (refused opened)
  · simp only [opened, if_false]
    exact upholds_pure (passed opened)

/-- A part that fails leaves its handle closed. -/
theorem upholds_closing {handle : Handle} {body : Guarded α}
    {ends : Except StoreError α → Lifecycle → World σ → Prop}
    (holds : body.Upholds conduct always lifecycle world fun outcome left after =>
      match outcome with
      | .ok value => ends (.ok value) left after
      | .error error => always (Storage.close handle after.storage) ∧
        ends (.error error) left { after with storage := Storage.close handle after.storage }) :
    (closingOnFailure handle body).Upholds conduct always lifecycle world ends := by
  apply Script.upholds_bind
  apply Script.Upholds.mono holds
  rintro ⟨outcome, left⟩ after _ reached
  cases outcome with
  | ok value => exact Script.upholds_done reached
  | error error =>
    apply upholds_bind
    apply upholds_lift
    apply Script.upholds_close (fun _ => reached.1)
    exact upholds_throw reached.2

/-- Where closing a handle harms nothing, it need not be looked at. -/
theorem upholds_closingOnFailure {handle : Handle} {body : Guarded α}
    {ends : Except StoreError α → Lifecycle → World σ → Prop}
    (kept : ∀ storage, always storage → always (Storage.close handle storage))
    (holds : body.Upholds conduct always lifecycle world fun outcome left after =>
      match outcome with
      | .ok value => ends (.ok value) left after
      | .error error =>
        ends (.error error) left { after with storage := Storage.close handle after.storage }) :
    (closingOnFailure handle body).Upholds conduct always lifecycle world ends := by
  apply upholds_closing
  apply holds.mono
  intro outcome left after fine reached
  cases outcome with
  | ok value => exact reached
  | error error => exact ⟨kept _ fine, reached⟩

/-- The mutex hands the lifecycle to the guarded part and takes it back. -/
theorem upholds_script {body : Guarded α} {ends : Except StoreError α → World σ → Prop}
    (holds : body.Upholds conduct always world.lifecycle world fun outcome left after =>
      ends outcome { after with lifecycle := left }) :
    body.script.Upholds conduct always world ends := by
  apply Script.upholds_bind
  apply Script.upholds_acquire
  apply Script.upholds_bind
  apply Script.Upholds.mono holds
  rintro ⟨outcome, left⟩ after _ reached
  apply Script.upholds_bind
  apply Script.upholds_release
  exact Script.upholds_done reached

end Guarded

end CrashMarker
