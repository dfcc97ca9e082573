/-
Module: CrashMarker.Proofs.Confined
Purpose: Scripts that take permitted actions only, whatever answers they get.
Main exports: Script.Confined, Script.Passes.confined, Guarded.Confined, and one rule for each way in
  which a script is put together
-/
import CrashMarker.Store.Operation
import CrashMarker.Execution

namespace CrashMarker

/-!
Which actions a script may take can be read off its text.  Nothing has to be known about the world it
runs in, so these rules speak of scripts alone.
-/

variable {permitted : Action → Prop} {α β : Type}

namespace Script

/-- No answers lead the script to an action that is not permitted. -/
inductive Confined (permitted : Action → Prop) : {α : Type} → Script α → Prop where
  | done {α : Type} (result : α) : Confined permitted (.done result)
  | act {α : Type} {action : Action} {next : action.Answer → Script α} (first : permitted action)
      (further : ∀ answer, Confined permitted (next answer)) : Confined permitted (.act action next)
  | cycle {α β τ : Type} {state : τ} {first : τ → Action}
      {turn : (state : τ) → (first state).Answer → Script (Turn τ β)} {next : β → Script α}
      (begins : ∀ state, permitted (first state))
      (turns : ∀ state answer, Confined permitted (turn state answer))
      (further : ∀ result, Confined permitted (next result)) :
      Confined permitted (.cycle state first turn next)

/-- A sequence keeps to what both of its parts keep to. -/
theorem confined_bind {script : Script α} {next : α → Script β} (one : script.Confined permitted)
    (two : ∀ result, (next result).Confined permitted) : (script.bind next).Confined permitted := by
  induction one with
  | done result => exact two result
  | act first _ inductionHypothesis =>
    exact .act first fun answer => inductionHypothesis answer two
  | cycle begins turns _ _ inductionHypothesis =>
    exact .cycle begins turns fun result => inductionHypothesis result two

theorem confined_perform {action : Action} (first : permitted action) :
    (perform action).Confined permitted :=
  .act first fun answer => .done answer

theorem Confined.mono {wider : Action → Prop} {script : Script α} (confined : script.Confined permitted)
    (widen : ∀ action, permitted action → wider action) : script.Confined wider := by
  induction confined with
  | done result => exact .done result
  | act first _ inductionHypothesis => exact .act (widen _ first) inductionHypothesis
  | cycle begins _ _ turned inductionHypothesis =>
    exact .cycle (fun state => widen _ (begins state)) turned inductionHypothesis

/-- The next action is permitted, and what is left of the script is confined as well. -/
theorem Confined.of_head {script : Script α} {action : Action} {next : action.Answer → Script α}
    (confined : script.Confined permitted) (acting : script.head = .acting action next) :
    permitted action ∧ ∀ answer, (next answer).Confined permitted := by
  cases confined with
  | done => cases acting
  | act first further =>
    cases acting
    exact ⟨first, further⟩
  | cycle begins turns further =>
    cases acting
    refine ⟨begins _, fun answer => confined_bind (turns _ answer) fun decision => ?_⟩
    cases decision with
    | again following => exact .cycle begins turns further
    | stop result => exact further result

/-- Wherever a confined script gets to, it has taken permitted actions only. -/
theorem Passes.confined {σ : Type} [Storage σ] {conduct : Conduct σ} {script last : Script α}
    {world after : World σ} {taken : List Taken}
    (passes : Passes conduct script world taken last after) (confined : script.Confined permitted) :
    ∀ step ∈ taken, permitted step.action := by
  induction passes with
  | here => exact List.forall_mem_nil _
  | step acting _ _ inductionHypothesis =>
    obtain ⟨first, further⟩ := confined.of_head acting
    exact List.forall_mem_cons.2 ⟨first, inductionHypothesis (further _)⟩

end Script

/-! ## The rules of guarded parts -/

namespace Guarded

/-- The same for a part that runs under the mutex, whatever it finds there. -/
def Confined (permitted : Action → Prop) (body : Guarded α) : Prop :=
  ∀ lifecycle, Script.Confined permitted (body.run.run lifecycle)

theorem Confined.mono {wider : Action → Prop} {body : Guarded α} (confined : body.Confined permitted)
    (widen : ∀ action, permitted action → wider action) : body.Confined wider :=
  fun lifecycle => Script.Confined.mono (confined lifecycle) widen

theorem confined_pure (value : α) : Confined permitted (pure value : Guarded α) := fun _ => .done _

theorem confined_throw (error : StoreError) : Confined permitted (throw error : Guarded α) :=
  fun _ => .done _

theorem confined_modify (change : Lifecycle → Lifecycle) :
    Confined permitted (modify change : Guarded PUnit) := fun _ => .done _

theorem confined_get : Confined permitted (get : Guarded Lifecycle) := fun _ => .done _

theorem confined_set (lifecycle : Lifecycle) : Confined permitted (set lifecycle : Guarded PUnit) :=
  fun _ => .done _

/-- A guarded sequence keeps to what both of its parts keep to. -/
theorem confined_bind {body : Guarded α} {next : α → Guarded β} (one : body.Confined permitted)
    (two : ∀ value, (next value).Confined permitted) : (body >>= next).Confined permitted := by
  intro lifecycle
  refine Script.confined_bind (one lifecycle) fun ⟨outcome, left⟩ => ?_
  cases outcome with
  | ok value => exact two value left
  | error error => exact .done _

theorem confined_lift {step : Script α} (confined : step.Confined permitted) :
    (lift step).Confined permitted := fun _ =>
  Script.confined_bind (Script.confined_bind confined fun _ => .done _) fun _ => .done _

theorem confined_ask {request : Request} (first : permitted (.ask request)) :
    (ask request).Confined permitted :=
  confined_lift (Script.confined_perform first)

theorem confined_call {request : Request} (first : permitted (.ask request)) :
    (call request).Confined permitted := by
  refine confined_bind (confined_ask first) fun answer => ?_
  cases answer with
  | ok value => exact confined_pure value
  | error cause => exact confined_throw _

/-- A step that may fail keeps to what it keeps to without its failure. -/
theorem confined_require {step : Script (Except StoreError α)} (confined : step.Confined permitted) :
    (require step).Confined permitted := by
  refine confined_bind (confined_lift confined) fun outcome => ?_
  cases outcome with
  | ok value => exact confined_pure value
  | error error => exact confined_throw error

theorem confined_emit {event : Event} (first : permitted (.emit event)) :
    (emit event).Confined permitted :=
  confined_lift (Script.confined_perform first)

theorem confined_ensureNotOpen (operation : String) :
    (ensureNotOpen operation).Confined permitted := by
  refine confined_bind confined_get fun lifecycle => ?_
  split
  · exact confined_throw _
  · exact confined_pure _

/-- Closing the handle of a part that failed is the only action that is added. -/
theorem confined_closingOnFailure {handle : Handle} {body : Guarded α}
    (closing : permitted (.close handle)) (confined : body.Confined permitted) :
    (closingOnFailure handle body).Confined permitted := by
  intro lifecycle
  refine Script.confined_bind (confined lifecycle) fun ⟨outcome, left⟩ => ?_
  cases outcome with
  | ok value => exact .done _
  | error error =>
    have closed : (lift (Script.close handle)).Confined permitted :=
      confined_lift (Script.confined_perform closing)
    exact confined_bind closed (fun _ => confined_throw error) left

/-- Taking the mutex and giving it back are the only actions that are added. -/
theorem confined_script {body : Guarded α} (locking : permitted .acquire)
    (unlocking : ∀ lifecycle, permitted (.release lifecycle)) (confined : body.Confined permitted) :
    body.script.Confined permitted := by
  refine Script.confined_bind (Script.confined_perform locking) fun lifecycle => ?_
  refine Script.confined_bind (confined lifecycle) fun ⟨outcome, left⟩ => ?_
  exact Script.confined_bind (Script.confined_perform (unlocking left)) fun _ => .done _

end Guarded

end CrashMarker
