/-
Module: CrashMarker.Execution
Purpose: What a script may come to on a storage whose conduct is not fixed.
Main exports: Conduct, Conduct.honest, Taken, Script.Passes, Script.Ends, Script.ends_of_run,
  Script.run_of_ends
-/
import CrashMarker.Script

namespace CrashMarker

/-!
Running a script needs a storage that answers in one way.  Here a storage may answer in several: a
conduct relates a call and the state it finds to every answer it may get and every state it may
leave.  A script passes from one point to another through the actions taken between them, so that
stopping anywhere is a passage too.  On the conduct that answers as the storage does, the passages
to an end are the runs.
-/

/-- The ways in which a storage may answer calls. -/
def Conduct (σ : Type) : Type := (request : Request) → σ → request.Answer → σ → Prop

/-- Answering as the storage does. -/
def Conduct.honest (σ : Type) [Storage σ] : Conduct σ := fun request before answer after =>
  Storage.answer request before = (answer, after)

/-- An action together with what it yielded. -/
structure Taken where
  action : Action
  answer : action.Answer

variable {σ : Type} [Storage σ]

/-- Whether an action may have an effect.  Only calls on the storage leave a choice. -/
def Action.Allowed (conduct : Conduct σ) (world : World σ) :
    (action : Action) → action.Answer → World σ → Prop
  | .ask request, answer, after =>
    ∃ storage, conduct request world.storage answer storage ∧ after = { world with storage }
  | action, answer, after => action.perform world = (answer, after)

/-- On the storage itself an action has the one effect that it has when nothing comes between. -/
theorem Action.allowed_honest_iff (world : World σ) (action : Action) (answer : action.Answer)
    (after : World σ) :
    action.Allowed (Conduct.honest σ) world answer after ↔
      action.perform world = (answer, after) := by
  cases action with
  | ask request =>
    constructor
    · rintro ⟨storage, answered, rfl⟩
      unfold Conduct.honest at answered
      simp [Action.perform, answered]
    · intro performed
      cases performed
      exact ⟨_, rfl, rfl⟩
  | _ => exact Iff.rfl

namespace Script

variable {α : Type}

/-- A script may get from one point to another by taking the listed actions. -/
inductive Passes (conduct : Conduct σ) :
    Script α → World σ → List Taken → Script α → World σ → Prop where
  /-- Nothing has happened yet. -/
  | here (script : Script α) (world : World σ) : Passes conduct script world [] script world
  /-- The next action is taken, and then the others. -/
  | step {script last : Script α} {action : Action} {next : action.Answer → Script α}
      {world middle after : World σ} {answer : action.Answer} {taken : List Taken}
      (acting : script.head = .acting action next)
      (allowed : action.Allowed conduct world answer middle)
      (further : Passes conduct (next answer) middle taken last after) :
      Passes conduct script world (⟨action, answer⟩ :: taken) last after

/-- A script may end with a result after taking the listed actions. -/
def Ends (conduct : Conduct σ) (script : Script α) (world : World σ) (taken : List Taken)
    (result : α) (after : World σ) : Prop :=
  Passes conduct script world taken (done result) after

/-- Passages follow one another, and so do the actions taken. -/
theorem Passes.trans {conduct : Conduct σ} {first second third : Script α}
    {before middle after : World σ} {early late : List Taken}
    (one : Passes conduct first before early second middle)
    (two : Passes conduct second middle late third after) :
    Passes conduct first before (early ++ late) third after := by
  induction one with
  | here => exact two
  | step acting allowed _ inductionHypothesis =>
    exact .step acting allowed (inductionHypothesis two)

/-- A script has only one way of being finished. -/
theorem eq_done_of_head_finished {script : Script α} {result : α}
    (finished : script.head = .finished result) : script = done result := by
  cases script with
  | done _ =>
    injection finished with same
    rw [same]
  | act _ _ => cases finished
  | cycle _ _ _ _ => cases finished

/-- A run that ends is a passage on the honest conduct. -/
theorem ends_of_run {budget : Nat} {script : Script α} {world after : World σ} {result : α}
    (ran : script.run budget world = some (result, after)) :
    ∃ taken, script.Ends (Conduct.honest σ) world taken result after := by
  induction budget generalizing script world with
  | zero =>
    rw [run] at ran
    split at ran
    next value finished =>
      cases ran
      rw [eq_done_of_head_finished finished]
      exact ⟨[], .here _ _⟩
    next => cases ran
  | succ budget inductionHypothesis =>
    rw [run] at ran
    split at ran
    next value finished =>
      cases ran
      rw [eq_done_of_head_finished finished]
      exact ⟨[], .here _ _⟩
    next action next acting =>
      obtain ⟨taken, passes⟩ := inductionHypothesis ran
      exact ⟨_, .step acting ((Action.allowed_honest_iff _ _ _ _).2 rfl) passes⟩

/-- A passage to an end on the honest conduct is a run within as many actions as it takes. -/
theorem run_of_ends {script : Script α} {world after : World σ} {result : α} {taken : List Taken}
    (ends : script.Ends (Conduct.honest σ) world taken result after) :
    script.run taken.length world = some (result, after) := by
  unfold Ends at ends
  generalize finish : (done result : Script α) = last at ends
  induction ends with
  | here => rw [← finish, run_done]
  | step acting allowed _ inductionHypothesis =>
    have performed := (Action.allowed_honest_iff _ _ _ _).1 allowed
    rw [List.length_cons, run_succ_of_head_acting acting, performed]
    exact inductionHypothesis finish

end Script

end CrashMarker
