/-
Module: CrashMarker.Proofs.Renaming.Alike
Purpose: What a script does on handles that go by other tokens.
Main exports:
  Action.renamed, Script.Alike, Script.Alike.run, Guarded.Alike, and one rule for each way in which a
  script is put together
-/
import CrashMarker.Execution
import CrashMarker.Store.Operation
import Mathlib.Data.Option.Basic

namespace CrashMarker

/-!
A token for an open file says nothing but which open file is meant.  Two scripts are alike under a
renaming of tokens if they take the same actions up to the renaming, whatever answers they get, and come
to the same result up to a translation.  Run on two storages that answer alike, they stay in step.
-/

/-! ## Renaming tokens -/

section Renamed

variable (rename : Handle → Handle)

def Lifecycle.renamed (lifecycle : Lifecycle) : Lifecycle :=
  { lifecycle with handle := lifecycle.handle.map rename }

def Request.renamed : Request → Request
  | .present path => .present path
  | .createNew path => .createNew path
  | .remove path => .remove path
  | .openFile path => .openFile path
  | .readAt handle offset count => .readAt (rename handle) offset count
  | .writeAt handle offset bytes => .writeAt (rename handle) offset bytes
  | .size handle => .size (rename handle)
  | .sync handle => .sync (rename handle)
  | .tryLock handle => .tryLock (rename handle)
  | .unlock handle => .unlock (rename handle)

def Request.valueRenamed : (request : Request) → request.Value → (request.renamed rename).Value
  | .present _, found => found
  | .createNew _, made => made
  | .remove _, removed => removed
  | .openFile _, handle => rename handle
  | .readAt _ _ _, bytes => bytes
  | .writeAt _ _ _, moved => moved
  | .size _, bytes => bytes
  | .sync _, synced => synced
  | .tryLock _, taken => taken
  | .unlock _, given => given

def Request.answerRenamed (request : Request) (answer : request.Answer) :
    (request.renamed rename).Answer := answer.map (request.valueRenamed rename)

def Action.renamed : Action → Action
  | .ask request => .ask (request.renamed rename)
  | .close handle => .close (rename handle)
  | .emit event => .emit event
  | .load flag => .load flag
  | .store flag value => .store flag value
  | .acquire => .acquire
  | .release lifecycle => .release (lifecycle.renamed rename)

def Action.answerRenamed : (action : Action) → action.Answer → (action.renamed rename).Answer
  | .ask request, answer => request.answerRenamed rename answer
  | .close _, closed => closed
  | .emit _, reported => reported
  | .load _, value => value
  | .store _ _, changed => changed
  | .acquire, lifecycle => lifecycle.renamed rename
  | .release _, released => released

end Renamed

variable {rename : Handle → Handle} {α β γ δ : Type} {translate : α → β} {further : γ → δ}

namespace Script

/-- The second script takes the renamed actions of the first, whatever answers both get, and comes to
the translated result. -/
inductive Alike (rename : Handle → Handle) : {α β : Type} → (α → β) → Script α → Script β → Prop where
  | done {α β : Type} {translate : α → β} (result : α) :
      Alike rename translate (.done result) (.done (translate result))
  | act {α β : Type} {translate : α → β} {action : Action} {next : action.Answer → Script α}
      {other : (action.renamed rename).Answer → Script β}
      (onward : ∀ answer, Alike rename translate (next answer)
        (other (action.answerRenamed rename answer))) :
      Alike rename translate (.act action next) (.act (action.renamed rename) other)
  | cycle {α β τ κ : Type} {translate : α → β} {state : τ} {first : τ → Action}
      {turn : (state : τ) → (first state).Answer → Script (Turn τ κ)} {next : κ → Script α}
      {turned : (state : τ) → ((first state).renamed rename).Answer → Script (Turn τ κ)}
      {other : κ → Script β}
      (turns : ∀ state answer, Alike rename id (turn state answer)
        (turned state ((first state).answerRenamed rename answer)))
      (onward : ∀ result, Alike rename translate (next result) (other result)) :
      Alike rename translate (.cycle state first turn next)
        (.cycle state (fun state => (first state).renamed rename) turned other)

/-- Sequences of scripts that are alike are alike. -/
theorem alike_bind {script : Script α} {other : Script β} {next : α → Script γ}
    {renamed : β → Script δ} (one : Alike rename translate script other)
    (two : ∀ result, Alike rename further (next result) (renamed (translate result))) :
    Alike rename further (script.bind next) (other.bind renamed) := by
  induction one with
  | done result => exact two result
  | act _ inductionHypothesis => exact .act fun answer => inductionHypothesis answer two
  | cycle turns _ _ inductionHypothesis =>
    exact .cycle turns fun result => inductionHypothesis result two

theorem alike_perform (action : Action) :
    Alike rename (action.answerRenamed rename) (perform action) (perform (action.renamed rename)) :=
  .act fun answer => .done answer

/-- Both scripts are at their end, or both take their next action and stay alike. -/
theorem Alike.of_head {script : Script α} {other : Script β}
    (alike : Alike rename translate script other) :
    (∃ result, script.head = .finished result ∧ other.head = .finished (translate result)) ∨
      ∃ action next renamed, script.head = .acting action next ∧
        other.head = .acting (action.renamed rename) renamed ∧
        ∀ answer, Alike rename translate (next answer)
          (renamed (action.answerRenamed rename answer)) := by
  cases alike with
  | done result => exact Or.inl ⟨result, rfl, rfl⟩
  | act onward => exact Or.inr ⟨_, _, _, rfl, rfl, onward⟩
  | cycle turns onward =>
    refine Or.inr ⟨_, _, _, rfl, rfl, fun answer => alike_bind (turns _ answer) fun decision => ?_⟩
    cases decision with
    | again following => exact .cycle turns onward
    | stop result => exact onward result

end Script

/-! ## Storages that answer alike -/

section Storages

variable {σ τ : Type} [Storage σ] [Storage τ]

/-- Two storages in related states answer alike and stay related. -/
structure AnswersAlike (rename : Handle → Handle) (related : σ → τ → Prop) : Prop where
  answers : ∀ (request : Request) {storage other}, related storage other →
    (Storage.answer (request.renamed rename) other).1 =
        request.answerRenamed rename (Storage.answer request storage).1 ∧
      related (Storage.answer request storage).2 (Storage.answer (request.renamed rename) other).2
  closes : ∀ (handle : Handle) {storage other}, related storage other →
    related (Storage.close handle storage) (Storage.close (rename handle) other)

/-- Two worlds that differ in their tokens only. -/
structure World.Alike (rename : Handle → Handle) (related : σ → τ → Prop) (world : World σ)
    (other : World τ) : Prop where
  storage : related world.storage other.storage
  cached : other.cached = world.cached
  lifecycle : other.lifecycle = world.lifecycle.renamed rename
  events : other.events = world.events

variable {related : σ → τ → Prop} {world : World σ} {other : World τ}

/-- Alike actions on worlds that are alike yield answers that are alike. -/
theorem AnswersAlike.action (alike : AnswersAlike rename related)
    (worlds : World.Alike rename related world other) (action : Action) :
    ((action.renamed rename).perform other).1 = action.answerRenamed rename (action.perform world).1 ∧
      World.Alike rename related (action.perform world).2 ((action.renamed rename).perform other).2 := by
  obtain ⟨storage, cached, lifecycle, events⟩ := worlds
  cases action with
  | ask request =>
    obtain ⟨same, kept⟩ := alike.answers request storage
    exact ⟨same, kept, cached, lifecycle, events⟩
  | close handle => exact ⟨rfl, alike.closes handle storage, cached, lifecycle, events⟩
  | emit event => exact ⟨rfl, storage, cached, lifecycle, congrArg (· ++ [event]) events⟩
  | load flag => exact ⟨congrArg (·.get flag) cached, storage, cached, lifecycle, events⟩
  | store flag value => exact ⟨rfl, storage, congrArg (·.set flag value) cached, lifecycle, events⟩
  | acquire => exact ⟨lifecycle, storage, cached, lifecycle, events⟩
  | release left => exact ⟨rfl, storage, cached, rfl, events⟩

/-- Scripts that are alike end together, and so do their worlds. -/
theorem Script.Alike.run {script : Script α} {twin : Script β}
    (alike : Script.Alike rename translate script twin) (storages : AnswersAlike rename related)
    (worlds : World.Alike rename related world other) (budget : Nat) :
    Option.Rel (fun one two => two.1 = translate one.1 ∧ World.Alike rename related one.2 two.2)
      (script.run budget world) (twin.run budget other) := by
  induction budget generalizing script twin world other with
  | zero =>
    rw [run, run]
    rcases alike.of_head with ⟨result, one, two⟩ | ⟨action, next, renamed, one, two, -⟩
    · rw [one, two]
      exact .some ⟨rfl, worlds⟩
    · rw [one, two]
      exact .none
  | succ budget inductionHypothesis =>
    rcases alike.of_head with ⟨result, one, two⟩ | ⟨action, next, renamed, one, two, onward⟩
    · rw [run, run, one, two]
      exact .some ⟨rfl, worlds⟩
    · rw [run_succ_of_head_acting one, run_succ_of_head_acting two]
      obtain ⟨same, kept⟩ := storages.action worlds action
      rw [same]
      exact inductionHypothesis (onward _) kept

end Storages

/-! ## The rules of guarded parts -/

namespace Guarded

/-- The same for parts that run under the mutex, the second with the renamed lifecycle. -/
def Alike (rename : Handle → Handle) (translate : α → β) (body : Guarded α) (other : Guarded β) : Prop :=
  ∀ lifecycle, Script.Alike rename
    (fun reached => (reached.1.map translate, reached.2.renamed rename))
    (body.run.run lifecycle) (other.run.run (lifecycle.renamed rename))

theorem alike_pure (value : α) : Alike rename translate (pure value) (pure (translate value)) :=
  fun _ => .done _

theorem alike_throw (error : StoreError) : Alike rename translate (throw error) (throw error) :=
  fun _ => .done _

theorem alike_get : Alike rename (Lifecycle.renamed rename) get get := fun _ => .done _

theorem alike_set (lifecycle : Lifecycle) :
    Alike rename id (set lifecycle) (set (lifecycle.renamed rename)) := fun _ => .done _

theorem alike_modify {change : Lifecycle → Lifecycle}
    (same : ∀ lifecycle, change (lifecycle.renamed rename) = (change lifecycle).renamed rename) :
    Alike rename id (modify change) (modify change) := by
  intro lifecycle
  have changed : (modify change : Guarded PUnit).run.run (lifecycle.renamed rename) =
      .done (.ok ⟨⟩, (change lifecycle).renamed rename) := by
    rw [← same]
    rfl
  rw [changed]
  exact .done _

/-- Sequences of guarded parts that are alike are alike. -/
theorem alike_bind {body : Guarded α} {other : Guarded β} {next : α → Guarded γ}
    {renamed : β → Guarded δ} (one : Alike rename translate body other)
    (two : ∀ value, Alike rename further (next value) (renamed (translate value))) :
    Alike rename further (body >>= next) (other >>= renamed) := by
  intro lifecycle
  refine Script.alike_bind (one lifecycle) fun ⟨outcome, left⟩ => ?_
  cases outcome with
  | ok value => exact two value left
  | error error => exact .done _

theorem alike_lift {step : Script α} {other : Script β}
    (alike : Script.Alike rename translate step other) :
    Alike rename translate (lift step) (lift other) := by
  intro lifecycle
  have lifted : Script.Alike rename
      (fun reached : α × Lifecycle => (translate reached.1, reached.2.renamed rename))
      ((StateT.lift step : StateT Lifecycle Script α).run lifecycle)
      ((StateT.lift other : StateT Lifecycle Script β).run (lifecycle.renamed rename)) :=
    Script.alike_bind alike fun value => .done (value, lifecycle)
  exact Script.alike_bind lifted fun reached =>
    .done ((.ok reached.1, reached.2) : Except StoreError α × Lifecycle)

theorem alike_ask (request : Request) :
    Alike rename (request.answerRenamed rename) (ask request) (ask (request.renamed rename)) :=
  alike_lift (Script.alike_perform (.ask request))

theorem alike_call (request : Request) :
    Alike rename (request.valueRenamed rename) (call request) (call (request.renamed rename)) := by
  refine alike_bind (alike_ask request) fun answer => ?_
  cases answer with
  | ok value => exact alike_pure value
  | error cause => exact alike_throw _

theorem alike_require {step other : Script (Except StoreError α)}
    (alike : Script.Alike rename id step other) :
    Alike rename id (require step) (require other) := by
  refine alike_bind (alike_lift alike) fun outcome => ?_
  cases outcome with
  | ok value => exact alike_pure value
  | error error => exact alike_throw error

theorem alike_emit (event : Event) : Alike rename id (emit event) (emit event) :=
  alike_lift (Script.alike_perform (.emit event))

theorem alike_ensureNotOpen (operation : String) :
    Alike rename id (ensureNotOpen operation) (ensureNotOpen operation) := by
  refine alike_bind alike_get fun lifecycle => ?_
  change Alike rename id _ (if lifecycle.state = .opened then throw (.alreadyOpen operation) else pure ())
  split
  · exact alike_throw _
  · exact alike_pure ()

/-- The handle that is closed after a failure is the renamed one. -/
theorem alike_closingOnFailure (handle : Handle) {body other : Guarded α}
    (alike : Alike rename id body other) :
    Alike rename id (closingOnFailure handle body) (closingOnFailure (rename handle) other) := by
  intro lifecycle
  refine Script.alike_bind (alike lifecycle) fun ⟨outcome, left⟩ => ?_
  cases outcome with
  | ok value => exact .done _
  | error error =>
    have closed : Alike rename id (lift (Script.close handle)) (lift (Script.close (rename handle))) :=
      alike_lift (Script.alike_perform (.close handle))
    exact alike_bind closed (fun _ => alike_throw error) left

/-- Guarded parts that are alike make scripts that are alike. -/
theorem alike_script {body other : Guarded α} (alike : Alike rename id body other) :
    Script.Alike rename id body.script other.script := by
  refine Script.alike_bind (Script.alike_perform .acquire) fun lifecycle => ?_
  refine Script.alike_bind (alike lifecycle) fun ⟨outcome, left⟩ => ?_
  refine Script.alike_bind (Script.alike_perform (.release left)) fun _ => ?_
  cases outcome <;> exact .done _

end Guarded

end CrashMarker
