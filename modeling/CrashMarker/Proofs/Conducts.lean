/-
Module: CrashMarker.Proofs.Conducts
Purpose: Passages of one storage seen as passages of another, and passages that can be computed.
Main exports:
  Script.advance, Script.passes_advance, Memory.unreliable_of_honest, Script.Passes.viewed, Follows,
  Script.Passes.followed
-/
import CrashMarker.Proofs.Memory.Unreliable
import CrashMarker.Proofs.Upholds

namespace CrashMarker

variable {σ τ : Type} [Storage σ] [Storage τ] {α : Type}

namespace Script

/-- Take so many of the next actions, or as many as there are, and see what is left of the script. -/
def advance : Nat → Script α → World σ → Script α × World σ
  | 0, script, world => (script, world)
  | count + 1, script, world =>
    match script.head with
    | .finished _ => (script, world)
    | .acting action next =>
      let (answer, world) := action.perform world
      advance count (next answer) world

/-- Advancing by some actions is a passage. -/
theorem passes_advance (count : Nat) (script : Script α) (world : World σ) :
    ∃ taken, Passes (Conduct.honest σ) script world taken (script.advance count world).1
      (script.advance count world).2 := by
  induction count generalizing script world with
  | zero => exact ⟨[], .here _ _⟩
  | succ count inductionHypothesis =>
    unfold advance
    cases look : script.head with
    | finished result => exact ⟨[], .here _ _⟩
    | acting action next =>
      obtain ⟨taken, further⟩ := inductionHypothesis (next (action.perform world).1)
        (action.perform world).2
      exact ⟨_, .step look ((Action.allowed_honest_iff _ _ _ _).2 rfl) further⟩

/-- A script that may act, and from there come to an end, may come to that end. -/
theorem exists_ends_step {conduct : Conduct σ} {script : Script α} {world middle last : World σ}
    {result : α} (action : Action) {answer : action.Answer} {further : action.Answer → Script α}
    (acting : script.head = .acting action further)
    (allowed : action.Allowed conduct world answer middle)
    (ends : ∃ taken, (further answer).Ends conduct middle taken result last) :
    ∃ taken, script.Ends conduct world taken result last := by
  obtain ⟨taken, passes⟩ := ends
  exact ⟨_, .step acting allowed passes⟩

/-- A world reached by so many of the next actions. -/
def advanced (count : Nat) (script : Script α) (world : World σ) : World σ :=
  (script.advance count world).2

end Script

def World.viewed (view : σ → τ) (world : World σ) : World τ :=
  { storage := view world.storage, cached := world.cached, lifecycle := world.lifecycle,
    events := world.events }

/-- Wherever `invariant` holds, one storage is seen to do what the other may do. -/
structure Views (conduct : Conduct σ) (invariant : σ → Prop) (view : σ → τ) (other : Conduct τ) :
    Prop where
  answers : ∀ {request before answer after}, invariant before →
    conduct request before answer after →
    invariant after ∧ other request (view before) answer (view after)
  closes : ∀ handle {storage}, invariant storage → invariant (Storage.close handle storage) ∧
    view (Storage.close handle storage) = Storage.close handle (view storage)

/-- What an action does on one storage, it is seen to do on the other. -/
theorem Views.action {conduct : Conduct σ} {invariant : σ → Prop} {view : σ → τ}
    {other : Conduct τ} (views : Views conduct invariant view other) {world after : World σ}
    (start : invariant world.storage) {action : Action} {answer : action.Answer}
    (allowed : action.Allowed conduct world answer after) :
    invariant after.storage ∧
      action.Allowed other (world.viewed view) answer (after.viewed view) := by
  cases action with
  | ask request =>
    obtain ⟨storage, answered, rfl⟩ := allowed
    obtain ⟨kept, seen⟩ := views.answers start answered
    exact ⟨kept, view storage, seen, rfl⟩
  | close handle =>
    cases allowed
    obtain ⟨kept, seen⟩ := views.closes handle start
    refine ⟨kept, ?_⟩
    simp only [Action.Allowed, Action.perform, World.viewed, seen]
  | _ =>
    cases allowed
    exact ⟨start, rfl⟩

/-- Every passage on the one storage is seen as a passage on the other. -/
theorem Script.Passes.viewed {conduct : Conduct σ} {invariant : σ → Prop} {view : σ → τ}
    {other : Conduct τ} (views : Views conduct invariant view other) {script last : Script α}
    {world after : World σ} {taken : List Taken} (start : invariant world.storage)
    (passes : Script.Passes conduct script world taken last after) :
    invariant after.storage ∧
      Script.Passes other script (world.viewed view) taken last (after.viewed view) := by
  induction passes with
  | here => exact ⟨start, .here _ _⟩
  | step acting allowed _ inductionHypothesis =>
    obtain ⟨kept, seen⟩ := views.action start allowed
    obtain ⟨reached, further⟩ := inductionHypothesis kept
    exact ⟨reached, .step acting seen further⟩

/-- Whatever one storage does, the other may do as well, and the two stay related. -/
structure Follows (conduct : Conduct σ) (other : Conduct τ) (related : σ → τ → Prop) : Prop where
  answers : ∀ {request before answer after shadow}, related before shadow →
    conduct request before answer after →
    ∃ next, other request shadow answer next ∧ related after next
  closes : ∀ handle {storage shadow}, related storage shadow →
    related (Storage.close handle storage) (Storage.close handle shadow)

def World.on (world : World σ) (storage : τ) : World τ :=
  { storage, cached := world.cached, lifecycle := world.lifecycle, events := world.events }

/-- An action on one storage can be followed on the other. -/
theorem Follows.action {conduct : Conduct σ} {other : Conduct τ} {related : σ → τ → Prop}
    (follows : Follows conduct other related) {world after : World σ} {shadow : τ}
    (start : related world.storage shadow) {action : Action} {answer : action.Answer}
    (allowed : action.Allowed conduct world answer after) :
    ∃ next, action.Allowed other (world.on shadow) answer (after.on next) ∧
      related after.storage next := by
  cases action with
  | ask request =>
    obtain ⟨storage, answered, rfl⟩ := allowed
    obtain ⟨next, may, kept⟩ := follows.answers start answered
    exact ⟨next, ⟨next, may, rfl⟩, kept⟩
  | close handle =>
    cases allowed
    exact ⟨Storage.close handle shadow, rfl, follows.closes handle start⟩
  | _ =>
    cases allowed
    exact ⟨shadow, rfl, start⟩

/-- Every passage on the one storage may be followed by the same passage on the other. -/
theorem Script.Passes.followed {conduct : Conduct σ} {other : Conduct τ} {related : σ → τ → Prop}
    (follows : Follows conduct other related) {script last : Script α} {world after : World σ}
    {taken : List Taken} {shadow : τ} (start : related world.storage shadow)
    (passes : Script.Passes conduct script world taken last after) :
    ∃ next, Script.Passes other script (world.on shadow) taken last (after.on next) ∧
      related after.storage next := by
  induction passes generalizing shadow with
  | here => exact ⟨shadow, .here _ _, start⟩
  | step acting allowed _ inductionHypothesis =>
    obtain ⟨middle, may, kept⟩ := follows.action start allowed
    obtain ⟨next, further, reached⟩ := inductionHypothesis kept
    exact ⟨next, .step acting may further, reached⟩

/-- A memory on which nothing is made to fail answers in a way in which an unreliable one may. -/
theorem Memory.unreliable_of_honest (failures : StorageError → Prop) (request : Request)
    (before : Memory) (answer : request.Answer) (after : Memory)
    (answered : Conduct.honest Memory request before answer after) :
    Memory.Unreliable failures request before answer after :=
  .served before.maxTransfer before.interrupts answered

/-- What can be computed may happen on an unreliable memory. -/
theorem Script.passes_unreliable (failures : StorageError → Prop) (count : Nat) (script : Script α)
    (world : World Memory) :
    ∃ taken last, Script.Passes (Memory.Unreliable failures) script world taken last
      (script.advanced count world) := by
  obtain ⟨taken, passes⟩ := script.passes_advance count world
  exact ⟨taken, _, passes.mono (Memory.unreliable_of_honest failures)⟩

/-- A memory with one file, which moves one byte at a time. -/
def Memory.slow (path : Path) (bytes : List UInt8) : Memory :=
  { holding path (some bytes) with maxTransfer := 1 }

/-- The slow memory is in order, with the one file at rest. -/
theorem Memory.atRest_slow (path : Path) (bytes : List UInt8) :
    (slow path bytes).AtRest path (some { bytes }) :=
  (atRest_holding path (some bytes)).paced 1 0

end CrashMarker
