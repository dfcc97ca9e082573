/-
Module: CrashMarker.Proofs.Careers
Purpose: All that one store may go through, operation after operation, with the actions it took.
Main exports: Episode, Career, Script.record, Store.live, career_of_live
-/
import CrashMarker.Proofs.Commands

namespace CrashMarker

/-- One operation of a store: the store before and after it, the actions taken, and the outcome. -/
structure Episode where
  operation : Operation
  before : Store
  taken : List Taken
  outcome : Except StoreError Unit
  next : Store

variable {σ : Type} [Storage σ]

/-- The operations that a new store may go through, the latest one last.  Each may find the storage in
any state, since others may have used it in the meantime. -/
inductive Career (conduct : Conduct σ) (target : Target) : List Episode → Store → Prop where
  | fresh : Career conduct target [] (.fresh target)
  | next {episodes : List Episode} {store : Store} {operation : Operation} {storage : σ}
      {taken : List Taken} {outcome : Except StoreError Unit} {world : World σ}
      (career : Career conduct target episodes store)
      (ended : (operation.script target).Ends conduct (store.world storage) taken outcome world) :
      Career conduct target
        (episodes ++ [⟨operation, store, taken, outcome, store.after world⟩]) (store.after world)

namespace Career

variable {conduct : Conduct σ} {target : Target} {episodes : List Episode} {store : Store}

/-- In all its life a store works on the marker it was made for. -/
theorem target_eq (career : Career conduct target episodes store) : store.target = target := by
  induction career with
  | fresh => rfl
  | next _ _ inductionHypothesis => exact inductionHypothesis

/-- What holds of every operation on every store holds of every operation of a career. -/
theorem forall_mem {holds : Episode → Prop} (career : Career conduct target episodes store)
    (each : ∀ (store : Store) operation storage taken outcome (world : World σ),
      store.target = target →
      (operation.script target).Ends conduct (store.world storage) taken outcome world →
      holds ⟨operation, store, taken, outcome, store.after world⟩) :
    ∀ episode ∈ episodes, holds episode := by
  induction career with
  | fresh => exact fun _ impossible => absurd impossible List.not_mem_nil
  | next career ended inductionHypothesis =>
    intro episode member
    rcases List.mem_append.1 member with earlier | last
    · exact inductionHypothesis episode earlier
    · rcases List.mem_singleton.1 last with rfl
      exact each _ _ _ _ _ _ career.target_eq ended

end Career

/-! ## Careers that can be computed -/

/-- Run a script to its end, if it ends within the given number of actions, and write down what was
done. -/
def Script.record {α : Type} : Nat → Script α → World σ → Option (List Taken × α × World σ)
  | 0, script, world =>
    match script.head with
    | .finished result => some ([], result, world)
    | .acting _ _ => none
  | budget + 1, script, world =>
    match script.head with
    | .finished result => some ([], result, world)
    | .acting action next =>
      let (answer, middle) := action.perform world
      (record budget (next answer) middle).map fun (taken, result, after) =>
        (⟨action, answer⟩ :: taken, result, after)

/-- What a script was recorded to do is one of the things that it may do. -/
theorem Script.ends_of_record {α : Type} {budget : Nat} {script : Script α} {world after : World σ}
    {taken : List Taken} {result : α}
    (recorded : script.record budget world = some (taken, result, after)) :
    script.Ends (Conduct.honest σ) world taken result after := by
  induction budget generalizing script world taken with
  | zero =>
    rw [record] at recorded
    split at recorded
    next finished =>
      cases recorded
      rw [eq_done_of_head_finished finished]
      exact .here _ _
    next => cases recorded
  | succ budget inductionHypothesis =>
    rw [record] at recorded
    split at recorded
    next finished =>
      cases recorded
      rw [eq_done_of_head_finished finished]
      exact .here _ _
    next acting =>
      obtain ⟨⟨late, value, last⟩, further, same⟩ := Option.map_eq_some_iff.1 recorded
      cases same
      exact .step acting ((Action.allowed_honest_iff _ _ _ _).2 rfl) (inductionHypothesis further)

/-- Let a store carry out operations one after the other, each within the given number of actions. -/
def Store.live (budget : Nat) : List Operation → Store → σ → Option (List Episode × Store × σ)
  | [], store, storage => some ([], store, storage)
  | operation :: operations, store, storage =>
    match (operation.script store.target).record budget (store.world storage) with
    | none => none
    | some (taken, outcome, world) =>
      (live budget operations (store.after world) world.storage).map
        fun (episodes, last, storage) =>
          (⟨operation, store, taken, outcome, store.after world⟩ :: episodes, last, storage)

/-- What has been lived belongs to a career. -/
theorem Career.live {target : Target} {budget : Nat} {operations : List Operation}
    {early late : List Episode} {store last : Store} {storage after : σ}
    (career : Career (Conduct.honest σ) target early store)
    (lived : store.live budget operations storage = some (late, last, after)) :
    Career (Conduct.honest σ) target (early ++ late) last := by
  induction operations generalizing early late store storage with
  | nil =>
    cases lived
    rw [List.append_nil]
    exact career
  | cons operation operations inductionHypothesis =>
    rw [Store.live] at lived
    split at lived
    · cases lived
    next taken outcome world recorded =>
      obtain ⟨⟨episodes, final, left⟩, further, same⟩ := Option.map_eq_some_iff.1 lived
      cases same
      rw [career.target_eq] at recorded
      have onward := inductionHypothesis (career.next (Script.ends_of_record recorded)) further
      rw [List.append_assoc] at onward
      exact onward

/-- A life that was computed is a career. -/
theorem career_of_live {target : Target} {budget : Nat} {operations : List Operation} {storage : σ}
    {result : List Episode × Store × σ}
    (lived : (Store.fresh target).live budget operations storage = some result) :
    Career (Conduct.honest σ) target result.1 result.2.1 :=
  Career.fresh.live lived

end CrashMarker
