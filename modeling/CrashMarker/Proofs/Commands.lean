/-
Module: CrashMarker.Proofs.Commands
Purpose: Whole operations of a store, taken as steps, and stores that vanish and are replaced.
Main exports: Store.fresh, Store.Performs, Command, Store.obey, Store.exists_obey
-/
import CrashMarker.Proofs.Conducts
import CrashMarker.Proofs.Patience

namespace CrashMarker

variable {σ τ : Type} [Storage σ] [Storage τ]

def Store.fresh (target : Target) : Store := { target }

/-- What an operation of a store may come to: its outcome, and the store and the storage as it leaves
them. -/
def Store.Performs (conduct : Conduct σ) (operation : Operation) (store : Store) (storage : σ)
    (outcome : Except StoreError Unit) (next : Store) (after : σ) : Prop :=
  ∃ taken world, (operation.script store.target).Ends conduct (store.world storage) taken outcome
    world ∧ next = store.after world ∧ after = world.storage

namespace Store

variable {conduct : Conduct σ} {operation : Operation} {store next : Store} {storage after : σ}
  {outcome : Except StoreError Unit}

theorem crash_of_handle {handle : Handle} (holds : store.lifecycle.handle = some handle) :
    store.crash storage = Storage.close handle storage := by
  rw [crash, holds]

/-- A store with nothing open vanishes without a trace. -/
theorem crash_of_letGo (letGo : store.lifecycle.handle = none) : store.crash storage = storage := by
  rw [crash, letGo]

theorem Performs.target_eq (performs : store.Performs conduct operation storage outcome next after) :
    next.target = store.target := by
  obtain ⟨taken, world, -, rfl, -⟩ := performs
  rfl

/-- What holds at the end of the script of an operation holds of what the operation comes to. -/
theorem Performs.of_upholds {always : σ → Prop}
    {ends : Except StoreError Unit → World σ → Prop}
    (performs : store.Performs conduct operation storage outcome next after)
    (start : always storage)
    (upholds : (operation.script store.target).Upholds conduct always (store.world storage) ends) :
    ∃ world, ends outcome world ∧ next = store.after world ∧ after = world.storage := by
  obtain ⟨taken, world, ended, rfl, rfl⟩ := performs
  exact ⟨world, upholds.of_ends start ended, rfl, rfl⟩

/-- What holds of the storage wherever the script of an operation gets to holds after the operation. -/
theorem Performs.always {always : σ → Prop} {ends : Except StoreError Unit → World σ → Prop}
    (performs : store.Performs conduct operation storage outcome next after)
    (start : always storage)
    (upholds : (operation.script store.target).Upholds conduct always (store.world storage) ends) :
    always after := by
  obtain ⟨taken, world, ended, rfl, rfl⟩ := performs
  exact (upholds start ended).1

/-- An operation that leaves its world as it is leaves the store and the storage as they are. -/
theorem Performs.unchanged {answer : Except StoreError Unit}
    (performs : store.Performs conduct operation storage outcome next after)
    (idle : (operation.script store.target).Upholds conduct (fun _ => True) (store.world storage)
      fun result world => result = answer ∧ world = store.world storage) :
    outcome = answer ∧ next = store ∧ after = storage := by
  obtain ⟨world, ⟨rfl, rfl⟩, rfl, rfl⟩ := performs.of_upholds trivial idle
  exact ⟨rfl, rfl, rfl⟩

/-- What an operation comes to on one storage is seen as what it may come to on another. -/
theorem Performs.viewed {invariant : σ → Prop} {view : σ → τ} {other : Conduct τ}
    (views : Views conduct invariant view other)
    (performs : store.Performs conduct operation storage outcome next after)
    (start : invariant storage) :
    invariant after ∧ store.Performs other operation (view storage) outcome next (view after) := by
  obtain ⟨taken, world, ended, rfl, rfl⟩ := performs
  obtain ⟨kept, seen⟩ := Script.Passes.viewed views start ended
  exact ⟨kept, taken, world.viewed view, seen, rfl, rfl⟩

/-- A store that vanishes on one storage is seen to vanish on the other. -/
theorem crash_viewed (store : Store) {invariant : σ → Prop} {view : σ → τ} {other : Conduct τ}
    (views : Views conduct invariant view other) (start : invariant storage) :
    invariant (store.crash storage) ∧ view (store.crash storage) = store.crash (view storage) := by
  cases held : store.lifecycle.handle with
  | some handle =>
    rw [crash_of_handle held, crash_of_handle held]
    exact views.closes handle start
  | none =>
    rw [crash_of_letGo held, crash_of_letGo held]
    exact ⟨start, rfl⟩

/-- A run is one of the things that an operation may come to. -/
theorem performs_of_run {budget : Nat} {ran : Store.Ran σ (Except StoreError Unit)}
    (same : store.run budget (operation.script store.target) storage = some ran) :
    store.Performs (Conduct.honest σ) operation storage ran.result ran.store ran.storage := by
  obtain ⟨⟨result, world⟩, finished, rfl⟩ := Option.map_eq_some_iff.1 same
  obtain ⟨taken, ended⟩ := Script.ends_of_run finished
  exact ⟨taken, world, ended, rfl, rfl⟩

end Store

/-- What may be asked of a store: an operation, or that it vanishes and another one takes its
place. -/
inductive Command where
  | operate (operation : Operation)
  | restart
deriving Repr, DecidableEq, Inhabited

structure Obeyed (σ : Type) where
  outcome : Option (Except StoreError Unit)
  store : Store
  storage : σ

namespace Store

/-- Carry out a command, if it is done within so many actions. -/
def obey (budget : Nat) (store : Store) (storage : σ) : Command → Option (Obeyed σ)
  | .operate operation =>
    (store.run budget (operation.script store.target) storage).map fun ran =>
      ⟨some ran.result, ran.store, ran.storage⟩
  | .restart => some ⟨none, .fresh store.target, store.crash storage⟩

end Store

/-- A script that has ended ends the same with more actions to spare. -/
theorem Script.run_mono {α : Type} {budget : Nat} {script : Script α} {world : World σ}
    {result : α × World σ} (ran : script.run budget world = some result) (more : Nat) :
    script.run (budget + more) world = some result := by
  obtain ⟨value, after⟩ := result
  induction budget generalizing script world with
  | zero =>
    rw [run] at ran
    split at ran
    next finished =>
      cases ran
      rw [eq_done_of_head_finished finished, run_done]
    next => cases ran
  | succ budget inductionHypothesis =>
    rw [run] at ran
    split at ran
    next finished =>
      cases ran
      rw [eq_done_of_head_finished finished, run_done]
    next acting =>
      rw [Nat.succ_add, run_succ_of_head_acting acting]
      exact inductionHypothesis ran

namespace Store

variable {storage : σ} {store : Store} {command : Command} {obeyed : Obeyed σ}

theorem obey_mono {budget : Nat} (same : store.obey budget storage command = some obeyed)
    (more : Nat) : store.obey (budget + more) storage command = some obeyed := by
  cases command with
  | restart => exact same
  | operate operation =>
    obtain ⟨ran, finished, rfl⟩ := Option.map_eq_some_iff.1 same
    obtain ⟨result, ended, rfl⟩ := Option.map_eq_some_iff.1 finished
    simp only [obey, run, Script.run_mono ended more, Option.map_some]

/-- On a patient storage every command is carried out. -/
theorem exists_obey {patience : σ → Nat} (patient : Patient (Conduct.honest σ) patience)
    (store : Store) (storage : σ) (command : Command) :
    ∃ budget obeyed, store.obey budget storage command = some obeyed := by
  cases command with
  | restart => exact ⟨0, _, rfl⟩
  | operate operation =>
    have halts := operation.halts patient store.target (store.world storage)
    obtain ⟨budget, result, world, ran, -⟩ := halts.exists_run
    exact ⟨budget, ⟨some result, store.after world, world.storage⟩, by simp [obey, run, ran]⟩

/-- What a command came to is something that its operation may come to. -/
theorem performs_of_obey {budget : Nat} {operation : Operation}
    (same : store.obey budget storage (.operate operation) = some obeyed) :
    ∃ outcome, obeyed.outcome = some outcome ∧ store.Performs (Conduct.honest σ) operation storage
      outcome obeyed.store obeyed.storage := by
  obtain ⟨ran, finished, rfl⟩ := Option.map_eq_some_iff.1 same
  exact ⟨ran.result, rfl, performs_of_run finished⟩

end Store

end CrashMarker
