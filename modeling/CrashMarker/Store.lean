/-
Module: CrashMarker.Store
Purpose: A store as a value, and running its operations on a storage.
Main exports: Store, Store.describe, Store.world, Store.run
-/
import CrashMarker.Store.Inspection

namespace CrashMarker

/-- A store between operations. -/
structure Store where
  target : Target
  cached : Record := .clean
  lifecycle : Lifecycle := {}
deriving Repr, DecidableEq, Inhabited

namespace Store

/-- A store in words, as diagnostics print it. -/
def describe (store : Store) : String :=
  s!"DirtyFlagStore \x7b path: {Text.quoted store.target.path.text}, " ++
    s!"config: {store.target.config.describe}, state: {store.lifecycle.state.name}, " ++
    s!"dirty: {store.cached.dirty}, index_rebuild_scheduled: {store.cached.rebuild} \x7d"

/-- What the actions of the store act on. -/
def world {σ : Type} (store : Store) (storage : σ) : World σ :=
  { storage, cached := store.cached, lifecycle := store.lifecycle }

/-- The store as actions have left it. -/
def after {σ : Type} (store : Store) (world : World σ) : Store :=
  { store with cached := world.cached, lifecycle := world.lifecycle }

/-- What comes of running a script for a store: its result, the store and the storage as it leaves
them, and the events it reported. -/
structure Ran (σ α : Type) where
  result : α
  store : Store
  storage : σ
  events : List Event

/-- Run a script for a store, if it ends within the given number of actions. -/
def run {σ α : Type} [Storage σ] (budget : Nat) (script : Script α) (store : Store) (storage : σ) :
    Option (Ran σ α) :=
  (script.run budget (store.world storage)).map fun (result, world) =>
    ⟨result, store.after world, world.storage, world.events⟩

/-- Let a store vanish without closing it: the system closes the handle. -/
def crash {σ : Type} [Storage σ] (store : Store) (storage : σ) : σ :=
  match store.lifecycle.handle with
  | some handle => Storage.close handle storage
  | none => storage

end Store

end CrashMarker
