/-
Module: CrashMarker.Script
Purpose: Operations as sequences of visible actions.
Main exports: Lifecycle, Action, Script, Script.head, Script.bind, World, Action.perform, Script.run
-/
import CrashMarker.Event
import CrashMarker.Storage.Request

namespace CrashMarker

/-!
An operation on a store is not one change of state: it asks its storage again and again, and
between any two calls another store may act, a call may fail, or the machine may stop.  A script is
therefore the operation as the actions it takes, where each answer decides what comes next.

A script that repeats itself says how one repetition starts; nothing bounds their number, since a
storage may interrupt a transfer forever.  `Script.head` shows the next action of a script and
unrolls a repetition once, so that running a script, cutting it anywhere, and interleaving it with
others all go through one view.
-/

/-- Where a store is in its life. -/
inductive State where
  /-- Neither creating nor opening a marker has succeeded yet. -/
  | unopened
  /-- The marker is open and its flags may change. -/
  | opened
  /-- The marker was let go of; its file stays. -/
  | closed
  /-- The marker was let go of and its file removed. -/
  | deleted
deriving Repr, DecidableEq, Inhabited

def State.name : State → String
  | .unopened => "Unopened"
  | .opened => "Open"
  | .closed => "Closed"
  | .deleted => "Deleted"

/-- The part of a store that its mutex guards. -/
structure Lifecycle where
  state : State := .unopened
  /-- The open marker file. -/
  handle : Option Handle := none
  /-- Whether the advisory lock on the marker was taken. -/
  locked : Bool := false
  /-- Whether this store has made the file, even if its setup failed afterwards. -/
  associated : Bool := false
deriving Repr, DecidableEq, Inhabited

/-- One visible action of an operation on a store. -/
inductive Action where
  /-- A call on the storage. -/
  | ask (request : Request)
  /-- Close a handle, which gives up its lock. -/
  | close (handle : Handle)
  /-- Report an event. -/
  | emit (event : Event)
  /-- Read a cached flag, without the mutex. -/
  | load (flag : Flag)
  /-- Change a cached flag. -/
  | store (flag : Flag) (value : Bool)
  /-- Take the mutex and see what it guards. -/
  | acquire
  /-- Leave behind what the mutex guards and give the mutex back. -/
  | release (lifecycle : Lifecycle)
deriving Repr, DecidableEq, Inhabited

/-- What an action yields. -/
abbrev Action.Answer : Action → Type
  | .ask request => request.Answer
  | .close _ => Unit
  | .emit _ => Unit
  | .load _ => Bool
  | .store _ _ => Unit
  | .acquire => Lifecycle
  | .release _ => Unit

/-- What one turn of a repetition decides. -/
inductive Turn (σ β : Type) where
  | again (state : σ)
  | stop (result : β)
deriving Repr, DecidableEq

/-- A sequence of actions that ends in a result, if it ends. -/
inductive Script : Type → Type 1 where
  /-- Nothing is left to do. -/
  | done {α : Type} (result : α) : Script α
  /-- Take an action and go on as its answer says. -/
  | act {α : Type} (action : Action) (next : action.Answer → Script α) : Script α
  /-- Repeat a turn that starts with an action until one of the turns stops, then go on. -/
  | cycle {α β σ : Type} (state : σ) (first : σ → Action)
      (turn : (state : σ) → (first state).Answer → Script (Turn σ β)) (next : β → Script α) :
      Script α

namespace Script

/-- Do one thing after the other. -/
def bind {α β : Type} : Script α → (α → Script β) → Script β
  | .done result, after => after result
  | .act action next, after => .act action fun answer => (next answer).bind after
  | .cycle state first turn next, after =>
    .cycle state first turn fun result => (next result).bind after

instance : Monad Script where
  pure := .done
  bind := .bind

@[simp] theorem pure_eq_done {α : Type} (result : α) : (pure result : Script α) = .done result := rfl

@[simp] theorem bind_eq {α β : Type} (script : Script α) (after : α → Script β) :
    script >>= after = script.bind after := rfl

@[simp] theorem done_bind {α β : Type} (result : α) (after : α → Script β) :
    (done result).bind after = after result := rfl

@[simp] theorem act_bind {α β : Type} (action : Action) (next : action.Answer → Script α)
    (after : α → Script β) :
    (act action next).bind after = act action fun answer => (next answer).bind after := rfl

@[simp] theorem cycle_bind {α β γ σ : Type} (state : σ) (first : σ → Action)
    (turn : (state : σ) → (first state).Answer → Script (Turn σ γ)) (next : γ → Script α)
    (after : α → Script β) :
    (cycle state first turn next).bind after =
      cycle state first turn fun result => (next result).bind after := rfl

@[simp] theorem bind_done {α : Type} (script : Script α) : script.bind .done = script := by
  induction script with
  | done result => rfl
  | act action next inductionHypothesis => simp [inductionHypothesis]
  | cycle state first turn next _ inductionHypothesis => simp [inductionHypothesis]

/-- Sequences may be grouped as one likes. -/
theorem bind_assoc {α β γ : Type} (script : Script α) (first : α → Script β)
    (second : β → Script γ) :
    (script.bind first).bind second = script.bind fun result => (first result).bind second := by
  induction script with
  | done result => rfl
  | act action next inductionHypothesis => simp [inductionHypothesis]
  | cycle state start turn next _ inductionHypothesis => simp [inductionHypothesis]

instance : LawfulMonad Script :=
  LawfulMonad.mk' Script (fun script => bind_done script) (fun _ _ => rfl) bind_assoc

def perform (action : Action) : Script action.Answer := .act action .done

def ask (request : Request) : Script request.Answer := perform (.ask request)

def close (handle : Handle) : Script Unit := perform (.close handle)

def emit (event : Event) : Script Unit := perform (.emit event)

/-- The next thing that happens in a script. -/
inductive Head (α : Type) : Type 1 where
  | finished (result : α)
  | acting (action : Action) (next : action.Answer → Script α)

/-- See the next thing that happens. -/
def head {α : Type} : Script α → Head α
  | .done result => .finished result
  | .act action next => .acting action next
  | .cycle state first turn next => .acting (first state) fun answer =>
    (turn state answer).bind fun
      | .again following => .cycle following first turn next
      | .stop result => next result

end Script

/-- What the actions of one store act on: the storage, the cached flags, the part under the mutex,
and the events reported so far. -/
structure World (σ : Type) where
  storage : σ
  cached : Record := .clean
  lifecycle : Lifecycle := {}
  events : List Event := []
deriving Repr, DecidableEq, Inhabited

/-- The effect of one action when nothing comes between. -/
def Action.perform {σ : Type} [Storage σ] (world : World σ) :
    (action : Action) → action.Answer × World σ
  | .ask request =>
    let (answer, storage) := Storage.answer request world.storage
    (answer, { world with storage })
  | .close handle => ((), { world with storage := Storage.close handle world.storage })
  | .emit event => ((), { world with events := world.events ++ [event] })
  | .load flag => (world.cached.get flag, world)
  | .store flag value => ((), { world with cached := world.cached.set flag value })
  | .acquire => (world.lifecycle, world)
  | .release lifecycle => ((), { world with lifecycle })

namespace Script

variable {σ : Type} [Storage σ] {α : Type}

/-- Run a script to its end, if it ends within the given number of actions. -/
def run : Nat → Script α → World σ → Option (α × World σ)
  | 0, script, world =>
    match script.head with
    | .finished result => some (result, world)
    | .acting _ _ => none
  | budget + 1, script, world =>
    match script.head with
    | .finished result => some (result, world)
    | .acting action next =>
      let (answer, world) := action.perform world
      run budget (next answer) world

@[simp] theorem run_done (budget : Nat) (result : α) (world : World σ) :
    (done result).run budget world = some (result, world) := by
  cases budget <;> rfl

theorem run_succ_of_head_acting {script : Script α} {action : Action}
    {next : action.Answer → Script α} (acting : script.head = .acting action next) (budget : Nat)
    (world : World σ) :
    script.run (budget + 1) world =
      (next (action.perform world).1).run budget (action.perform world).2 := by
  rw [run, acting]

@[simp] theorem run_succ_act (budget : Nat) (action : Action) (next : action.Answer → Script α)
    (world : World σ) :
    (act action next).run (budget + 1) world =
      (next (action.perform world).1).run budget (action.perform world).2 :=
  run_succ_of_head_acting rfl budget world

end Script

end CrashMarker
