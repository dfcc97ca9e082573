/-
Module: CrashMarker.Store.Operation
Purpose: The operations on one store.
Main exports:
  Target, Guarded, create, openMarker, closeMarker, delete, transition, present, Operation,
  Operation.script
-/
import CrashMarker.Config
import CrashMarker.Transfer

namespace CrashMarker

/-!
```text
unopened --create/open--> opened --close--> closed --open--> opened
                            |
                            +---delete---> deleted
```

Every operation that changes something runs under the mutex of the store.  Flags are cached, and a
cached flag only changes after the record has been written.  A transition looks at the cached flag
before it waits for the mutex, and once more when it has it.

Where an operation fails after it has opened the marker, it closes the handle again, which gives up
the lock; what the store knew before stays as it was, except that it remembers having made a file.
-/

/-- Which marker a store is about, and how it treats it. -/
structure Target where
  path : Path
  config : Config := .standard
deriving Repr, DecidableEq, Inhabited

/-- The part of an operation that runs under the mutex: it sees and changes what the mutex guards,
and what it changed stays changed when it fails. -/
abbrev Guarded (α : Type) : Type 1 := ExceptT StoreError (StateT Lifecycle Script) α

namespace Guarded

/-- Take the mutex, run the guarded part, and give the mutex back however it ended. -/
def script {α : Type} (body : Guarded α) : Script (Except StoreError α) := do
  let lifecycle ← Script.perform .acquire
  let (outcome, lifecycle) ← body.run.run lifecycle
  Script.perform (.release lifecycle)
  return outcome

/-- Take a step that cannot fail and does not concern the guarded part. -/
def lift {α : Type} (step : Script α) : Guarded α :=
  ExceptT.lift (StateT.lift step)

/-- Make a call and look at what it gets back. -/
def ask (request : Request) : Guarded request.Answer := lift (Script.ask request)

/-- Go on with the result of a step, or fail as it did. -/
def require {α : Type} (step : Script (Except StoreError α)) : Guarded α := do
  match ← lift step with
  | .ok value => return value
  | .error error => throw error

/-- Make a call that has to succeed. -/
def call (request : Request) : Guarded request.Value := do
  match ← ask request with
  | .ok value => return value
  | .error cause => throw (.storage cause)

def emit (event : Event) : Guarded Unit := lift (Script.emit event)

/-- Run a part that works on an open handle, and close the handle if that part fails. -/
def closingOnFailure {α : Type} (handle : Handle) (body : Guarded α) : Guarded α :=
  tryCatch body fun error => do
    lift (Script.close handle)
    throw error

def ensureNotOpen (operation : String) : Guarded Unit := do
  if (← get).state = .opened then
    throw (.alreadyOpen operation)

end Guarded

open Guarded

namespace Target

/-- Write a record to the start of the marker, and sync it if the configuration says so. -/
def persist (target : Target) (handle : Handle) (record : Record) : Guarded Unit := do
  require (writeFull handle 0 record.encode)
  if target.config.syncOnWrite then
    call (.sync handle)

/-- Make a record the cached one. -/
def publish (record : Record) : Guarded Unit := do
  lift (Script.perform (.store .dirty record.dirty))
  lift (Script.perform (.store .rebuild record.rebuild))

/-- Take the lock if the configuration says so, and tell whether it was taken.  Finding it taken by
someone else is an error. -/
def acquireLock (target : Target) (handle : Handle) : Guarded Bool := do
  if !target.config.fileLock then
    return false
  if ← call (.tryLock handle) then
    return true
  emit (.contended target.path)
  throw (.locked target.path)

/-- Fail if someone else holds the lock on the file that is about to be replaced.  A file that can
be neither opened nor locked is left for its removal to deal with. -/
def probeLock (target : Target) : Guarded Unit := do
  match ← ask (.openFile target.path) with
  | .error cause => emit (.probeSkipped target.path cause)
  | .ok handle =>
    closingOnFailure handle do
      match ← ask (.tryLock handle) with
      | .ok true =>
        match ← ask (.unlock handle) with
        | .ok _ => return
        | .error cause => emit (.probeUnlockFailed target.path cause)
      | .ok false =>
        emit (.contended target.path)
        throw (.locked target.path)
      | .error cause => emit (.probeSkipped target.path cause)
    lift (Script.close handle)

/-- Take over an open handle together with what is known about its lock. -/
def adopt (handle : Handle) (locked : Bool) : Guarded Unit :=
  set { state := .opened, handle := some handle, locked, associated := true : Lifecycle }

/-- Make a fresh marker, replacing any file at the path.  It starts out dirty, so that a crash
before the first clean close is seen when it is next opened. -/
def create (target : Target) : Script (Except StoreError Unit) := Guarded.script do
  ensureNotOpen "create"
  if ← call (.present target.path) then
    if target.config.fileLock then
      probeLock target
    match ← ask (.remove target.path) with
    | .ok _ => pure ()
    | .error cause => throw (.cannotDelete target.path cause)
  match ← ask (.createNew target.path) with
  | .ok _ => modify fun lifecycle => { lifecycle with associated := true }
  | .error cause => throw (.cannotCreate target.path cause)
  let handle ← call (.openFile target.path)
  closingOnFailure handle do
    let locked ← acquireLock target handle
    persist target handle .created
    publish .created
    adopt handle locked
    emit (.created target.path locked)

/-- Read the layout of an open marker, judged from its size, and the record that it holds. -/
def load (handle : Handle) : Script (Except StoreError (Layout × Option Record)) := do
  match ← Script.ask (.size handle) with
  | .error cause => return .error (.storage cause)
  | .ok size =>
    let layout := Layout.ofSize size
    let filled ← readFull handle 0 layout.readLength
    match filled.outcome with
    | .error error => return .error error
    | .ok _ => return .ok (layout, Record.decode? filled.bytes)

/-- Give an opened marker the current layout and tell its record.  An empty marker gets its first
record, a legacy one is given both flags, and any other is left as it is. -/
def normalize (target : Target) (handle : Handle) : Guarded Record := do
  match ← require (load handle) with
  | (_, none) =>
    persist target handle .clean
    return .clean
  | (.legacy, some record) =>
    persist target handle record
    emit (.upgraded target.path)
    return record
  | (_, some record) => return record

/-- Make an empty file where there is none.  If someone else makes it first, theirs will do. -/
def ensurePresent (target : Target) : Guarded Unit := do
  if !(← call (.present target.path)) then
    match ← ask (.createNew target.path) with
    | .ok _ => modify fun lifecycle => { lifecycle with associated := true }
    | .error (.alreadyExists _) => pure ()
    | .error cause => throw (.cannotCreate target.path cause)

/-- Open the marker and cache its flags. -/
def openMarker (target : Target) : Script (Except StoreError Unit) := Guarded.script do
  ensureNotOpen "open"
  ensurePresent target
  let handle ← call (.openFile target.path)
  closingOnFailure handle do
    let locked ← acquireLock target handle
    let record ← normalize target handle
    publish record
    adopt handle locked
    emit (.opened target.path record locked)

def present (target : Target) : Script (Except StoreError Bool) := do
  match ← Script.ask (.present target.path) with
  | .ok found => return .ok found
  | .error cause => return .error (.storage cause)

/-- Give up the lock and the handle.  If the lock cannot be given up by itself, closing the handle
does it. -/
def letGo (handle : Handle) (locked : Bool) : Guarded Unit := do
  closingOnFailure handle do
    if locked then
      call (.unlock handle)
  lift (Script.close handle)

/-- Let go of the marker and leave its file as it is. -/
def closeMarker (target : Target) : Script (Except StoreError Unit) := Guarded.script do
  let before ← get
  if let some handle := before.handle then
    set { before with state := .closed, handle := none, locked := false }
    letGo handle before.locked
    emit (.closed target.path)

/-- Remove the file, again and again until it is gone.  That the file is gone is as good when
someone else has removed it. -/
def removeUntilGone (target : Target) : Script (Except StoreError Unit) :=
  .cycle false (fun _ => .ask (.remove target.path))
    (fun warned answer => do
      match answer with
      | .ok _ => return .stop (.ok ())
      | .error (.notFound _) => return .stop (.ok ())
      | .error cause =>
        match ← Script.ask (.present target.path) with
        | .error failure => return .stop (.error (.storage failure))
        | .ok false => return .stop (.ok ())
        | .ok true =>
          if !warned then
            Script.emit (.removalRetried target.path cause)
          return .again true)
    .done

/-- Let go of the marker and remove its file.  A store that never had anything to do with a file
leaves everything alone. -/
def delete (target : Target) : Script (Except StoreError Unit) := Guarded.script do
  let before ← get
  if before.state = .unopened && !before.associated then
    return
  if let some handle := before.handle then
    set { before with handle := none, locked := false }
    letGo handle before.locked
  modify fun lifecycle => { lifecycle with state := .deleted }
  require (removeUntilGone target)
  emit (.deleted target.path)

/-- Bring a flag to a value, on disk first.  Nothing happens if it already has that value, whatever
state the store is in. -/
def transition (target : Target) (flag : Flag) (value : Bool) :
    Script (Except StoreError Unit) := do
  if (← Script.perform (.load flag)) = value then
    return .ok ()
  Guarded.script do
    -- Someone else may have made the change while this operation waited for the mutex.
    if (← lift (Script.perform (.load flag))) = value then
      return
    match (← get).handle with
    | none => throw .closed
    | some handle =>
      let dirty ← lift (Script.perform (.load .dirty))
      let rebuild ← lift (Script.perform (.load .rebuild))
      persist target handle ((Record.mk dirty rebuild).set flag value)
      lift (Script.perform (.store flag value))
      emit (.persisted target.path flag value)

end Target

/-- The operations that change a store or its marker. -/
inductive Operation where
  | create
  | openMarker
  | closeMarker
  | delete
  | transition (flag : Flag) (value : Bool)
deriving Repr, DecidableEq, Inhabited

def Operation.script (target : Target) : Operation → Script (Except StoreError Unit)
  | .create => target.create
  | .openMarker => target.openMarker
  | .closeMarker => target.closeMarker
  | .delete => target.delete
  | .transition flag value => target.transition flag value

end CrashMarker
