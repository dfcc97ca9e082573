/-
Module: CrashMarker.Main
Purpose: The command line on the files of the machine it runs on.
Main exports: Machine, Machine.answer, interpret, main
-/
import CrashMarker.CommandLine.Program
import CrashMarker.Table

namespace CrashMarker.CommandLine

/-!
The scripts of the library run here on real files.  Each action is carried out as it comes: a call
goes to the operating system, an event is printed.  A handle is closed when the last reference to
it goes.
-/

/-- The open files and the state of the one store that a command uses. -/
structure Machine where
  handles : Table Handle IO.FS.Handle := {}
  nextHandle : Nat := 0
  cached : Record := .clean
  lifecycle : Lifecycle := {}

/-- The number that the operating system gave with an error. -/
def errorCode : IO.Error → Option Nat
  | .alreadyExists _ code _ => some code.toNat
  | .otherError code _ => some code.toNat
  | .resourceBusy code _ => some code.toNat
  | .resourceVanished code _ => some code.toNat
  | .unsupportedOperation code _ => some code.toNat
  | .hardwareFault code _ => some code.toNat
  | .unsatisfiedConstraints code _ => some code.toNat
  | .illegalOperation code _ => some code.toNat
  | .protocolError code _ => some code.toNat
  | .timeExpired code _ => some code.toNat
  | .interrupted _ code _ => some code.toNat
  | .noFileOrDirectory _ code _ => some code.toNat
  | .invalidArgument _ code _ => some code.toNat
  | .permissionDenied _ code _ => some code.toNat
  | .resourceExhausted _ code _ => some code.toNat
  | .inappropriateType _ code _ => some code.toNat
  | .noSuchThing _ code _ => some code.toNat
  | .unexpectedEof => none
  | .userError _ => none

/-- What the operating system refused, in the terms of the library. -/
def refusal (error : IO.Error) : IoError :=
  match error with
  | .interrupted _ _ _ => .bare .interrupted
  | error =>
    match (errorCode error).bind SystemError.ofCode? with
    | some error => .system error
    | none => .explained .uncategorized (toString error)

/-- The refusal of a call that knows its path. -/
def refusalAt (path : Path) (error : IO.Error) : StorageError :=
  match refusal error with
  | .system error => .ofSystem path error
  | cause => .io cause

/-- Carry something out and hand back what the operating system refused. -/
def attempt {α : Type} (raise : IO.Error → StorageError) (body : IO α) :
    IO (Except StorageError α) := do
  match ← body.toBaseIO with
  | .ok value => return .ok value
  | .error error => return .error (raise error)

/-- Whether something is at a path, at the end of all links.  Opening for reading tells it, since a
directory can be opened that way too. -/
def isPresent (path : Path) : IO (Except StorageError Bool) := do
  match ← (IO.FS.Handle.mk path.text .read).toBaseIO with
  | .ok _ => return .ok true
  | .error error =>
    let cause := refusal error
    return if cause.kind = .notFound then .ok false else .error (.io cause)

/-- Remove a file.  Opening it first tells a directory apart, which is not to be removed. -/
def removeFile (path : Path) : IO (Except StorageError Unit) := do
  match ← (IO.FS.Handle.mk path.text .readWrite).toBaseIO with
  | .error error =>
    if errorCode error = some SystemError.isADirectory.code then
      return .error (.io (.system .isADirectory))
  | .ok _ => pure ()
  attempt (refusalAt path) (IO.FS.removeFile path.text)

/-- Move to a position of a file, and tell how many bytes are missing up to there. -/
def seek (file : IO.FS.Handle) (offset : Nat) : IO Nat := do
  file.rewind
  let skipped ← file.read offset.toUSize
  return offset - skipped.size

namespace Machine

def withFile {α : Type} (machine : Machine) (handle : Handle) (body : IO.FS.Handle → IO α) :
    IO (Except StorageError α) :=
  match machine.handles.get? handle with
  | none => return .error (.io (.system .badDescriptor))
  | some file => attempt (fun error => .io (refusal error)) (body file)

def answer (machine : Machine) : (request : Request) → IO (request.Answer × Machine)
  | .present path => return (← isPresent path, machine)
  | .createNew path => do
    let made ← attempt (refusalAt path) (discard (IO.FS.Handle.mk path.text .writeNew))
    return (made, machine)
  | .remove path => return (← removeFile path, machine)
  | .openFile path => do
    match ← attempt (refusalAt path) (IO.FS.Handle.mk path.text .readWrite) with
    | .error cause => return (.error cause, machine)
    | .ok file =>
      let handle : Handle := ⟨machine.nextHandle⟩
      return (.ok handle,
        { machine with
          handles := machine.handles.set handle file
          nextHandle := machine.nextHandle + 1 })
  | .readAt handle offset count => do
    let bytes ← machine.withFile handle fun file => do
      let missing ← seek file offset
      if missing = 0 then
        return (← file.read count.toUSize).toList
      return []
    return (bytes, machine)
  | .writeAt handle offset bytes => do
    let moved ← machine.withFile handle fun file => do
      let missing ← seek file offset
      file.write ⟨(List.replicate missing 0 ++ bytes).toArray⟩
      file.flush
      return bytes.length
    return (moved, machine)
  | .size handle => do
    let size ← machine.withFile handle fun file => do
      file.rewind
      return (← file.readBinToEnd).size
    return (size, machine)
  | .sync handle => do
    return (← machine.withFile handle fun file => file.flush, machine)
  | .tryLock handle => do
    return (← machine.withFile handle fun file => file.tryLock, machine)
  | .unlock handle => do
    return (← machine.withFile handle fun file => file.unlock, machine)

def perform (verbose : Bool) (machine : Machine) :
    (action : Action) → IO (action.Answer × Machine)
  | .ask request => machine.answer request
  | .close handle => return ((), { machine with handles := machine.handles.erase handle })
  | .emit event => do
    if isShown verbose event then
      IO.println event.line
    return ((), machine)
  | .load flag => return (machine.cached.get flag, machine)
  | .store flag value => return ((), { machine with cached := machine.cached.set flag value })
  | .acquire => return (machine.lifecycle, machine)
  | .release lifecycle => return ((), { machine with lifecycle })

partial def interpret {α : Type} (verbose : Bool) (machine : Machine) (script : Script α) :
    IO α := do
  match script.head with
  | .finished result => return result
  | .acting action next =>
    let (answer, machine) ← machine.perform verbose action
    machine.interpret verbose (next answer)

end Machine

/-- Run a command line and tell how it ends. -/
def execute (arguments : List String) : IO Exit := do
  match Invocation.ofArguments arguments with
  | .error ending => return .ofEnding ending
  | .ok invocation =>
    let machine : Machine := {}
    return .ofResult (← machine.interpret invocation.verbose invocation.script.run)

end CrashMarker.CommandLine

open CrashMarker.CommandLine in
def main (arguments : List String) : IO UInt32 := do
  let exit ← execute arguments
  IO.print exit.output
  match exit.complaint with
  | some complaint => IO.eprint complaint
  | none => IO.eprintln "error: the command line makes no sense"
  return exit.code.toUInt32
