/-
Module: CrashMarker.CommandLine.Commands
Purpose: What commands do, and how a run of the command line ends.
Main exports: CommandError, Invocation.script, Exit, Finished, runLine
-/
import CrashMarker.CommandLine.Invocation
import CrashMarker.CommandLine.Inspection
import CrashMarker.Store

namespace CrashMarker.CommandLine

open Text

def versionNumber : String := "0.1.0"

inductive CommandError where
  /-- The command works on a marker and none is given. -/
  | pathRequired (command : Command)
  /-- A flag is to be changed where there is no marker. -/
  | noMarker (path : Path)
  | store (error : StoreError)
deriving Repr, DecidableEq, Inhabited

/-- The error as the command line reports it. -/
def CommandError.diagnostic : CommandError → String
  | .pathRequired command => quoted s!"Marker path required for {command.name}"
  | .noMarker path => quoted s!"No marker found at {quoted path.text}"
  | .store error => error.diagnostic

/-- Run part of a command and fail as it does. -/
def require {α : Type} (part : Script (Except StoreError α)) : ExceptT CommandError Script α :=
  ExceptT.mk do
    match ← part with
    | .ok value => return .ok value
    | .error error => return .error (.store error)

def inspectMarker (path : Path) (format : String) : ExceptT CommandError Script String := do
  let snapshot ← require (inspect path)
  return Inspection.render ⟨path, snapshot⟩ format

/-- Close the marker after a change, and fail if closing or else the change failed. -/
def finish (target : Target) (changed : Except StoreError Unit) :
    ExceptT CommandError Script Unit := do
  require target.closeMarker
  require (.done changed)

/-- Bring a flag of an existing marker to a value and tell both flags. -/
def changeFlag (path : Path) (flag : Flag) (value : Bool) : ExceptT CommandError Script String := do
  let target : Target := { path }
  Script.emit (.applying (Command.transition flag value).name path)
  if !(← require target.present) then
    throw (.noMarker path)
  require target.openMarker
  let changed ← ExceptT.lift (target.transition flag value)
  finish target changed
  let dirty ← ExceptT.lift (Script.perform (.load .dirty))
  let rebuild ← ExceptT.lift (Script.perform (.load .rebuild))
  return s!"dirty={dirty} index_rebuild_scheduled={rebuild}\n"

/-- Replace a marker by a fresh one and mark it clean. -/
def resetMarker (path : Path) : ExceptT CommandError Script String := do
  let target : Target := { path }
  Script.emit (.resetting path)
  require target.create
  let changed ← ExceptT.lift (target.transition .dirty false)
  finish target changed
  return s!"Marker reset: {path.text}\n"

/-- What is printed when the version command is given. -/
def versionReport : String :=
  s!"dirtymark CLI v{versionNumber}\ndirtymark Core v{versionNumber}\n"

/-- What is printed when the version option is given. -/
def versionLine : String := s!"dirtymark {versionNumber}\n"

def Invocation.requirePath (invocation : Invocation) : ExceptT CommandError Script Path :=
  match invocation.path with
  | some path => return path
  | none => throw (.pathRequired invocation.command)

/-- What a command does, and what it prints when it goes well. -/
def Invocation.script (invocation : Invocation) : ExceptT CommandError Script String :=
  match invocation.command with
  | .version => return versionReport
  | .inspect format => do inspectMarker (← invocation.requirePath) format
  | .transition flag value => do changeFlag (← invocation.requirePath) flag value
  | .reset => do resetMarker (← invocation.requirePath)

/-- How a run of the command line ends. -/
structure Exit where
  code : Nat
  output : String := ""
  /-- What is printed as an error; nothing is said here about a command line that makes no sense. -/
  complaint : Option String := some ""
deriving Repr, DecidableEq, Inhabited

/-- How a run ends that comes to no command. -/
def Exit.ofEnding : Ending → Exit
  | .version => { code := 0, output := versionLine }
  | .help => { code := 0 }
  | .misuse => { code := 2, complaint := none }

/-- How a run ends with the result of its command. -/
def Exit.ofResult : Except CommandError String → Exit
  | .ok output => { code := 0, output }
  | .error error => { code := 1, complaint := some s!"Error: {error.diagnostic}\n" }

/-- Whether an event is shown.  Details are for those who ask for them. -/
def isShown (verbose : Bool) (event : Event) : Bool := verbose || event.level ≠ .debug

/-- What comes of a run of the command line on a storage. -/
structure Finished (σ : Type) where
  exit : Exit
  log : List String := []
  storage : σ

/-- More actions than a command takes on a storage that interrupts nothing. -/
def actionLimit : Nat := 1000

/-- Run a command line on a storage, however it is read, if it ends within `actionLimit` actions. -/
def runLine {σ : Type} [Storage σ] (read : Reader) (arguments : List String) (storage : σ) :
    Option (Finished σ) :=
  match read arguments with
  | .error ending => some { exit := .ofEnding ending, storage }
  | .ok invocation =>
    let world : World σ := { storage }
    (invocation.script.run.run actionLimit world).map fun (result, world) =>
      { exit := .ofResult result
        log := (world.events.filter (isShown invocation.verbose)).map (·.line)
        storage := world.storage }

end CrashMarker.CommandLine
