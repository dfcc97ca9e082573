/-
Module: CrashMarker.CommandLine.Invocation
Purpose: What a command line can ask for, apart from how it is spelled.
Main exports: Command, Command.name, Invocation, Ending, Reader
-/
import CrashMarker.Record
import CrashMarker.Path

namespace CrashMarker.CommandLine

/-- What can be asked for. -/
inductive Command where
  /-- Show the flags of a marker without touching it. -/
  | inspect (format : String)
  /-- Bring one flag to a value. -/
  | transition (flag : Flag) (value : Bool)
  /-- Replace a marker by a fresh clean one. -/
  | reset
  /-- Tell the version. -/
  | version
deriving Repr, DecidableEq, Inhabited

def Command.name : Command → String
  | .inspect _ => "inspect"
  | .transition .dirty true => "mark-dirty"
  | .transition .dirty false => "mark-clean"
  | .transition .rebuild true => "schedule-rebuild"
  | .transition .rebuild false => "clear-rebuild"
  | .reset => "reset"
  | .version => "version"

/-- A command line that makes sense. -/
structure Invocation where
  command : Command
  path : Option Path := none
  verbose : Bool := false
deriving Repr, DecidableEq, Inhabited

/-- Why the reading of a command line stops before its end. -/
inductive Ending where
  /-- The version is asked for, whatever else follows. -/
  | version
  /-- Help is asked for, whatever else follows. -/
  | help
  /-- The words make no sense. -/
  | misuse
deriving Repr, DecidableEq, Inhabited

/-- A way to read command lines. -/
abbrev Reader := List String → Except Ending Invocation

end CrashMarker.CommandLine
