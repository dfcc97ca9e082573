/-
Module: CrashMarker.CommandLine.Program
Purpose: The command line as a whole: its spelling together with its commands.
Main exports: runProgram, runProgramBeside
-/
import CrashMarker.CommandLine.Arguments
import CrashMarker.CommandLine.Commands

namespace CrashMarker.CommandLine

/-- Run a command line on a storage. -/
def runProgram {σ : Type} [Storage σ] : List String → σ → Option (Finished σ) :=
  runLine Invocation.ofArguments

/-- Run a command line while another store has the marker at a path open.  That store takes the lock
before the command starts, and vanishes after it has ended. -/
def runProgramBeside {σ : Type} [Storage σ] (held : Path) (arguments : List String) (storage : σ) :
    Option (Finished σ) := do
  let holder : Store := { target := { path := held } }
  let ran ← holder.run actionLimit holder.target.openMarker storage
  let finished ← runProgram arguments ran.storage
  return { finished with storage := ran.store.crash finished.storage }

end CrashMarker.CommandLine
