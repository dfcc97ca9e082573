/-
Module: CrashMarker.Proofs.Writing
Purpose: Writing a buffer moves exactly its bytes, in order, however the writes are answered.
Main exports: Drains, Writing, writeFull_moves_exactly
-/
import CrashMarker.Proofs.Memory.Sighted
import CrashMarker.Proofs.Traces.Turns

namespace CrashMarker

/-!
The handle may accept any number of the bytes it is offered, interrupt the write, accept none, or fail.
What has been accepted is a beginning of the buffer all along, because every write offers all that the
writes before have left over, and places it right behind.  So the count in the error of a write that has
stalled is the number of bytes that stand in the file.
-/

variable {handle : Handle} {offset : Nat} {bytes : List UInt8} {taken : List Taken}

/-! ## Whatever the answers are -/

/-- Every call offers what the calls before it have left of the buffer, and what has been accepted is a
beginning of the buffer, byte after byte from the offset on. -/
structure Drains (handle : Handle) (offset : Nat) (bytes : List UInt8) (taken : List Taken) : Prop where
  offers : Due (fun early => .ask (.writeAt handle (offset + (accepted early).length)
    (bytes.drop (accepted early).length))) taken
  inOrder : accepted taken = laid handle offset (bytes.take (accepted taken).length)

namespace Drains

/-- Nothing has been offered before the first call. -/
theorem nil (handle : Handle) (offset : Nat) (bytes : List UInt8) : Drains handle offset bytes [] :=
  ⟨due_nil _, rfl⟩

theorem length_le (drains : Drains handle offset bytes taken) :
    (accepted taken).length ≤ bytes.length := by
  have length := congrArg List.length drains.inOrder
  rw [length_laid, List.length_take] at length
  omega

/-- A write that goes on where the accepted bytes end adds a piece of the buffer to them. -/
theorem concat (drains : Drains handle offset bytes taken) {written : Nat}
    (count : (accepted taken).length = written)
    (answer : (Request.writeAt handle (offset + written) (bytes.drop written)).Answer) :
    Drains handle offset bytes
      (taken ++ [⟨.ask (.writeAt handle (offset + written) (bytes.drop written)), answer⟩]) where
  offers := drains.offers.concat (by rw [count])
  inOrder := by
    have within := drains.length_le
    have before := drains.inOrder
    rw [count] at within before
    rw [accepted_append, accepted_cons, accepted_nil, List.append_nil]
    cases answer with
    | error cause =>
      simp only [Taken.accepted, List.append_nil, count]
      exact before
    | ok moved =>
      have onward : accepted taken ++ laid handle (offset + written) ((bytes.drop written).take moved) =
          laid handle offset (bytes.take (written + moved)) := by
        rw [before, List.take_add, laid_append, List.length_take_of_le within]
      rw [Taken.accepted, onward, length_laid, List.length_take, ← List.take_eq_take_min]

end Drains

/-- How far the writing of a buffer has come with the actions taken, and what has been decided. -/
def Writing (handle : Handle) (offset : Nat) (bytes : List UInt8) (taken : List Taken) :
    Turn Nat (Except StoreError Unit) → Prop
  | .again written => Drains handle offset bytes taken ∧ (accepted taken).length = written ∧
      Ongoing bytes.length written taken
  | .stop outcome => Drains handle offset bytes taken ∧ Concludes bytes.length (accepted taken).length
      (.stalled (accepted taken).length bytes.length) taken outcome

/-- Every answer to a write takes the writing one step further or ends it. -/
theorem Writing.step {written : Nat} (writing : Writing handle offset bytes taken (.again written))
    (answer : (Request.writeAt handle (offset + written) (bytes.drop written)).Answer) :
    Writing handle offset bytes
      (taken ++ [⟨.ask (.writeAt handle (offset + written) (bytes.drop written)), answer⟩])
      (writeTurn bytes.length written answer) := by
  obtain ⟨drains, count, ongoing⟩ := writing
  have onward := drains.concat count answer
  have grows : (accepted (taken ++
      [⟨.ask (.writeAt handle (offset + written) (bytes.drop written)), answer⟩])).length =
        written + (Taken.accepted
          ⟨.ask (.writeAt handle (offset + written) (bytes.drop written)), answer⟩).length := by
    rw [accepted_append, accepted_cons, accepted_nil, List.append_nil, List.length_append, count]
  match answer with
  | .error cause =>
    have stays : (accepted (taken ++
      [⟨.ask (.writeAt handle (offset + written) (bytes.drop written)), .error cause⟩])).length =
        written := grows
    by_cases interrupted : cause.isInterrupted
    · simp only [writeTurn, interrupted, if_true]
      exact ⟨onward, stays, ongoing.interrupted (by simp [Taken.upshot, interrupted])⟩
    · simp only [writeTurn, interrupted]
      refine ⟨onward, ?_⟩
      rw [stays]
      exact ongoing.failed (by simp [Taken.upshot, interrupted]) nofun
  | .ok 0 =>
    have stays : (accepted (taken ++
      [⟨.ask (.writeAt handle (offset + written) (bytes.drop written)), .ok 0⟩])).length =
        written := grows
    refine ⟨onward, ?_⟩
    rw [stays]
    exact ongoing.stalled rfl nofun
  | .ok (moved + 1) =>
    simp only [Taken.accepted, length_laid, List.length_take, List.length_drop] at grows
    simp only [writeTurn]
    by_cases further : written + (moved + 1) < bytes.length
    · simp only [further, if_true]
      exact ⟨onward, by omega, ongoing.further rfl (by omega) further⟩
    · simp only [further, if_false]
      have whole : written + min (moved + 1) (bytes.length - written) = bytes.length := by
        have short := ongoing.short
        omega
      refine ⟨onward, ?_⟩
      rw [grows, whole]
      exact ongoing.full rfl

/-- Whatever has been decided, the calls made are writes of the buffer in order, and all but the
interrupted ones and the last have moved a byte. -/
theorem Writing.drains {decision : Turn Nat (Except StoreError Unit)}
    (writing : Writing handle offset bytes taken decision) :
    Drains handle offset bytes taken ∧ taken.length ≤ bytes.length + interruptions taken := by
  cases decision with
  | again written =>
    obtain ⟨drains, -, ongoing⟩ := writing
    have short := ongoing.short
    have steps := ongoing.steps
    exact ⟨drains, by omega⟩
  | stop outcome => exact ⟨writing.1, writing.2.steps⟩

section Passages

variable {σ : Type} [Storage σ] {conduct : Conduct σ} {world after : World σ}

/-- Wherever the writing of a buffer gets to, it has come so far. -/
theorem Script.Passes.writing {last : Script (Except StoreError Unit)}
    (passes : Passes conduct (writeFull handle offset bytes) world taken last after) :
    ∃ decision, Writing handle offset bytes taken decision ∧
      ∀ outcome, last = .done outcome → decision = .stop outcome := by
  unfold writeFull at passes
  by_cases empty : bytes.length = 0
  · rw [if_pos empty] at passes
    cases passes with
    | here =>
      refine ⟨.stop (.ok ()), ⟨.nil handle offset bytes, ?_⟩, fun outcome same => ?_⟩
      · rw [empty]
        exact concludes_nothing
      · cases same
        rfl
    | step acting => cases acting
  · rw [if_neg empty] at passes
    apply Passes.of_asking ?_ ?_ passes
    · exact ⟨.nil handle offset bytes, rfl, ongoing_nil (Nat.pos_of_ne_zero empty)⟩
    · intro sofar written answer _ _ writing _
      exact writing.step answer

end Passages

/-- Writing a buffer moves exactly its bytes.  However the writes are answered, each offers what is left
of the buffer right behind what has been accepted, and what has been accepted is a beginning of the
buffer.  The writing comes to an end if it is interrupted only so often.  It succeeds exactly if all bytes
have been accepted; otherwise its error tells how many were when a write accepted none, or is that of the
first write which failed otherwise than by an interruption.  On a memory it always succeeds, with the
buffer laid over the file, nothing else changed, and no more writes than the bytes need. -/
theorem writeFull_moves_exactly (handle : Handle) (offset : Nat) (bytes : List UInt8) :
    (∀ (σ : Type) [Storage σ] (conduct : Conduct σ) (world : World σ),
      (∀ taken last after,
        Script.Passes conduct (writeFull handle offset bytes) world taken last after →
          Drains handle offset bytes taken ∧ taken.length ≤ bytes.length + interruptions taken) ∧
      (∀ taken outcome after, (writeFull handle offset bytes).Ends conduct world taken outcome after →
        Concludes bytes.length (accepted taken).length
          (.stalled (accepted taken).length bytes.length) taken outcome) ∧
      (∀ limit, (writeFull handle offset bytes).Interrupted conduct world limit →
        (writeFull handle offset bytes).Reaches conduct (fun _ _ => True) world)) ∧
    (∀ (world : World Memory) (object : ObjectId) (file : FileObject),
      world.storage.Behind handle object file → bytes ≠ [] →
        (writeFull handle offset bytes).Completes world fun taken outcome after =>
          outcome = .ok () ∧
          after = { world with storage := world.storage.afterWriting object offset bytes } ∧
          after.storage.Behind handle object { file with
            bytes := file.bytes.take offset ++ List.replicate (offset - file.bytes.length) 0 ++
              bytes ++ file.bytes.drop (offset + bytes.length) } ∧
          after.storage.writeCalls = world.storage.writeCalls +
            (if world.storage.maxTransfer = 0 then 1
              else (bytes.length + world.storage.maxTransfer - 1) / world.storage.maxTransfer) ∧
          taken.length = world.storage.interrupts +
            (after.storage.writeCalls - world.storage.writeCalls)) ∧
    (bytes = [] → writeFull handle offset bytes = .done (.ok ())) := by
  refine ⟨?_, ?_, ?_⟩
  · intro σ _ conduct world
    refine ⟨?_, ?_, ?_⟩
    · intro taken last after passes
      obtain ⟨decision, writing, -⟩ := passes.writing
      exact writing.drains
    · intro taken outcome after ended
      obtain ⟨decision, writing, decided⟩ := Script.Passes.writing ended
      rw [decided outcome rfl] at writing
      exact writing.2
    · intro limit interrupted
      apply interrupted.reaches
      intro taken last after passes
      obtain ⟨decision, writing, -⟩ := passes.writing
      exact writing.drains.2
  · intro world object file behind nonempty
    have some : 0 < bytes.length := List.length_pos_iff.2 nonempty
    apply (behind.completes_writeFull offset some).mono
    rintro taken outcome after ⟨rfl, rfl, steps⟩
    have laid := behind.afterWriting offset bytes
    rw [overlay_eq] at laid
    have calls : (world.storage.afterWriting object offset bytes).writeCalls =
        world.storage.writeCalls + Memory.writesFor world.storage.maxTransfer bytes.length := rfl
    refine ⟨rfl, rfl, laid, ?_, ?_⟩
    · rw [calls, Memory.writesFor_of_pos _ some]
    · rw [steps, calls, Nat.add_sub_cancel_left]
  · rintro rfl
    rfl

/-- A memory that moves two bytes at a time and interrupts once, with a file of one byte open. -/
def slowFile : World Memory where
  storage :=
    { (({} : Memory).put ⟨"marker"⟩ [9]).withHandle ⟨0⟩ with maxTransfer := 2, interrupts := 1 }

/-- Three bytes behind the end of the file take two writes and the one that is interrupted, and leave a
zero in the gap. -/
theorem writeFull_moves_exactly_behind_end : ∃ taken after,
    (writeFull ⟨0⟩ 2 [1, 2, 3]).Ends (Conduct.honest Memory) slowFile taken (.ok ()) after ∧
      accepted taken = laid ⟨0⟩ 2 [1, 2, 3] ∧ taken.length = 3 ∧ after.storage.writeCalls = 2 ∧
      after.storage.contents ⟨"marker"⟩ = some [9, 0, 1, 2, 3] := by
  obtain ⟨passages, onMemory, -⟩ := writeFull_moves_exactly ⟨0⟩ 2 [1, 2, 3]
  have behind : slowFile.storage.Behind ⟨0⟩ ⟨0⟩ { bytes := [9] } := ⟨by decide, by decide⟩
  obtain ⟨taken, outcome, after, ended, rfl, rfl, -, -, steps⟩ := onMemory _ _ _ behind nofun
  obtain ⟨drained, concluded, -⟩ := passages Memory (Conduct.honest Memory) slowFile
  have whole := (concluded _ _ _ ended).whole.1 rfl
  have inOrder := (drained _ _ _ ended).1.inOrder
  rw [whole, List.take_length] at inOrder
  exact ⟨taken, _, ended, inOrder, steps, by decide, by decide⟩

end CrashMarker
