/-
Module: CrashMarker.Proofs.Reading
Purpose: Reading into a buffer fills exactly a beginning of it, and tells where the file has ended.
Main exports: Taken.pour, Gathers, Reading, readFull_fills_exactly
-/
import CrashMarker.Proofs.Durability
import CrashMarker.Proofs.Memory.Sighted
import CrashMarker.Proofs.Traces.Turns

namespace CrashMarker

/-!
A read may yield fewer bytes than there is room for.  Every read asks for what the reads before have left
of the buffer, from where they have stopped, so what has been gathered is the beginning of what stands in
the file, and the count in the error of a file that has ended early is the number of bytes gathered.
-/

/-- A buffer that stands at an offset of the file, once the bytes of a read have been put where they
belong. -/
def Taken.pour (offset : Nat) (buffer : List UInt8) : Taken → List UInt8
  | ⟨.ask (.readAt _ position _), .ok chunk⟩ => overlay buffer (position - offset) chunk
  | _ => buffer

variable {handle : Handle} {offset count : Nat} {sofar : List UInt8} {taken : List Taken}

/-! ## Whatever the answers are -/

/-- Every call asks for what the calls before it have left of the buffer, what was yielded are the bytes
gathered so far, one after the other from the offset on, and they alone have changed the buffer. -/
structure Gathers (handle : Handle) (offset count : Nat) (sofar : List UInt8) (taken : List Taken) :
    Prop where
  asks : Due (fun early => .ask (.readAt handle (offset + (received early).length)
    (count - (received early).length))) taken
  inOrder : received taken = laid handle offset sofar
  pours : ∀ buffer, taken.foldl (Taken.pour offset) buffer = sofar ++ buffer.drop sofar.length

namespace Gathers

/-- Nothing has been gathered before the first call. -/
theorem nil (handle : Handle) (offset count : Nat) : Gathers handle offset count [] [] :=
  ⟨due_nil _, rfl, fun _ => rfl⟩

/-- The next call asks for what is then missing of the buffer. -/
theorem asks_concat (gathers : Gathers handle offset count sofar taken)
    (answer : (Request.readAt handle (offset + sofar.length) (count - sofar.length)).Answer) :
    Due (fun early => .ask (.readAt handle (offset + (received early).length)
      (count - (received early).length)))
      (taken ++ [⟨.ask (.readAt handle (offset + sofar.length) (count - sofar.length)), answer⟩]) :=
  gathers.asks.concat (by rw [gathers.inOrder, length_laid])

/-- A read that fails adds nothing. -/
theorem failed (gathers : Gathers handle offset count sofar taken) (cause : StorageError) :
    Gathers handle offset count sofar (taken ++
      [⟨.ask (.readAt handle (offset + sofar.length) (count - sofar.length)), .error cause⟩]) where
  asks := gathers.asks_concat _
  inOrder := by
    rw [received_append, gathers.inOrder]
    exact List.append_nil _
  pours buffer := by
    rw [List.foldl_append, gathers.pours]
    rfl

/-- A read that goes on where the gathered bytes end adds what it yields to them. -/
theorem yielded (gathers : Gathers handle offset count sofar taken) (chunk : List UInt8) :
    Gathers handle offset count (sofar ++ chunk) (taken ++
      [⟨.ask (.readAt handle (offset + sofar.length) (count - sofar.length)), .ok chunk⟩]) where
  asks := gathers.asks_concat _
  inOrder := by
    rw [received_append, gathers.inOrder, laid_append]
    exact congrArg _ (List.append_nil _)
  pours buffer := by
    have filled := overlay_append buffer 0 sofar chunk
    rw [overlay_zero, overlay_zero, Nat.zero_add] at filled
    rw [List.foldl_append, gathers.pours]
    simp only [List.foldl_cons, List.foldl_nil, Taken.pour, Nat.add_sub_cancel_left]
    exact filled

end Gathers

/-- How far the reading into a buffer has come with the actions taken, and what has been decided. -/
def Reading (handle : Handle) (offset count : Nat) (taken : List Taken) :
    Turn (List UInt8) Filled → Prop
  | .again sofar => Gathers handle offset count sofar taken ∧ Ongoing count sofar.length taken
  | .stop filled => Gathers handle offset count filled.bytes taken ∧ filled.bytes.length ≤ count ∧
      Concludes count filled.bytes.length (.truncated count filled.bytes.length) taken filled.outcome

/-- Every answer to a read takes the reading one step further or ends it. -/
theorem Reading.step (reading : Reading handle offset count taken (.again sofar))
    (answer : (Request.readAt handle (offset + sofar.length) (count - sofar.length)).Answer)
    (measured : ∀ chunk, answer = .ok chunk → chunk.length ≤ count - sofar.length) :
    Reading handle offset count
      (taken ++ [⟨.ask (.readAt handle (offset + sofar.length) (count - sofar.length)), answer⟩])
      (readTurn count sofar answer) := by
  obtain ⟨gathers, ongoing⟩ := reading
  have short := ongoing.short
  cases answer with
  | error cause =>
    have stays := gathers.failed cause
    by_cases interrupted : cause.isInterrupted
    · simp only [readTurn, interrupted, if_true]
      exact ⟨stays, ongoing.interrupted (by simp [Taken.upshot, interrupted])⟩
    · simp only [readTurn, interrupted]
      exact ⟨stays, Nat.le_of_lt short,
        ongoing.failed (by simp [Taken.upshot, interrupted]) fun _ => by simp⟩
  | ok chunk =>
    have onward := gathers.yielded chunk
    cases chunk with
    | nil =>
      rw [List.append_nil] at onward
      exact ⟨onward, Nat.le_of_lt short, ongoing.stalled rfl fun _ => by simp⟩
    | cons byte chunk =>
      have fits := measured _ rfl
      have length : (sofar ++ byte :: chunk).length = sofar.length + (byte :: chunk).length :=
        List.length_append
      have longer : sofar.length < (sofar ++ byte :: chunk).length := by
        rw [length, List.length_cons]
        omega
      simp only [readTurn]
      by_cases further : (sofar ++ byte :: chunk).length < count
      · simp only [further, if_true]
        exact ⟨onward, ongoing.further rfl longer further⟩
      · simp only [further, if_false]
        have whole : (sofar ++ byte :: chunk).length = count := by omega
        refine ⟨onward, Nat.le_of_eq whole, ?_⟩
        rw [whole]
        exact ongoing.full rfl

/-- Whatever has been decided, the calls made are reads into the buffer in order, and all but the
interrupted ones and the last have yielded a byte. -/
theorem Reading.gathers {decision : Turn (List UInt8) Filled}
    (reading : Reading handle offset count taken decision) :
    (∃ sofar, sofar.length ≤ count ∧ Gathers handle offset count sofar taken) ∧
      taken.length ≤ count + interruptions taken := by
  cases decision with
  | again sofar =>
    obtain ⟨gathers, ongoing⟩ := reading
    have short := ongoing.short
    have steps := ongoing.steps
    exact ⟨⟨sofar, Nat.le_of_lt short, gathers⟩, by omega⟩
  | stop filled =>
    obtain ⟨gathers, within, concludes⟩ := reading
    exact ⟨⟨filled.bytes, within, gathers⟩, concludes.steps⟩

/-- Wherever the reading into a buffer gets to, it has come so far. -/
theorem Script.Passes.reading {σ : Type} [Storage σ] {conduct : Conduct σ} {world after : World σ}
    {last : Script Filled} (measured : conduct.Measured)
    (passes : Passes conduct (readFull handle offset count) world taken last after) :
    ∃ decision, Reading handle offset count taken decision ∧
      ∀ filled, last = .done filled → decision = .stop filled := by
  unfold readFull at passes
  by_cases empty : count = 0
  · rw [if_pos empty] at passes
    cases passes with
    | here =>
      refine ⟨.stop ⟨[], .ok ()⟩, ⟨.nil handle offset count, Nat.zero_le _, ?_⟩, fun filled same => ?_⟩
      · rw [empty]
        exact concludes_nothing
      · cases same
        rfl
    | step acting => cases acting
  · rw [if_neg empty] at passes
    apply Passes.of_asking ?_ ?_ passes
    · exact ⟨.nil handle offset count, ongoing_nil (Nat.pos_of_ne_zero empty)⟩
    · intro early sofar answer before later reading answered
      refine reading.step answer ?_
      rintro chunk rfl
      exact measured answered

/-- Reading into a buffer fills exactly a beginning of it.  However the reads are answered, each asks for
what is left of the buffer from where the last one has stopped, and what they yield stands in the buffer
in order, with the rest as it was.  The reading comes to an end if it is interrupted only so often.  It
succeeds exactly if the buffer is full; otherwise its error tells how many bytes were read when a read
yielded none, or is that of the first read which failed otherwise than by an interruption.  On a memory
it yields what stands there from the offset on, as far as the buffer reaches, and changes nothing. -/
theorem readFull_fills_exactly (handle : Handle) (offset count : Nat) :
    (∀ (σ : Type) [Storage σ] (conduct : Conduct σ) (world : World σ), conduct.Measured →
      (∀ taken last after,
        Script.Passes conduct (readFull handle offset count) world taken last after →
          (∃ sofar, sofar.length ≤ count ∧ Gathers handle offset count sofar taken) ∧
            taken.length ≤ count + interruptions taken) ∧
      (∀ taken filled after, (readFull handle offset count).Ends conduct world taken filled after →
        Gathers handle offset count filled.bytes taken ∧ filled.bytes.length ≤ count ∧
          Concludes count filled.bytes.length (.truncated count filled.bytes.length) taken
            filled.outcome) ∧
      (∀ limit, (readFull handle offset count).Interrupted conduct world limit →
        (readFull handle offset count).Reaches conduct (fun _ _ => True) world)) ∧
    (∀ (world : World Memory) (object : ObjectId) (file : FileObject),
      world.storage.Behind handle object file →
        (readFull handle offset count).Completes world fun _ filled after =>
          filled.bytes = (file.bytes.drop offset).take count ∧
          filled.bytes.length = min count (file.bytes.length - offset) ∧
          filled.outcome = (if filled.bytes.length = count then .ok ()
            else .error (.truncated count filled.bytes.length)) ∧
          ∃ interrupts, interrupts ≤ world.storage.interrupts ∧
            after = { world with storage := { world.storage with interrupts } }) := by
  constructor
  · intro σ _ conduct world measured
    refine ⟨?_, ?_, ?_⟩
    · intro taken last after passes
      obtain ⟨decision, reading, -⟩ := passes.reading measured
      exact reading.gathers
    · intro taken filled after ended
      obtain ⟨decision, reading, decided⟩ := Script.Passes.reading measured ended
      rw [decided filled rfl] at reading
      exact reading
    · intro limit interrupted
      apply interrupted.reaches
      intro taken last after passes
      obtain ⟨decision, reading, -⟩ := passes.reading measured
      exact reading.gathers.2
  · intro world object file behind
    apply (behind.completes_readFull offset count).mono
    rintro taken filled after ⟨rfl, interrupts, fewer, -, rfl⟩
    refine ⟨rfl, ?_, Memory.fill_outcome _ _, interrupts, fewer, rfl⟩
    rw [Memory.fill, List.length_take, List.length_drop]

/-- A memory that moves two bytes at a time and interrupts once, with a file of four bytes open. -/
def shortFile : World Memory where
  storage :=
    { (({} : Memory).put ⟨"marker"⟩ [1, 2, 3, 4]).withHandle ⟨0⟩ with
      maxTransfer := 2, interrupts := 1 }

/-- A buffer for five bytes that is read into from the second byte of the file on gets three. -/
theorem readFull_fills_exactly_to_end : ∃ taken after,
    (readFull ⟨0⟩ 1 5).Ends (Conduct.honest Memory) shortFile taken
        ⟨[2, 3, 4], .error (.truncated 5 3)⟩ after ∧
      received taken = laid ⟨0⟩ 1 [2, 3, 4] ∧
      taken.foldl (Taken.pour 1) [9, 9, 9, 9, 9] = [2, 3, 4, 9, 9] := by
  obtain ⟨passages, onMemory⟩ := readFull_fills_exactly ⟨0⟩ 1 5
  have behind : shortFile.storage.Behind ⟨0⟩ ⟨0⟩ { bytes := [1, 2, 3, 4] } :=
    ⟨by decide, by decide⟩
  obtain ⟨taken, filled, after, ended, read, -, told, -⟩ := onMemory _ _ _ behind
  obtain ⟨-, concluded, -⟩ := passages Memory (Conduct.honest Memory) shortFile Memory.measured
  have bytes : filled.bytes = [2, 3, 4] := read
  rw [bytes] at told
  have same : filled = ⟨[2, 3, 4], .error (.truncated 5 3)⟩ := by
    cases filled
    cases bytes
    cases told
    rfl
  subst same
  obtain ⟨gathers, -, -⟩ := concluded _ _ _ ended
  exact ⟨taken, after, ended, gathers.inOrder, gathers.pours _⟩

end CrashMarker
