/-
Module: CrashMarker.Proofs.Memory.Sighted
Purpose: A file open under a handle, in a memory that may overstate sizes, interrupt transfers and cut
  them short.
Main exports:
  Memory.Behind.completes_readFull, Memory.writesFor, Memory.afterWriting,
  Memory.Behind.completes_writeFull, Memory.Sighted, Memory.Sighted.completes_writeFull,
  Memory.Sighted.file_close
-/
import CrashMarker.Proofs.Completes
import CrashMarker.Proofs.Memory.Served
import CrashMarker.Proofs.Serving

namespace CrashMarker

namespace Memory

variable {memory base : Memory} {handle : Handle} {object : ObjectId} {file : FileObject}

/-! ## Single calls -/

namespace Behind

/-- Work through a handle is work on the file behind it. -/
theorem withObject_eq (behind : memory.Behind handle object file) {α : Type}
    (body : ObjectId → FileObject → Except StorageError α × Memory) :
    memory.withObject handle body = body object file := by
  simp only [withObject, behind.bound, behind.there]

theorem size_eq (behind : memory.Behind handle object file) :
    memory.size handle = (.ok (wordSum file.bytes.length memory.extraSize), memory) :=
  behind.withObject_eq _

theorem sync_eq (behind : memory.Behind handle object file) :
    memory.sync handle = (.ok (), memory) :=
  behind.withObject_eq _

/-- A read is interrupted as long as interruptions are left, and otherwise yields what it can move. -/
theorem readAt_eq (behind : memory.Behind handle object file) (offset count : Nat) :
    memory.readAt handle offset count =
      match memory.interrupts with
      | interrupts + 1 => (.error (.io (.bare .interrupted)), { memory with interrupts })
      | 0 => (.ok ((file.bytes.drop offset).take (memory.transferLength count)), memory) :=
  behind.withObject_eq _

/-- A write is interrupted as long as interruptions are left, and otherwise takes what it can move. -/
theorem writeAt_eq (behind : memory.Behind handle object file) (offset : Nat) {bytes : List UInt8}
    (nonempty : 0 < bytes.length) :
    memory.writeAt handle offset bytes =
      match memory.interrupts with
      | interrupts + 1 => (.error (.io (.bare .interrupted)), { memory with interrupts })
      | 0 =>
        let moved := memory.transferLength bytes.length
        let changed := memory.updateObject object fun file =>
          { file with bytes := overlay file.bytes offset (bytes.take moved) }
        (.ok moved, { changed with writeCalls := memory.writeCalls + 1 }) := by
  have notEmpty : bytes.isEmpty = false := by
    cases bytes with
    | nil => cases nonempty
    | cons byte rest => rfl
  rw [writeAt, behind.withObject_eq, notEmpty]
  cases memory.interrupts <;> rfl

/-- A lock that nobody has can be taken. -/
theorem tryLock_eq (behind : memory.Behind handle object file) (free : file.owner = none) :
    memory.tryLock handle =
      (.ok true, memory.updateObject object fun file => { file with owner := some handle }) := by
  rw [tryLock, behind.withObject_eq, free]

theorem interrupted (behind : memory.Behind handle object file) (interrupts : Nat) :
    ({ memory with interrupts } : Memory).Behind handle object file :=
  ⟨behind.bound, behind.there⟩

end Behind

theorem writeCalls_close (memory : Memory) (handle : Handle) :
    (memory.close handle).writeCalls = memory.writeCalls := by
  unfold close
  split <;> rfl

/-! ## Reading -/

/-- What filling a buffer from the rest of a file comes to. -/
def fill (rest : List UInt8) (count : Nat) : Filled :=
  ⟨rest.take count,
    if count ≤ rest.length then .ok () else .error (.truncated count rest.length)⟩

/-- The buffer is full, or the error tells how far it was filled. -/
theorem fill_outcome (rest : List UInt8) (count : Nat) :
    (fill rest count).outcome = if (fill rest count).bytes.length = count then .ok ()
      else .error (.truncated count (fill rest count).bytes.length) := by
  simp only [fill, List.length_take]
  by_cases enough : count ≤ rest.length
  · rw [if_pos enough, if_pos (Nat.min_eq_left enough)]
  · rw [if_neg enough, Nat.min_eq_right (Nat.le_of_not_le enough), if_neg (by omega)]

/-- What the answer to one read makes of the bytes read so far. -/
theorem readTurn_fill {rest sofar : List UInt8} {count moved : Nat} (short : sofar.length < count)
    (same : sofar = rest.take sofar.length) (some : 0 < moved) (bound : moved ≤ count - sofar.length) :
    match readTurn count sofar (.ok ((rest.drop sofar.length).take moved)) with
    | .again following => following = rest.take following.length ∧ following.length < count ∧
        sofar.length < following.length
    | .stop filled => filled = fill rest count := by
  have within : sofar.length ≤ rest.length := by
    have length := congrArg List.length same
    rw [List.length_take] at length
    omega
  by_cases ended : rest.length ≤ sofar.length
  · have nothing : (rest.drop sofar.length).take moved = [] := by
      rw [List.drop_of_length_le ended, List.take_nil]
    have whole : sofar = rest := same.trans (List.take_of_length_le ended)
    subst whole
    rw [nothing, readTurn, fill, List.take_of_length_le (Nat.le_of_lt short),
      if_neg (Nat.not_le_of_lt short)]
  · have length : ((rest.drop sofar.length).take moved).length =
        min moved (rest.length - sofar.length) := by
      rw [List.length_take, List.length_drop]
    have onward : sofar ++ (rest.drop sofar.length).take moved = rest.take (sofar.length + moved) := by
      rw [List.take_add, ← same]
    rw [readTurn_ok (by omega), onward, List.length_take]
    by_cases further : min (sofar.length + moved) rest.length < count
    · rw [if_pos further]
      refine ⟨?_, ?_, ?_⟩
      · rw [List.length_take, ← List.take_eq_take_min]
      · rw [List.length_take]
        exact further
      · rw [List.length_take]
        omega
    · have enough : sofar.length + moved = count := by omega
      rw [if_neg further, enough, fill, if_pos (by omega)]

/-- Reading goes on through short reads and interruptions until the buffer is full or the file has
ended, and leaves nothing changed but the interruptions that are left.  Every read that is made brings a
byte or uses up an interruption, except for the last. -/
theorem Behind.completes_readFull {world : World Memory}
    (behind : world.storage.Behind handle object file) (offset count : Nat) :
    (readFull handle offset count).Completes world fun taken filled after =>
      filled = fill (file.bytes.drop offset) count ∧
        ∃ interrupts, interrupts ≤ world.storage.interrupts ∧
          taken.length + interrupts ≤ count + world.storage.interrupts ∧
          after = { world with storage := { world.storage with interrupts } } := by
  unfold readFull
  split
  next none =>
    subst none
    exact Script.completes_done ⟨by simp [fill], _, Nat.le_refl _, Nat.le_refl _, rfl⟩
  next wanted =>
    have rest : ∀ sofar, sofar.length < count →
        sofar = (file.bytes.drop offset).take sofar.length → (Script.cycle sofar
          (fun sofar => .ask (.readAt handle (offset + sofar.length) (count - sofar.length)))
          (fun sofar answer => .done (readTurn count sofar answer)) .done).Completes world
            fun taken filled after => filled = fill (file.bytes.drop offset) count ∧
              ∃ interrupts, interrupts ≤ world.storage.interrupts ∧
                taken.length + interrupts ≤ count - sofar.length + world.storage.interrupts ∧
                after = { world with storage := { world.storage with interrupts } } := by
      intro sofar short same
      -- Every turn uses up an interruption or brings bytes.
      induction measure : world.storage.interrupts + (count - sofar.length) using Nat.strongRecOn
        generalizing sofar world with
      | ind total inductionHypothesis =>
        have told := behind.readAt_eq (offset + sofar.length) (count - sofar.length)
        apply Script.completes_turn
        cases waits : world.storage.interrupts with
        | succ interrupts =>
          rw [waits] at told measure
          apply Script.completes_act_ask told
          apply Script.completes_done
          have less : interrupts + (count - sofar.length) < total := by omega
          apply (inductionHypothesis _ less (behind.interrupted interrupts) sofar short same rfl).mono
          rintro taken filled after ⟨filled, left, fewer, steps, rfl⟩
          refine ⟨filled, left, Nat.le_succ_of_le fewer, ?_, rfl⟩
          simp only [List.length_append, List.length_cons, List.length_nil] at steps ⊢
          omega
        | zero =>
          rw [waits] at told
          apply Script.completes_act_ask told
          apply Script.completes_done
          have turn := readTurn_fill short same
            (world.storage.transferLength_pos (Nat.sub_pos_of_lt short))
            (world.storage.transferLength_le _)
          rw [List.drop_drop] at turn
          cases decided : readTurn count sofar (.ok ((file.bytes.drop (offset + sofar.length)).take
              (world.storage.transferLength (count - sofar.length)))) with
          | again following =>
            rw [decided] at turn
            obtain ⟨onward, further, longer⟩ := turn
            rw [waits] at measure
            have less : world.storage.interrupts + (count - following.length) < total := by omega
            apply (inductionHypothesis _ less behind following further onward rfl).mono
            rintro taken filled after ⟨filled, left, fewer, steps, rfl⟩
            rw [waits] at fewer steps
            refine ⟨filled, left, fewer, ?_, rfl⟩
            simp only [List.length_append, List.length_cons, List.length_nil]
            omega
          | stop filled =>
            rw [decided] at turn
            refine Script.completes_done ⟨turn, 0, Nat.le_refl _, ?_, by rw [← waits]⟩
            simp only [List.length_append, List.length_cons, List.length_nil]
            omega
    exact rest [] (Nat.pos_of_ne_zero wanted) rfl

/-! ## Writing -/

/-- How many writes move a number of bytes, if each moves at most so many.  Zero means no limit. -/
def writesFor (cap count : Nat) : Nat := if cap = 0 then min 1 count else (count + cap - 1) / cap

theorem writesFor_of_pos (cap : Nat) {count : Nat} (some : 0 < count) :
    writesFor cap count = if cap = 0 then 1 else (count + cap - 1) / cap := by
  rw [writesFor, Nat.min_eq_left some]

theorem writesFor_zero (cap : Nat) : writesFor cap 0 = 0 := by
  unfold writesFor
  split
  · rfl
  · exact Nat.div_eq_of_lt (by omega)

/-- One write leaves as many to be made as its bytes leave others to be moved. -/
theorem writesFor_transferLength (memory : Memory) {count : Nat} (some : 0 < count) :
    writesFor memory.maxTransfer count =
      1 + writesFor memory.maxTransfer (count - memory.transferLength count) := by
  unfold writesFor transferLength
  by_cases unlimited : memory.maxTransfer = 0
  · simp only [unlimited, if_true]
    omega
  · simp only [unlimited, if_false]
    rcases Nat.le_total count memory.maxTransfer with last | more
    · rw [Nat.min_eq_left last, Nat.sub_self, Nat.zero_add,
        Nat.div_eq_of_lt (show memory.maxTransfer - 1 < memory.maxTransfer by omega)]
      have one : count + memory.maxTransfer - 1 = count - 1 + memory.maxTransfer := by omega
      rw [one, Nat.add_div_right _ (by omega), Nat.div_eq_of_lt (by omega)]
    · rw [Nat.min_eq_right more]
      have onward : count + memory.maxTransfer - 1 =
          count - memory.maxTransfer + memory.maxTransfer - 1 + memory.maxTransfer := by omega
      rw [onward, Nat.add_div_right _ (by omega), Nat.add_comm]

/-- The memory once a chunk has been written to a file in whole. -/
def afterWriting (memory : Memory) (object : ObjectId) (offset : Nat) (chunk : List UInt8) : Memory :=
  { memory.updateObject object fun file =>
      { file with bytes := overlay file.bytes offset chunk } with
    interrupts := 0
    writeCalls := memory.writeCalls + writesFor memory.maxTransfer chunk.length }

/-- The memory once one write has laid a chunk over a file. -/
def afterWrite (memory : Memory) (object : ObjectId) (offset : Nat) (chunk : List UInt8) : Memory :=
  { memory.updateObject object fun file =>
      { file with bytes := overlay file.bytes offset chunk } with
    writeCalls := memory.writeCalls + 1 }

/-- Two changes of a file, one after the other, are one change. -/
theorem updateObject_updateObject (memory : Memory) (object : ObjectId)
    (first second : FileObject → FileObject) :
    (memory.updateObject object first).updateObject object second =
      memory.updateObject object fun file => second (first file) := by
  simp only [updateObject, Table.update]
  cases found : memory.objects.get? object with
  | none => simp only [found]
  | some file =>
    simp only [Table.get?_set_self]
    simp [Table.set, Table.erase]

/-- What one write has moved and what the others move stands in the file as one chunk. -/
theorem afterWrite_afterWriting (memory : Memory) (object : ObjectId) (offset : Nat)
    (early late : List UInt8)
    (counted : writesFor memory.maxTransfer (early ++ late).length =
      1 + writesFor memory.maxTransfer late.length) :
    (memory.afterWrite object offset early).afterWriting object (offset + early.length) late =
      memory.afterWriting object offset (early ++ late) := by
  have laid := updateObject_updateObject memory object
    (fun file => { file with bytes := overlay file.bytes offset early })
    (fun file => { file with bytes := overlay file.bytes (offset + early.length) late })
  simp only [overlay_append] at laid
  unfold afterWriting
  rw [counted, ← Nat.add_assoc, ← laid]
  rfl

/-- A single write may move all bytes. -/
theorem afterWrite_eq_afterWriting {chunk : List UInt8} (uninterrupted : memory.interrupts = 0)
    (counted : writesFor memory.maxTransfer chunk.length = 1) (offset : Nat) :
    memory.afterWrite object offset chunk = memory.afterWriting object offset chunk := by
  unfold afterWriting
  rw [counted, ← uninterrupted]
  rfl

namespace Behind

theorem updateObject (behind : memory.Behind handle object file) (change : FileObject → FileObject) :
    (memory.updateObject object change).Behind handle object (change file) where
  bound := behind.bound
  there := by simp [Memory.updateObject, Table.get?_update, behind.there]

theorem afterWrite (behind : memory.Behind handle object file) (offset : Nat) (chunk : List UInt8) :
    (memory.afterWrite object offset chunk).Behind handle object
      { file with bytes := overlay file.bytes offset chunk } := by
  have changed := behind.updateObject fun file =>
    { file with bytes := overlay file.bytes offset chunk }
  exact ⟨changed.bound, changed.there⟩

theorem afterWriting (behind : memory.Behind handle object file) (offset : Nat) (chunk : List UInt8) :
    (memory.afterWriting object offset chunk).Behind handle object
      { file with bytes := overlay file.bytes offset chunk } := by
  have changed := behind.updateObject fun file =>
    { file with bytes := overlay file.bytes offset chunk }
  exact ⟨changed.bound, changed.there⟩

/-- An uninterrupted write lays down as much as one transfer may move. -/
theorem writeAt_moves (behind : memory.Behind handle object file) (offset : Nat) {bytes : List UInt8}
    (nonempty : 0 < bytes.length) (uninterrupted : memory.interrupts = 0) :
    memory.writeAt handle offset bytes = (.ok (memory.transferLength bytes.length),
      memory.afterWrite object offset (bytes.take (memory.transferLength bytes.length))) := by
  rw [behind.writeAt_eq offset nonempty, uninterrupted]
  rfl

/-- Writing goes on through short writes and interruptions until all bytes stand in the file.  It makes
one call for each interruption, and as few others as can move the bytes. -/
theorem completes_writeFull {world : World Memory} (behind : world.storage.Behind handle object file)
    (offset : Nat) {bytes : List UInt8} (some : 0 < bytes.length) :
    (writeFull handle offset bytes).Completes world fun taken outcome after => outcome = .ok () ∧
      after = { world with storage := world.storage.afterWriting object offset bytes } ∧
      taken.length = world.storage.interrupts +
        writesFor world.storage.maxTransfer bytes.length := by
  have rest : ∀ (world : World Memory) file written, written < bytes.length →
      world.storage.Behind handle object file → (Script.cycle written
        (fun written => .ask (.writeAt handle (offset + written) (bytes.drop written)))
        (fun written answer => .done (writeTurn bytes.length written answer)) .done).Completes world
          fun taken outcome after => outcome = .ok () ∧
            after = { world with storage :=
              world.storage.afterWriting object (offset + written) (bytes.drop written) } ∧
            taken.length = world.storage.interrupts +
              writesFor world.storage.maxTransfer (bytes.drop written).length := by
    intro world file written short behind
    -- Every turn uses up an interruption or takes bytes.
    induction measure : world.storage.interrupts + (bytes.length - written) using Nat.strongRecOn
      generalizing file written world with
    | ind total inductionHypothesis =>
      have remaining : 0 < (bytes.drop written).length := by
        rw [List.length_drop]
        omega
      apply Script.completes_turn
      cases waits : world.storage.interrupts with
      | succ interrupts =>
        have told := behind.writeAt_eq (offset + written) remaining
        rw [waits] at told measure
        apply Script.completes_act_ask told
        apply Script.completes_done
        have less : interrupts + (bytes.length - written) < total := by omega
        apply (inductionHypothesis _ less _ file written short (behind.interrupted interrupts) rfl).mono
        rintro taken outcome after ⟨rfl, rfl, steps⟩
        have steps : taken.length = interrupts +
          writesFor world.storage.maxTransfer (bytes.drop written).length := steps
        refine ⟨rfl, rfl, ?_⟩
        rw [List.length_append, List.length_singleton, steps]
        omega
      | zero =>
        apply Script.completes_act_ask (behind.writeAt_moves (offset + written) remaining waits)
        apply Script.completes_done
        have moves := world.storage.transferLength_pos remaining
        have bound := world.storage.transferLength_le (bytes.drop written).length
        have counted := world.storage.writesFor_transferLength remaining
        generalize world.storage.transferLength (bytes.drop written).length = moved
          at moves bound counted ⊢
        rw [writeTurn_ok moves]
        by_cases further : written + moved < bytes.length
        · rw [if_pos further]
          have less : 0 + (bytes.length - (written + moved)) < total := by omega
          have reached := inductionHypothesis _ less
            { world with storage :=
              world.storage.afterWrite object (offset + written) ((bytes.drop written).take moved) }
            _ (written + moved) further (behind.afterWrite _ _) (congrArg (· + _) waits)
          apply reached.mono
          rintro taken outcome after ⟨rfl, rfl, steps⟩
          have left : (bytes.drop (written + moved)).length = (bytes.drop written).length - moved := by
            rw [List.length_drop, List.length_drop, Nat.sub_add_eq]
          have steps : taken.length = world.storage.interrupts +
            writesFor world.storage.maxTransfer (bytes.drop (written + moved)).length := steps
          have onward := world.storage.afterWrite_afterWriting object (offset + written)
            ((bytes.drop written).take moved) ((bytes.drop written).drop moved)
          rw [List.take_append_drop, List.length_take_of_le bound, List.drop_drop, Nat.add_assoc] at onward
          rw [← left] at counted
          refine ⟨rfl, congrArg (fun storage => { world with storage }) (onward counted), ?_⟩
          rw [List.length_append, List.length_singleton, steps, counted, waits]
          omega
        · rw [if_neg further]
          have last : (bytes.drop written).take moved = bytes.drop written :=
            List.take_of_length_le (by rw [List.length_drop]; omega)
          have one : writesFor world.storage.maxTransfer (bytes.drop written).length = 1 := by
            have none : (bytes.drop written).length - moved = 0 := by
              rw [List.length_drop]
              omega
            rw [counted, none, writesFor_zero]
          rw [last, afterWrite_eq_afterWriting waits one]
          exact Script.completes_done ⟨rfl, rfl, by rw [one]; rfl⟩
  unfold writeFull
  rw [if_neg (Nat.ne_of_gt some)]
  have whole := rest world file 0 some behind
  rwa [List.drop_zero] at whole

end Behind

/-! ## A file in hand, and all that is not in hand -/

/-- The memory is as it was, except that a file is open under a handle and may have changed, and except
for what is counted. -/
structure Sighted (memory base : Memory) (handle : Handle) (object : ObjectId) (file : FileObject) :
    Prop where
  behind : memory.Behind handle object file
  names : memory.names = base.names
  others : ∀ other, other ≠ object → memory.objects.get? other = base.objects.get? other

namespace Sighted

/-- A file that has just been opened is in sight, and all else is as it was. -/
theorem withHandle (there : base.objects.get? object = some file) :
    (base.withHandle object).Sighted base ⟨base.nextHandle⟩ object file where
  behind := ⟨Table.get?_set_self _ _ _, there⟩
  names := rfl
  others _ _ := rfl

theorem counted (sighted : memory.Sighted base handle object file) (amount interrupts writes : Nat) :
    (memory.counted amount interrupts writes).Sighted base handle object file :=
  ⟨sighted.behind.counted amount interrupts writes, sighted.names, sighted.others⟩

theorem updateObject (sighted : memory.Sighted base handle object file)
    (change : FileObject → FileObject) :
    (memory.updateObject object change).Sighted base handle object (change file) where
  behind := sighted.behind.updateObject change
  names := sighted.names
  others other different := by
    rw [← sighted.others other different]
    simp [Memory.updateObject, Table.get?_update, different]

theorem afterWriting (sighted : memory.Sighted base handle object file) (offset : Nat)
    (chunk : List UInt8) :
    (memory.afterWriting object offset chunk).Sighted base handle object
      { file with bytes := overlay file.bytes offset chunk } := by
  have changed := sighted.updateObject fun file =>
    { file with bytes := overlay file.bytes offset chunk }
  exact changed.counted memory.maxTransfer 0
    (memory.writeCalls + writesFor memory.maxTransfer chunk.length)

/-- The path that the file in hand was opened at holds what has become of it. -/
theorem contents_eq {path : Path} (sighted : memory.Sighted base handle object file)
    (named : base.named path = some object) : memory.contents path = some file.bytes := by
  have still : memory.named path = some object := by
    rw [Memory.named, sighted.names]
    exact named
  rw [contents, Memory.file, still, Option.bind_some, sighted.behind.there]
  rfl

/-- Once the handle is closed, every path has the file it had before, if the lock is all that has
changed of the file in hand. -/
theorem file_close {held : FileObject} (sighted : memory.Sighted base handle object held)
    (back : base.objects.get? object = some (released handle held)) (path : Path) :
    (memory.close handle).file path = base.file path := by
  have names : (memory.close handle).named path = base.named path := by
    simp only [close, sighted.behind.bound, named, Memory.updateObject, sighted.names]
  have objects : (memory.close handle).objects.get? = base.objects.get? := by
    funext other
    simp only [close, sighted.behind.bound, Memory.updateObject, Table.get?_update]
    by_cases same : other = object
    · rw [if_pos same, sighted.behind.there, same, back]
      rfl
    · rw [if_neg same, sighted.others other same]
  rw [file, file, names, objects]

end Sighted

/-- Writing a buffer to the start of the file in hand changes nothing but that file. -/
theorem Sighted.completes_writeFull {world : World Memory}
    (sighted : world.storage.Sighted base handle object file) (bytes : List UInt8) :
    (writeFull handle 0 bytes).Completes world fun _ outcome after => outcome = .ok () ∧
      ∃ storage, after = { world with storage } ∧ storage.Sighted base handle object
        { file with bytes := overlay file.bytes 0 bytes } := by
  by_cases empty : bytes.length = 0
  · unfold writeFull
    rw [if_pos empty, List.length_eq_zero_iff.1 empty]
    refine Script.completes_done ⟨rfl, world.storage, rfl, ?_⟩
    simpa [overlay_zero] using sighted
  · apply (sighted.behind.completes_writeFull 0 (Nat.pos_of_ne_zero empty)).mono
    rintro taken outcome after ⟨rfl, rfl, -⟩
    exact ⟨rfl, _, rfl, sighted.afterWriting 0 bytes⟩

end Memory

end CrashMarker
