/-
Module: CrashMarker.Proofs.Overlay
Purpose: What writing a record piece by piece does to the bytes and the record of a file.
Main exports:
  overlay_zero, overlay_eq, overlay_append, overlay_onward, SafeToWrite, safeToWrite_get, safeToWrite_loaded, safeToWrite_set
-/
import CrashMarker.Storage.Memory
import CrashMarker.Record

namespace CrashMarker

/-! ## Chunks laid over a file -/

/-- A chunk at the start takes the place of as many bytes. -/
theorem overlay_zero (bytes chunk : List UInt8) :
    overlay bytes 0 chunk = chunk ++ bytes.drop chunk.length := by
  simp [overlay]

/-- A chunk laid over the inside of a file leaves what is before it and what is after it. -/
theorem overlay_inside {bytes chunk : List UInt8} {offset : Nat} (inside : offset ≤ bytes.length) :
    overlay bytes offset chunk =
      bytes.take offset ++ chunk ++ bytes.drop (offset + chunk.length) := by
  have noGap : offset - bytes.length = 0 := Nat.sub_eq_zero_of_le inside
  simp [overlay, noGap]

/-- The bytes before a chunk stay, or are zeros where there were none, and so do the bytes after it. -/
theorem overlay_eq (bytes : List UInt8) (offset : Nat) (chunk : List UInt8) :
    overlay bytes offset chunk = bytes.take offset ++ List.replicate (offset - bytes.length) 0 ++
      chunk ++ bytes.drop (offset + chunk.length) := by
  rcases Nat.le_total offset bytes.length with inside | gap
  · simp [overlay, Nat.sub_eq_zero_of_le inside]
  · have length : (bytes ++ List.replicate (offset - bytes.length) 0).length = offset := by
      rw [List.length_append, List.length_replicate, Nat.add_sub_cancel' gap]
    simp only [overlay]
    rw [List.take_of_length_le (Nat.le_of_eq length), List.drop_of_length_le (by omega),
      List.take_of_length_le gap, List.drop_of_length_le (by omega)]

/-- A chunk may be laid over a file one part after the other. -/
theorem overlay_append (bytes : List UInt8) (offset : Nat) (early late : List UInt8) :
    overlay (overlay bytes offset early) (offset + early.length) late =
      overlay bytes offset (early ++ late) := by
  generalize start : bytes.take offset ++ List.replicate (offset - bytes.length) 0 = before
  have length : (before ++ early).length = offset + early.length := by
    rw [← start, List.length_append, List.length_append, List.length_take, List.length_replicate]
    omega
  have first : overlay bytes offset early =
      (before ++ early) ++ bytes.drop (offset + early.length) := by
    rw [overlay_eq, start]
  rw [first, overlay_inside, List.take_left' length, ← List.drop_drop, List.drop_left' length,
    List.drop_drop, overlay_eq, start, List.length_append, List.append_assoc before, Nat.add_assoc]
  rw [List.length_append, length]
  exact Nat.le_add_right _ _
/-- Laying a chunk piece by piece, where a piece may lie over bytes that are in place already. -/
theorem overlay_onward (bytes : List UInt8) {chunk : List UInt8} {written laid moved : Nat}
    (behind : written ≤ laid) (within : laid ≤ chunk.length)
    (more : written + moved ≤ chunk.length) :
    overlay (overlay bytes 0 (chunk.take laid)) written ((chunk.drop written).take moved) =
      overlay bytes 0 (chunk.take (max laid (written + moved))) := by
  have length : (chunk.take laid).length = laid := List.length_take_of_le within
  have pieceLength : ((chunk.drop written).take moved).length = moved := by
    rw [List.length_take_of_le]
    rw [List.length_drop]
    omega
  have start : (chunk.take laid ++ bytes.drop laid).take written ++
      (chunk.drop written).take moved = chunk.take (written + moved) := by
    rw [List.take_append_of_le_length (by omega), List.take_take, Nat.min_eq_left behind,
      List.take_add]
  have wholeLength : (chunk.take (max laid (written + moved))).length =
      max laid (written + moved) := List.length_take_of_le (by omega)
  rw [overlay_zero, overlay_zero, length, wholeLength, overlay_inside, pieceLength, start]
  · -- The pieces may end before what has been laid already, or go past it.
    rcases Nat.le_total laid (written + moved) with past | before
    · rw [Nat.max_eq_right past, List.drop_append, List.drop_of_length_le (by omega), length,
        List.drop_drop, List.nil_append, Nat.add_sub_cancel' past]
    · rw [Nat.max_eq_left before, List.drop_append_of_le_length (by omega), ← List.append_assoc,
        List.drop_take, ← List.take_add, Nat.add_sub_cancel' before]
  · rw [List.length_append, length]
    omega

/-- No byte is lost at the end of a file. -/
theorem le_length_overlay (bytes : List UInt8) (offset : Nat) (chunk : List UInt8) :
    bytes.length ≤ (overlay bytes offset chunk).length := by
  simp only [overlay, List.length_append, List.length_take, List.length_drop,
    List.length_replicate]
  omega

/-- The byte at a position.  Past the end of a file stand the zeros that a gap is filled with. -/
def byteAt (bytes : List UInt8) (position : Nat) : UInt8 := (bytes[position]?).getD 0

/-- Zeros at the end of a file are what stands past its end anyway. -/
theorem byteAt_append_replicate (bytes : List UInt8) (count position : Nat) :
    byteAt (bytes ++ List.replicate count 0) position = byteAt bytes position := by
  unfold byteAt
  rw [List.getElem?_append]
  split
  · rfl
  · rw [List.getElem?_eq_none (l := bytes) (by omega), List.getElem?_replicate]
    split <;> rfl

theorem byteAt_overlay_inside {bytes : List UInt8} {offset : Nat} (inside : offset ≤ bytes.length)
    (chunk : List UInt8) (position : Nat) :
    byteAt (overlay bytes offset chunk) position =
      if offset ≤ position ∧ position < offset + chunk.length then byteAt chunk (position - offset)
      else byteAt bytes position := by
  have length : (bytes.take offset).length = offset := List.length_take_of_le inside
  unfold byteAt
  rw [overlay_inside inside, List.append_assoc, List.getElem?_append, length]
  split
  next before => rw [if_neg (by omega), List.getElem?_take_of_lt before]
  next behind =>
    rw [List.getElem?_append]
    split
    next within => rw [if_pos (by omega)]
    next past =>
      rw [if_neg (by omega), List.getElem?_drop]
      congr 2
      omega

/-- Laying a chunk over a file changes the bytes under the chunk and no others. -/
theorem byteAt_overlay (bytes : List UInt8) (offset : Nat) (chunk : List UInt8) (position : Nat) :
    byteAt (overlay bytes offset chunk) position =
      if offset ≤ position ∧ position < offset + chunk.length then byteAt chunk (position - offset)
      else byteAt bytes position := by
  have inside : offset ≤ (bytes ++ List.replicate (offset - bytes.length) 0).length := by
    rw [List.length_append, List.length_replicate]
    omega
  have padded : overlay bytes offset chunk =
      overlay (bytes ++ List.replicate (offset - bytes.length) 0) offset chunk := by
    rw [overlay_inside inside]
    rfl
  rw [padded, byteAt_overlay_inside inside, byteAt_append_replicate]

/-- Writing a piece of a chunk to where it belongs, each byte is the old one or that of the chunk. -/
theorem byteAt_overlay_piece (bytes chunk : List UInt8) (written moved position : Nat) :
    byteAt (overlay bytes written ((chunk.drop written).take moved)) position =
        byteAt bytes position ∨
      byteAt (overlay bytes written ((chunk.drop written).take moved)) position =
        byteAt chunk position := by
  rw [byteAt_overlay]
  split
  next under =>
    obtain ⟨behind, within⟩ := under
    rw [List.length_take] at within
    right
    unfold byteAt
    rw [List.getElem?_take_of_lt (by omega), List.getElem?_drop, Nat.add_sub_cancel' behind]
  next => exact Or.inl rfl

/-! ## Records written piece by piece -/

namespace Record

/-- The position of the byte that tells a flag. -/
def position : Flag → Nat
  | .dirty => 0
  | .rebuild => 1

/-- Two records that agree on both flags are the same. -/
theorem ext_get {first second : Record} (same : ∀ flag, first.get flag = second.get flag) :
    first = second := by
  cases first
  cases second
  congr
  · exact same .dirty
  · exact same .rebuild

/-- A file tells each flag by one byte, and a byte that is missing counts as zero. -/
theorem get_loaded (bytes : List UInt8) (flag : Flag) :
    (loaded (some bytes)).get flag = (byteAt bytes (position flag) != 0) := by
  match bytes with
  | [] => cases flag <;> rfl
  | [dirty] => cases flag <;> rfl
  | dirty :: rebuild :: rest => cases flag <;> rfl

/-- Where bytes stand for a record, it is the one that opening arrives at. -/
theorem loaded_some_of_decode? {bytes : List UInt8} {record : Record}
    (decoded : decode? bytes = some record) : loaded (some bytes) = record := by
  simp [loaded, decoded]

/-- Any byte at all stands for a record. -/
theorem decode?_eq_loaded {bytes : List UInt8} (nonempty : 0 < bytes.length) :
    decode? bytes = some (loaded (some bytes)) := by
  match bytes with
  | [] => cases nonempty
  | [dirty] => rfl
  | dirty :: rebuild :: rest => rfl

/-- A file that a record has been written to has both flags. -/
theorem two_le_length_overlay (bytes : List UInt8) (record : Record) :
    2 ≤ (overlay bytes 0 record.encode).length := by
  rw [overlay_zero, List.length_append, length_encode]
  exact Nat.le_add_right _ _

/-- A file that a record has been written to stands for that record. -/
theorem loaded_overlay_encode (bytes : List UInt8) (record : Record) :
    loaded (some (overlay bytes 0 record.encode)) = record := by
  rw [overlay_zero]
  exact loaded_some_of_decode? (decode?_encode_append record _)

/-- Reading as many bytes as the layout has flags is enough to know the record. -/
theorem decode?_take (bytes : List UInt8) :
    decode? (bytes.take (Layout.ofSize bytes.length).readLength) = decode? bytes := by
  match bytes with
  | [] => rfl
  | [dirty] => rfl
  | dirty :: rebuild :: rest => rfl

/-- Wherever the writing of a record stands, each flag is the old one or that of the record. -/
theorem get_loaded_overlay (record : Record) (bytes : List UInt8) (written moved : Nat)
    (flag : Flag) :
    (loaded (some (overlay bytes written ((record.encode.drop written).take moved)))).get flag =
        (loaded (some bytes)).get flag ∨
      (loaded (some (overlay bytes written ((record.encode.drop written).take moved)))).get flag =
        record.get flag := by
  have told : record.get flag = (loaded (some record.encode)).get flag := by
    rw [loaded_some_of_decode? (decode?_encode record)]
  rw [told, get_loaded, get_loaded, get_loaded]
  rcases byteAt_overlay_piece bytes record.encode written moved (position flag) with old | new
  · exact Or.inl (by rw [old])
  · exact Or.inr (by rw [new])

end Record

/-- No piece of the bytes, written to where it belongs, leads from contents that are permitted to
others. -/
def SafeToWrite (permitted : Option (List UInt8) → Prop) (bytes : List UInt8) : Prop :=
  ∀ before written moved, permitted (some before) →
    permitted (some (overlay before written ((bytes.drop written).take moved)))

/-- Laying the bytes over permitted contents from their start on shows permitted contents all along. -/
theorem SafeToWrite.prefixes {permitted : Option (List UInt8) → Prop} {bytes before : List UInt8}
    (safe : SafeToWrite permitted bytes) (start : permitted (some before)) (laid : Nat) :
    permitted (some (overlay before 0 (bytes.take laid))) :=
  safe before 0 laid start

/-- A flag that the file tells as the record has it is told so all along while the record is written,
whatever the other flag may be. -/
theorem safeToWrite_get (record : Record) (flag : Flag) :
    SafeToWrite (fun contents => (Record.loaded contents).get flag = record.get flag)
      record.encode := by
  intro before written moved same
  rcases record.get_loaded_overlay before written moved flag with old | new
  · rw [old, same]
  · exact new

/-- Writing anew the record that a file stands for never changes what the file stands for, not even
halfway, where an empty file has become one in the legacy layout. -/
theorem safeToWrite_loaded (record : Record) :
    SafeToWrite (fun contents => Record.loaded contents = record) record.encode := by
  intro before written moved same
  apply Record.ext_get
  intro flag
  exact safeToWrite_get record flag before written moved (congrArg (·.get flag) same)

/-- Nothing that is written takes away from a file that is not empty. -/
theorem safeToWrite_nonempty (bytes : List UInt8) :
    SafeToWrite (fun contents => ∃ held, contents = some held ∧ 0 < held.length) bytes := by
  rintro before written moved ⟨held, same, nonempty⟩
  cases same
  exact ⟨_, rfl, Nat.lt_of_lt_of_le nonempty (le_length_overlay _ _ _)⟩

/-- While a record with one flag changed takes the place of the record before, the file stands for
one of the two. -/
theorem safeToWrite_set (record : Record) (flag : Flag) (value : Bool) :
    SafeToWrite (fun contents => Record.loaded contents = record ∨
      Record.loaded contents = record.set flag value) (record.set flag value).encode := by
  rintro before written moved standing
  generalize now : Record.loaded (some (overlay before written
    (((record.set flag value).encode.drop written).take moved))) = shown
  have either : ∀ name, shown.get name = record.get name ∨
      shown.get name = (record.set flag value).get name := by
    intro name
    rw [← now]
    rcases (record.set flag value).get_loaded_overlay before written moved name with old | new
    · rcases standing with same | same
      · exact Or.inl (by rw [old, same])
      · exact Or.inr (by rw [old, same])
    · exact Or.inr new
  have others : ∀ name, name ≠ flag → shown.get name = record.get name := by
    intro name different
    rcases either name with old | new
    · exact old
    · rw [new, record.get_set_of_ne value different]
  rcases either flag with old | new
  · left
    apply Record.ext_get
    intro name
    by_cases same : name = flag
    · rw [same, old]
    · exact others name same
  · right
    apply Record.ext_get
    intro name
    by_cases same : name = flag
    · rw [same, new]
    · rw [others name same, record.get_set_of_ne value same]

end CrashMarker
