/-
Module: CrashMarker.Record
Purpose: The two flags of a marker file, their byte form, and the layouts a file may have.
Main exports:
  Flag, Record, Record.encode, Record.decode?, Record.loaded, Layout, Layout.ofSize
-/

namespace CrashMarker

/-!
A marker file holds one byte per flag:

* byte 0 is the dirty flag, zero for clean and anything else for dirty;
* byte 1 is the index rebuild flag, zero for none and anything else for a pending rebuild.

A file of one byte is in the legacy layout, which knows the dirty flag alone.  Bytes past the
second carry no meaning and are never touched.
-/

/-- The two flags that a marker records. -/
inductive Flag where
  | dirty
  | rebuild
deriving Repr, DecidableEq, Inhabited

def Flag.name : Flag → String
  | .dirty => "dirty"
  | .rebuild => "index_rebuild_scheduled"

/-- The values of both flags. -/
structure Record where
  dirty : Bool
  rebuild : Bool
deriving Repr, DecidableEq, Inhabited

namespace Record

/-- What a freshly created marker says: dirty until the first clean close. -/
def created : Record := ⟨true, false⟩

/-- What a missing or empty marker stands for. -/
def clean : Record := ⟨false, false⟩

def get (record : Record) : Flag → Bool
  | .dirty => record.dirty
  | .rebuild => record.rebuild

def set (record : Record) (flag : Flag) (value : Bool) : Record :=
  match flag with
  | .dirty => { record with dirty := value }
  | .rebuild => { record with rebuild := value }

@[simp] theorem get_set_self (record : Record) (flag : Flag) (value : Bool) :
    (record.set flag value).get flag = value := by
  cases flag <;> rfl

theorem get_set_of_ne (record : Record) {flag other : Flag} (value : Bool)
    (different : other ≠ flag) : (record.set flag value).get other = record.get other := by
  cases flag <;> cases other <;> simp_all [get, set]

@[simp] theorem set_get (record : Record) (flag : Flag) :
    record.set flag (record.get flag) = record := by
  cases flag <;> rfl

def flagByte (value : Bool) : UInt8 := if value then 1 else 0

/-- The two bytes of the current layout. -/
def encode (record : Record) : List UInt8 := [flagByte record.dirty, flagByte record.rebuild]

/-- Read a record from the start of a file.  An empty file holds none, a single byte is the legacy
layout, and bytes past the second are ignored. -/
def decode? : List UInt8 → Option Record
  | [] => none
  | [dirty] => some ⟨dirty != 0, false⟩
  | dirty :: rebuild :: _ => some ⟨dirty != 0, rebuild != 0⟩

/-- The record that opening a marker arrives at: clean for a missing or an empty file, otherwise
what its bytes say. -/
def loaded (contents : Option (List UInt8)) : Record :=
  ((contents.bind decode?).getD clean)

@[simp] theorem length_encode (record : Record) : record.encode.length = 2 := rfl

@[simp] theorem decode?_encode_append (record : Record) (rest : List UInt8) :
    decode? (record.encode ++ rest) = some record := by
  rcases record with ⟨_ | _, _ | _⟩ <;> rfl

@[simp] theorem decode?_encode (record : Record) : decode? record.encode = some record := by
  rcases record with ⟨_ | _, _ | _⟩ <;> rfl

/-- The start of a file says as much as the whole of it if it has a byte for each flag there is. -/
theorem decode?_take_of_le {bytes : List UInt8} {count : Nat}
    (enough : min 2 bytes.length ≤ count) : decode? (bytes.take count) = decode? bytes := by
  match bytes, count with
  | [], _ => rw [List.take_nil]
  | [dirty], count + 1 => rw [List.take_of_length_le (Nat.le_add_left 1 count)]
  | dirty :: rebuild :: rest, count + 2 => rfl
  | [_], 0 => simp at enough
  | _ :: _ :: _, 0 => simp at enough
  | _ :: _ :: _, 1 => simp at enough

end Record

/-- How a marker file is laid out, judged from its size. -/
inductive Layout where
  /-- There is no file. -/
  | missing
  /-- The file has no bytes and needs its first record. -/
  | empty
  /-- The file has one byte, the dirty flag. -/
  | legacy
  /-- The file has both flags. -/
  | current
deriving Repr, DecidableEq, Inhabited

namespace Layout

/-- Classify an existing file by its size in bytes. -/
def ofSize : Nat → Layout
  | 0 => .empty
  | 1 => .legacy
  | _ => .current

/-- The number of bytes that reading a record of this layout takes. -/
def readLength : Layout → Nat
  | .missing => 0
  | .empty => 0
  | .legacy => 1
  | .current => 2

def name : Layout → String
  | .missing => "missing"
  | .empty => "empty"
  | .legacy => "legacy"
  | .current => "current"

def all : List Layout := [.missing, .empty, .legacy, .current]

def ofName? (name : String) : Option Layout := all.find? fun layout => layout.name == name

/-- At most two bytes of a marker are read. -/
theorem readLength_ofSize (size : Nat) : (ofSize size).readLength = min 2 size := by
  match size with
  | 0 => rfl
  | 1 => rfl
  | n + 2 => simp [ofSize, readLength]

end Layout

end CrashMarker
