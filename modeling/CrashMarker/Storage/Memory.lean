/-
Module: CrashMarker.Storage.Memory
Purpose: A place for marker files held in memory, which can be told to misbehave.
Main exports: FileObject, Memory, Misbehaviour, overlay, Memory.put, Memory.contents, Memory.isLocked
-/
import CrashMarker.Storage.Request
import CrashMarker.Table

namespace CrashMarker

/-!
Names and files are kept apart.  A name leads to a file object, and a handle leads to the object
that its path named when it was opened; removing or replacing a name leaves the object to the
handles that are still open on it.  The owner of a lock is the handle that took it.

The misbehaviour is a set of counters: how many of the next transfers, removals or openings fail,
how many bytes a transfer may move, and by how many bytes every size is overstated.  Sizes are machine
words, and one that is overstated too far starts over from zero.
-/

/-- The largest number in a machine word of 64 bits. -/
def largestWord : Nat := 18446744073709551615

/-- The sum of two machine words.  Past the largest word it starts over from zero. -/
def wordSum (first second : Nat) : Nat :=
  let room := largestWord - first
  if second ≤ room then first + second else second - room - 1

@[simp] theorem wordSum_zero (word : Nat) : wordSum word 0 = word := by
  simp [wordSum]

/-- A sum that fits into a word is the sum of the numbers. -/
theorem wordSum_of_le {first second : Nat} (fits : first + second ≤ largestWord) :
    wordSum first second = first + second := by
  unfold wordSum
  rw [if_pos]
  omega

/-- Words are added modulo the number of words there are. -/
theorem wordSum_eq_mod {first second : Nat} (here : first ≤ largestWord)
    (there : second ≤ largestWord) : wordSum first second = (first + second) % (largestWord + 1) := by
  unfold wordSum
  by_cases fits : second ≤ largestWord - first
  · rw [if_pos fits, Nat.mod_eq_of_lt (by omega)]
  · have past : first + second = second - (largestWord - first) - 1 + (largestWord + 1) := by omega
    rw [if_neg fits, past, Nat.add_mod_right, Nat.mod_eq_of_lt (by omega)]

structure ObjectId where
  serial : Nat
deriving Repr, DecidableEq, Inhabited

/-- A file, whatever names lead to it. -/
structure FileObject where
  bytes : List UInt8 := []
  /-- The handle that holds the lock. -/
  owner : Option Handle := none
deriving Repr, DecidableEq, Inhabited

/-- Files in memory together with the misbehaviour asked of them. -/
structure Memory where
  names : Table Path.Key ObjectId := {}
  objects : Table ObjectId FileObject := {}
  /-- The object behind each open handle. -/
  handles : Table Handle ObjectId := {}
  nextObject : Nat := 0
  nextHandle : Nat := 0
  /-- The most bytes that one transfer moves; zero means no limit. -/
  maxTransfer : Nat := 0
  /-- How many of the next transfers are interrupted. -/
  interrupts : Nat := 0
  /-- How many of the next removals fail and leave the file in place. -/
  failingRemoves : Nat := 0
  /-- How many of the next removals report an error although the file is gone afterwards. -/
  racingRemoves : Nat := 0
  /-- How many of the next openings are denied. -/
  failingOpens : Nat := 0
  /-- How many bytes every size exceeds the truth by. -/
  extraSize : Nat := 0
  /-- How many writes have moved bytes. -/
  writeCalls : Nat := 0
deriving Repr, DecidableEq, Inhabited

inductive Misbehaviour where
  | maxTransfer
  | interrupts
  | failingRemoves
  | racingRemoves
  | failingOpens
  | extraSize
deriving Repr, DecidableEq, Inhabited

/-- File contents with a chunk laid over them at an offset.  A gap before the chunk is filled with
zeros. -/
def overlay (bytes : List UInt8) (offset : Nat) (chunk : List UInt8) : List UInt8 :=
  let padded := bytes ++ List.replicate (offset - bytes.length) 0
  padded.take offset ++ chunk ++ padded.drop (offset + chunk.length)

namespace Memory

/-- Ask for a misbehaviour.  The amount takes the place of what is left of an earlier one. -/
def misbehave (memory : Memory) (amount : Nat) : Misbehaviour → Memory
  | .maxTransfer => { memory with maxTransfer := amount }
  | .interrupts => { memory with interrupts := amount }
  | .failingRemoves => { memory with failingRemoves := amount }
  | .racingRemoves => { memory with racingRemoves := amount }
  | .failingOpens => { memory with failingOpens := amount }
  | .extraSize => { memory with extraSize := amount }

def named (memory : Memory) (path : Path) : Option ObjectId := memory.names.get? path.key

def file (memory : Memory) (path : Path) : Option FileObject :=
  (memory.named path).bind memory.objects.get?

def contents (memory : Memory) (path : Path) : Option (List UInt8) :=
  (memory.file path).map (·.bytes)

/-- Whether some handle holds the lock on the file at a path. -/
def isLocked (memory : Memory) (path : Path) : Bool :=
  match memory.file path with
  | some file => file.owner.isSome
  | none => false

/-- Let a path name a new file object, whatever it named before. -/
def put (memory : Memory) (path : Path) (bytes : List UInt8) : Memory :=
  let object : ObjectId := ⟨memory.nextObject⟩
  { memory with
    names := memory.names.set path.key object
    objects := memory.objects.set object { bytes }
    nextObject := memory.nextObject + 1 }

/-- Let a path name nothing. -/
def unlink (memory : Memory) (path : Path) : Memory :=
  { memory with names := memory.names.erase path.key }

def updateObject (memory : Memory) (object : ObjectId) (change : FileObject → FileObject) :
    Memory :=
  { memory with objects := memory.objects.update object change }

/-- How many of a number of bytes one transfer moves. -/
def transferLength (memory : Memory) (requested : Nat) : Nat :=
  if memory.maxTransfer = 0 then requested else min requested memory.maxTransfer

/-- The refusal that a handle gets which is not open. -/
def badHandle : StorageError := .io (.system .badDescriptor)

def withObject {α : Type} (memory : Memory) (handle : Handle)
    (body : ObjectId → FileObject → Except StorageError α × Memory) :
    Except StorageError α × Memory :=
  match memory.handles.get? handle with
  | none => (.error badHandle, memory)
  | some object =>
    match memory.objects.get? object with
    | none => (.error badHandle, memory)
    | some file => body object file

/-- Make a new empty file unless the path already names one. -/
def createNew (memory : Memory) (path : Path) : Except StorageError Unit × Memory :=
  match memory.named path with
  | some _ => (.error (.alreadyExists path), memory)
  | none => (.ok (), memory.put path [])

/-- Remove the name of a file.  A racing removal comes before any look at the name. -/
def remove (memory : Memory) (path : Path) : Except StorageError Unit × Memory :=
  match memory.racingRemoves with
  | races + 1 =>
    (.error (.io (.explained .other "removed concurrently")),
      { memory.unlink path with racingRemoves := races })
  | 0 =>
    match memory.named path with
    | none => (.error (.notFound path), memory)
    | some _ =>
      match memory.failingRemoves with
      | failures + 1 =>
        (.error (.io (.explained .other "resource busy")),
          { memory with failingRemoves := failures })
      | 0 => (.ok (), memory.unlink path)

def openFile (memory : Memory) (path : Path) : Except StorageError Handle × Memory :=
  match memory.failingOpens with
  | failures + 1 =>
    (.error (.io (.bare .permissionDenied)), { memory with failingOpens := failures })
  | 0 =>
    match memory.named path with
    | none => (.error (.notFound path), memory)
    | some object =>
      let handle : Handle := ⟨memory.nextHandle⟩
      (.ok handle,
        { memory with
          handles := memory.handles.set handle object
          nextHandle := memory.nextHandle + 1 })

def readAt (memory : Memory) (handle : Handle) (offset count : Nat) :
    Except StorageError (List UInt8) × Memory :=
  memory.withObject handle fun _ file =>
    match memory.interrupts with
    | interrupts + 1 => (.error (.io (.bare .interrupted)), { memory with interrupts })
    | 0 => (.ok ((file.bytes.drop offset).take (memory.transferLength count)), memory)

/-- Write to the object behind a handle.  Writing no bytes does nothing and is never interrupted. -/
def writeAt (memory : Memory) (handle : Handle) (offset : Nat) (bytes : List UInt8) :
    Except StorageError Nat × Memory :=
  memory.withObject handle fun object _ =>
    if bytes.isEmpty then (.ok 0, memory)
    else
      match memory.interrupts with
      | interrupts + 1 => (.error (.io (.bare .interrupted)), { memory with interrupts })
      | 0 =>
        let moved := memory.transferLength bytes.length
        let changed := memory.updateObject object fun file =>
          { file with bytes := overlay file.bytes offset (bytes.take moved) }
        (.ok moved, { changed with writeCalls := memory.writeCalls + 1 })

def size (memory : Memory) (handle : Handle) : Except StorageError Nat × Memory :=
  memory.withObject handle fun _ file => (.ok (wordSum file.bytes.length memory.extraSize), memory)

/-- Sync the object behind a handle.  Nothing is buffered. -/
def sync (memory : Memory) (handle : Handle) : Except StorageError Unit × Memory :=
  memory.withObject handle fun _ _ => (.ok (), memory)

/-- Take the lock on the object behind a handle unless another handle holds it. -/
def tryLock (memory : Memory) (handle : Handle) : Except StorageError Bool × Memory :=
  memory.withObject handle fun object file =>
    match file.owner with
    | none =>
      (.ok true, memory.updateObject object fun file => { file with owner := some handle })
    | some owner => (.ok (owner = handle), memory)

/-- A file with its lock given up if the handle holds it. -/
def released (handle : Handle) (file : FileObject) : FileObject :=
  if file.owner = some handle then { file with owner := none } else file

/-- Give up the lock on the object behind a handle, if that handle holds it. -/
def unlock (memory : Memory) (handle : Handle) : Except StorageError Unit × Memory :=
  memory.withObject handle fun object _ => (.ok (), memory.updateObject object (released handle))

/-- Close a handle, which gives up the lock it holds. -/
def close (memory : Memory) (handle : Handle) : Memory :=
  match memory.handles.get? handle with
  | none => memory
  | some object =>
    { memory.updateObject object (released handle) with handles := memory.handles.erase handle }

def answer (memory : Memory) : (request : Request) → request.Answer × Memory
  | .present path => (.ok (memory.named path).isSome, memory)
  | .createNew path => memory.createNew path
  | .remove path => memory.remove path
  | .openFile path => memory.openFile path
  | .readAt handle offset count => memory.readAt handle offset count
  | .writeAt handle offset bytes => memory.writeAt handle offset bytes
  | .size handle => memory.size handle
  | .sync handle => memory.sync handle
  | .tryLock handle => memory.tryLock handle
  | .unlock handle => memory.unlock handle

instance : Storage Memory where
  answer request memory := memory.answer request
  close handle memory := memory.close handle

/-- The most calls that can be answered with an error that makes an operation try again. -/
def patience (memory : Memory) : Nat :=
  memory.interrupts + memory.failingRemoves + memory.racingRemoves

end Memory

end CrashMarker
