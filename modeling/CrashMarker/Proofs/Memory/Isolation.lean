/-
Module: CrashMarker.Proofs.Memory.Isolation
Purpose: Files that have lost their names go on for the handles that are open on them, and for nobody else.
Main exports: Isolated, Watched.isolated_after
-/
import CrashMarker.Proofs.Memory.Annals
import CrashMarker.Proofs.Memory.Sighted

namespace CrashMarker

/-!
A path and a handle that was opened at it part ways as soon as the path is cleared or another file is put
there.  `Isolated` says what each of them shows from then on.  A path shows the file that came into being
there last, a handle shows the file it was opened on, and both show the last byte that was laid down at
each position of that very file.  What is written through a handle is seen at no path but that of its file.
-/

open Annals

/-- Every file is seen through its own handles and at its own path, as it has been written to, and neither
by other handles nor at other paths. -/
structure Isolated (watched : Watched) : Prop where
  /-- At most one path names a file, whatever its spelling. -/
  named : ∀ {first second : Path} {object : ObjectId}, watched.memory.named first = some object →
    watched.memory.named second = some object → first.key = second.key
  /-- A path leads to the file that came into being there last, unless it has been cleared since. -/
  leading : ∀ path, watched.memory.named path = shelf watched.annals path.key
  /-- Nothing that is done leads a path to a file that somebody has open already.  So a file that has been
  removed or replaced has lost its path for good. -/
  unnamed : ∀ handle object, (handle, object) ∈ live watched.annals → ∀ (touch : Touch) (path : Path),
    (watched.touch touch).memory.named path = some object → watched.memory.named path = some object
  /-- A path shows all that has been laid down in the file it leads to. -/
  shown : ∀ path, watched.memory.contents path =
    (shelf watched.annals path.key).map fun object => written (layers watched.annals object)
  /-- Writing through a handle names no file anew, and the only path whose contents change is the one that
  names the file of the handle. -/
  writing : ∀ handle object, (handle, object) ∈ live watched.annals → ∀ offset bytes path,
    (watched.memory.answer (.writeAt handle offset bytes)).2.named path = watched.memory.named path ∧
      ((watched.memory.answer (.writeAt handle offset bytes)).2.contents path ≠
        watched.memory.contents path → watched.memory.named path = some object)
  /-- Unless it is interrupted, a write moves as many bytes as one transfer may.  Writing no bytes is never
  interrupted. -/
  moving : ∀ handle object, (handle, object) ∈ live watched.annals → ∀ offset bytes,
    (watched.memory.answer (.writeAt handle offset bytes)).1 =
      if bytes = [] then .ok 0
      else if watched.memory.interrupts = 0 then .ok (watched.memory.transferLength bytes.length)
      else .error (.io (.bare .interrupted))
  /-- Unless it is interrupted, reading through a handle gives, at every position from the offset on, the
  last byte that was laid down there in the file of the handle, as far as one transfer and the file go. -/
  reading : ∀ handle object, (handle, object) ∈ live watched.annals → ∀ offset count,
    (watched.memory.answer (.readAt handle offset count)).1 =
      if watched.memory.interrupts = 0 then
        .ok ((List.range (min (watched.memory.transferLength count)
          (reach (layers watched.annals object) - offset))).map fun index =>
            lastByte (layers watched.annals object) (offset + index))
      else .error (.io (.bare .interrupted))
  /-- What has been laid down in the file of a live handle stays as it is, whatever is removed, put into
  place, made, opened or closed, until somebody writes through a handle on the same file. -/
  lasting : ∀ handle object, (handle, object) ∈ live watched.annals → ∀ touch : Touch,
    (∀ writer offset bytes, touch = .ask (.writeAt writer offset bytes) →
      (writer, object) ∉ live watched.annals) →
    layers (watched.touch touch).annals object = layers watched.annals object

namespace Memory

variable {memory : Memory} {object : ObjectId}

/-- A change of one file shows at the paths of that file only. -/
theorem contents_updateObject_of_ne {path : Path} (elsewhere : memory.named path ≠ some object)
    (change : FileObject → FileObject) :
    (memory.updateObject object change).contents path = memory.contents path := by
  have same : (memory.updateObject object change).named path = memory.named path := rfl
  unfold contents file
  rw [same]
  cases there : memory.named path with
  | none => rfl
  | some other =>
    have different : other ≠ object := by
      intro here
      exact elsewhere (here ▸ there)
    simp only [Option.bind_some, updateObject, Table.get?_update, if_neg different]

/-- Writing through a handle changes nothing but the file behind it. -/
theorem Behind.writeAt_apart {handle : Handle} {file : FileObject}
    (behind : memory.Behind handle object file) (offset : Nat) (bytes : List UInt8) (path : Path) :
    (memory.writeAt handle offset bytes).2.named path = memory.named path ∧
      (memory.named path ≠ some object →
        (memory.writeAt handle offset bytes).2.contents path = memory.contents path) := by
  rw [writeAt, behind.withObject_eq]
  split
  · exact ⟨rfl, fun _ => rfl⟩
  · cases memory.interrupts with
    | succ interrupts => exact ⟨rfl, fun _ => rfl⟩
    | zero => exact ⟨rfl, fun elsewhere => contents_updateObject_of_ne elsewhere _⟩

end Memory

namespace Annals

/-- What is told leads no place to a file that has come into being before. -/
theorem shelf_of_cons {occurrence : Occurrence} {annals : List Occurrence} {object : ObjectId}
    {key : Path.Key} (before : object.serial < births annals)
    (there : shelf (occurrence :: annals) key = some object) : shelf annals key = some object := by
  cases occurrence with
  | born place bytes =>
    simp only [shelf] at there
    split at there
    · cases there
      exact absurd before (Nat.lt_irrefl _)
    · exact there
  | gone place =>
    simp only [shelf] at there
    split at there
    · cases there
    · exact there
  | opened handle place => exact there
  | closed handle => exact there
  | wrote handle offset chunk => exact there

/-- Nothing that is told is about a file that has come into being before, except for a write through a
handle on it. -/
theorem layers_cons {occurrence : Occurrence} {annals : List Occurrence} {object : ObjectId}
    (before : object.serial < births annals)
    (unwritten : ∀ writer offset chunk, occurrence = .wrote writer offset chunk →
      (writer, object) ∉ live annals) :
    layers (occurrence :: annals) object = layers annals object := by
  cases occurrence with
  | born key bytes =>
    have old : object ≠ ⟨births annals⟩ := by
      intro same
      exact absurd (congrArg ObjectId.serial same) (Nat.ne_of_lt before)
    rw [layers, if_neg old]
  | gone key => rfl
  | opened handle key => rfl
  | closed handle => rfl
  | wrote handle offset chunk => rw [layers, if_neg (unwritten handle offset chunk rfl)]

end Annals

/-- Only a write tells of a write. -/
theorem Request.eq_writeAt_of_wrote {request : Request} {answer : request.Answer} {writer : Handle}
    {offset : Nat} {chunk : List UInt8}
    (told : request.occurrence? answer = some (.wrote writer offset chunk)) :
    ∃ bytes, request = .writeAt writer offset bytes := by
  unfold Request.occurrence? at told
  split at told
  case h_5 handle start bytes moved =>
    split at told
    · cases told
    · cases told
      exact ⟨bytes, rfl⟩
  case h_3 =>
    split at told
    · cases told
    · cases told
  all_goals cases told

namespace Told

variable {watched : Watched}

/-- A touch that does not write to a file leaves its layers as they are. -/
theorem lasting (told : Told watched.memory watched.annals) {handle : Handle} {object : ObjectId}
    (member : (handle, object) ∈ live watched.annals) (touch : Touch)
    (unwritten : ∀ writer offset bytes, touch = .ask (.writeAt writer offset bytes) →
      (writer, object) ∉ live watched.annals) :
    layers (watched.touch touch).annals object = layers watched.annals object := by
  have before := told.serial_of_live member
  cases touch with
  | ask request =>
    rw [Watched.touch]
    cases happened : request.occurrence? (watched.memory.answer request).1 with
    | none => rfl
    | some occurrence =>
      apply layers_cons before
      intro writer offset chunk wrote
      subst wrote
      obtain ⟨bytes, rfl⟩ := Request.eq_writeAt_of_wrote happened
      exact unwritten writer offset bytes rfl
  | close handle => rfl
  | put path bytes => exact layers_cons before (by simp)
  | misbehave amount kind => rfl

/-- A touch that leads a path to a file which is open has found it there. -/
theorem unnamed (told : Told watched.memory watched.annals) {handle : Handle} {object : ObjectId}
    (member : (handle, object) ∈ live watched.annals) (touch : Touch) (path : Path)
    (there : (watched.touch touch).memory.named path = some object) :
    watched.memory.named path = some object := by
  have before := told.serial_of_live member
  have shelved : shelf (watched.touch touch).annals path.key = some object :=
    ((Watched.told_touch told touch).named_eq path).symm.trans there
  apply (told.named_eq path).trans
  cases touch with
  | ask request =>
    rw [Watched.touch] at shelved
    cases happened : request.occurrence? (watched.memory.answer request).1 with
    | none =>
      rw [happened] at shelved
      exact shelved
    | some occurrence =>
      rw [happened] at shelved
      exact shelf_of_cons before shelved
  | close handle => exact shelf_of_cons before shelved
  | put place bytes => exact shelf_of_cons before shelved
  | misbehave amount kind => exact shelved

/-- All that isolation asks for is told by the annals. -/
theorem isolated (told : Told watched.memory watched.annals) : Isolated watched where
  named := by
    intro first second object here there
    exact told.apart ((told.named_eq first).symm.trans here) ((told.named_eq second).symm.trans there)
  leading := told.named_eq
  unnamed _ _ member := told.unnamed member
  shown := by
    intro path
    unfold Memory.contents Memory.file
    rw [told.named_eq]
    cases there : shelf watched.annals path.key with
    | none => rfl
    | some object =>
      obtain ⟨file, held⟩ := told.sound.named ((told.named_eq path).trans there)
      rw [Option.bind_some, held, Option.map_some, Option.map_some, told.bytes held]
  writing := by
    intro handle object member offset bytes path
    obtain ⟨file, behind, -⟩ := told.exists_behind member
    obtain ⟨names, contents⟩ := behind.writeAt_apart offset bytes path
    constructor
    · exact names
    · intro changed
      exact Decidable.byContradiction fun elsewhere => changed (contents elsewhere)
  moving := by
    intro handle object member offset bytes
    obtain ⟨file, behind, -⟩ := told.exists_behind member
    change (watched.memory.writeAt handle offset bytes).1 = _
    cases bytes with
    | nil =>
      rw [Memory.writeAt, behind.withObject_eq]
      rfl
    | cons byte rest =>
      have nonempty : 0 < (byte :: rest).length := Nat.succ_pos rest.length
      rw [behind.writeAt_eq offset nonempty, if_neg (List.cons_ne_nil byte rest)]
      cases watched.memory.interrupts <;> rfl
  reading := by
    intro handle object member offset count
    obtain ⟨file, behind, -⟩ := told.exists_behind member
    change (watched.memory.readAt handle offset count).1 = _
    rw [behind.readAt_eq, told.bytes behind.there]
    cases waits : watched.memory.interrupts with
    | succ interrupts => rfl
    | zero =>
      rw [if_pos rfl]
      exact congrArg Except.ok (take_drop_written _ _ _)
  lasting _ _ member touch unwritten := told.lasting member touch unwritten

end Told

namespace Watched

/-- Unlinked files stay isolated: after any history of a new memory, under any hooks, every file is seen
as it has been written to through its own handles, and nowhere else. -/
theorem isolated_after (touches : List Touch) : Isolated (after touches) :=
  (told_after touches).isolated

/-- A file is made and opened and removed, another is made in its place, and the handle on the first one
goes on writing. -/
def removedThenWritten : List Touch :=
  [.ask (.createNew ⟨"flag"⟩), .ask (.openFile ⟨"flag"⟩), .ask (.remove ⟨"flag"⟩),
    .ask (.createNew ⟨"flag"⟩), .ask (.writeAt ⟨0⟩ 1 [1])]

/-- The new file stays empty, and what was written to the old one is read through its handle, with a zero
in the gap. -/
theorem isolated_after_removal :
    (after removedThenWritten).memory.contents ⟨"flag"⟩ = some [] ∧
      ((after removedThenWritten).memory.answer (.readAt ⟨0⟩ 0 4)).1 = .ok [0, 1] ∧
      ((after removedThenWritten).memory.answer (.writeAt ⟨0⟩ 0 [1, 0])).1 = .ok 2 ∧
      ((after removedThenWritten).memory.answer (.writeAt ⟨0⟩ 0 [1, 0])).2.contents ⟨"flag"⟩ =
        some [] := by
  have isolated := isolated_after removedThenWritten
  have alive : (⟨0⟩, ⟨0⟩) ∈ live (after removedThenWritten).annals := by decide +kernel
  have there : shelf (after removedThenWritten).annals (Path.key ⟨"flag"⟩) = some ⟨1⟩ := by
    decide +kernel
  have empty : (after removedThenWritten).memory.contents ⟨"flag"⟩ = some [] := by
    rw [isolated.shown, there, Option.map_some]
    rfl
  constructor
  · exact empty
  constructor
  · rw [isolated.reading ⟨0⟩ ⟨0⟩ alive]
    rfl
  constructor
  · rw [isolated.moving ⟨0⟩ ⟨0⟩ alive]
    rfl
  · have apart := (isolated.writing ⟨0⟩ ⟨0⟩ alive 0 [1, 0] ⟨"flag"⟩).2
    rw [empty] at apart
    apply Decidable.byContradiction
    intro changed
    have named := apart changed
    rw [isolated.leading, there] at named
    cases named

end Watched

end CrashMarker
