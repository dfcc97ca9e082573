/-
Module: CrashMarker.Proofs.Memory.Sound
Purpose: The tables of a memory fit together, and every change a call makes keeps it so.
Main exports: Memory.Sound, Memory.Quiet, Memory.holding, Memory.sound_holding
-/
import CrashMarker.Storage.Memory

namespace CrashMarker

namespace Memory

/-- Names and handles lead to files, the numbers of files and handles to come are free, and the
owner of a lock is an open handle on the very file that it locks. -/
structure Sound (memory : Memory) : Prop where
  named : ∀ {key object}, memory.names.get? key = some object →
    ∃ file, memory.objects.get? object = some file
  opened : ∀ {handle object}, memory.handles.get? handle = some object →
    handle.serial < memory.nextHandle ∧ ∃ file, memory.objects.get? object = some file
  numbered : ∀ {object file}, memory.objects.get? object = some file →
    object.serial < memory.nextObject
  owned : ∀ {object file owner}, memory.objects.get? object = some file →
    file.owner = some owner → memory.handles.get? owner = some object

/-- No removal and no opening is asked to fail, and sizes are told as they are. -/
structure Quiet (memory : Memory) : Prop where
  removes : memory.failingRemoves = 0
  races : memory.racingRemoves = 0
  opens : memory.failingOpens = 0
  sizes : memory.extraSize = 0

/-- The memory with nothing in it but a file at a path, if there is to be one. -/
def holding (path : Path) : Option (List UInt8) → Memory
  | none => {}
  | some bytes => ({} : Memory).put path bytes

namespace Sound

variable {memory : Memory}

/-- An empty memory fits together. -/
theorem empty : Sound {} where
  named found := by cases found
  opened found := by cases found
  numbered found := by cases found
  owned found := by cases found

/-- A new object is none that a name or a handle leads to. -/
theorem fresh_object (sound : memory.Sound) :
    memory.objects.get? ⟨memory.nextObject⟩ = none := by
  cases found : memory.objects.get? ⟨memory.nextObject⟩ with
  | none => rfl
  | some file => exact absurd (sound.numbered found) (Nat.lt_irrefl _)

/-- A new handle is not open yet. -/
theorem fresh_handle (sound : memory.Sound) :
    memory.handles.get? ⟨memory.nextHandle⟩ = none := by
  cases found : memory.handles.get? ⟨memory.nextHandle⟩ with
  | none => rfl
  | some object => exact absurd (sound.opened found).1 (Nat.lt_irrefl _)

/-- A new file has a number that no file has had, and nobody owns it. -/
theorem put (sound : memory.Sound) (path : Path) (bytes : List UInt8) :
    (memory.put path bytes).Sound := by
  have fresh := sound.fresh_object
  have kept : ∀ {object file}, memory.objects.get? object = some file →
      (memory.put path bytes).objects.get? object = some file := by
    intro object file found
    have old : object ≠ ⟨memory.nextObject⟩ := by
      rintro rfl
      rw [fresh] at found
      cases found
    rw [← found]
    exact Table.get?_set_of_ne _ _ old
  constructor
  · intro key object found
    simp only [Memory.put, Table.get?_set] at found
    split at found
    · cases found
      exact ⟨{ bytes }, Table.get?_set_self _ _ _⟩
    · obtain ⟨file, there⟩ := sound.named found
      exact ⟨file, kept there⟩
  · intro handle object found
    obtain ⟨given, file, there⟩ := sound.opened found
    exact ⟨given, file, kept there⟩
  · intro object file found
    simp only [Memory.put, Table.get?_set] at found ⊢
    split at found
    next new =>
      subst new
      exact Nat.lt_succ_self _
    next => exact Nat.lt_succ_of_lt (sound.numbered found)
  · intro object file owner found owns
    simp only [Memory.put, Table.get?_set] at found ⊢
    split at found
    · cases found
      cases owns
    · exact sound.owned found owns

/-- Removing a name leads none astray. -/
theorem unlink (sound : memory.Sound) (path : Path) : (memory.unlink path).Sound where
  named := by
    intro key object found
    simp only [Memory.unlink, Table.get?_erase] at found
    split at found
    · cases found
    · exact sound.named found
  opened := sound.opened
  numbered := sound.numbered
  owned := sound.owned

/-- Changing a file is harmless if a lock that is taken by it goes to a handle on that file. -/
theorem updateObject (sound : memory.Sound) {object : ObjectId} {change : FileObject → FileObject}
    (owner : ∀ file, memory.objects.get? object = some file → ∀ handle,
      (change file).owner = some handle → memory.handles.get? handle = some object) :
    (memory.updateObject object change).Sound := by
  have kept : ∀ {other file}, memory.objects.get? other = some file →
      ∃ changed, (memory.updateObject object change).objects.get? other = some changed := by
    intro other file found
    simp only [Memory.updateObject, Table.get?_update]
    split
    next same =>
      subst same
      exact ⟨change file, by rw [found]; rfl⟩
    next => exact ⟨file, found⟩
  constructor
  · intro key other found
    obtain ⟨file, there⟩ := sound.named found
    exact kept there
  · intro handle other found
    obtain ⟨given, file, there⟩ := sound.opened found
    exact ⟨given, kept there⟩
  · intro other file found
    simp only [Memory.updateObject, Table.get?_update] at found
    split at found
    next same =>
      obtain ⟨before, there, -⟩ := Option.map_eq_some_iff.1 found
      subst same
      exact sound.numbered there
    next => exact sound.numbered found
  · intro other file handle found owns
    simp only [Memory.updateObject, Table.get?_update] at found
    split at found
    next same =>
      obtain ⟨before, there, changed⟩ := Option.map_eq_some_iff.1 found
      subst same
      exact owner before there handle (changed ▸ owns)
    next => exact sound.owned found owns

/-- The memory after a path has been opened under a new handle. -/
theorem openFile (sound : memory.Sound) {path : Path} {object : ObjectId}
    (found : memory.named path = some object) :
    Sound { memory with
      handles := memory.handles.set ⟨memory.nextHandle⟩ object
      nextHandle := memory.nextHandle + 1 } where
  named := sound.named
  opened := by
    intro handle other bound
    rw [Table.get?_set] at bound
    split at bound
    next new =>
      cases bound
      subst new
      exact ⟨Nat.lt_succ_self _, sound.named found⟩
    next =>
      obtain ⟨given, there⟩ := sound.opened bound
      exact ⟨Nat.lt_succ_of_lt given, there⟩
  numbered := sound.numbered
  owned := by
    intro other file owner there owns
    have bound := sound.owned there owns
    rw [Table.get?_set_of_ne, bound]
    rintro rfl
    rw [sound.fresh_handle] at bound
    cases bound

/-- Closing a handle frees what it owned, so no lock is left to a closed handle. -/
theorem close (sound : memory.Sound) (handle : Handle) : (memory.close handle).Sound := by
  unfold Memory.close
  cases bound : memory.handles.get? handle with
  | none => exact sound
  | some object =>
    have released : (memory.updateObject object (Memory.released handle)).Sound := by
      refine sound.updateObject fun file there owner owns => ?_
      unfold Memory.released at owns
      split at owns
      · cases owns
      · exact sound.owned there owns
    constructor
    · exact released.named
    · intro other behind found
      simp only [Table.get?_erase] at found
      split at found
      · cases found
      · exact released.opened found
    · exact released.numbered
    · intro other file owner found owns
      have behind : memory.handles.get? owner = some other := released.owned found owns
      rw [Table.get?_erase_of_ne]
      · exact behind
      · -- The lock of the handle itself has been given up just now.
        rintro rfl
        rw [bound] at behind
        cases behind
        simp only [Memory.updateObject, Table.get?_update, if_true] at found
        obtain ⟨before, -, changed⟩ := Option.map_eq_some_iff.1 found
        rw [← changed] at owns
        unfold Memory.released at owns
        split at owns
        next => cases owns
        next other => exact other owns

end Sound

theorem sound_holding (path : Path) (content : Option (List UInt8)) :
    (holding path content).Sound := by
  cases content with
  | none => exact Sound.empty
  | some bytes => exact Sound.empty.put path bytes

theorem quiet_holding (path : Path) (content : Option (List UInt8)) :
    (holding path content).Quiet := by
  cases content <;> exact ⟨rfl, rfl, rfl, rfl⟩

theorem file_holding (path : Path) (content : Option (List UInt8)) :
    (holding path content).file path = content.map fun bytes => { bytes } := by
  cases content with
  | none => rfl
  | some bytes => simp [holding, file, named, put]

end Memory

end CrashMarker
