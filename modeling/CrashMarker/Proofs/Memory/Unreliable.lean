/-
Module: CrashMarker.Proofs.Memory.Unreliable
Purpose: A memory whose calls may fail, and what one call then does to the file of one path.
Main exports:
  Memory.Unreliable, Memory.AtRest, Memory.InHand, and one lemma for each kind of call
-/
import CrashMarker.Execution
import CrashMarker.Proofs.Memory.Sound

namespace CrashMarker

/-!
An operation sees the file of its path in two ways.  Before it has opened the file it sees what lies
at the path, which is `AtRest`.  From then on the file is `InHand`: it is open under a handle of the
operation and still at the path.  Every call leads from one of these views to one of them, and closing
the handle leads back, so that no other fact about the tables of the memory is ever needed.
-/

namespace Memory

/-- The memory when so many bytes move at a time and so many transfers are interrupted next. -/
def paced (memory : Memory) (amount interrupts : Nat) : Memory :=
  { memory with maxTransfer := amount, interrupts }

/-- The memory after an answer that nobody has seen.  Nobody will use a handle opened so. -/
def disowned (memory : Memory) : (request : Request) → request.Answer → Memory
  | .openFile _, .ok handle => memory.close handle
  | _, _ => memory

/-- Answering as the memory does, but at any pace, with any transfer interrupted, and with any call
failing with one of the given errors, be it before or after it has taken effect. -/
inductive Unreliable (failures : StorageError → Prop) :
    (request : Request) → Memory → request.Answer → Memory → Prop where
  | served {request : Request} {memory after : Memory} {answer : request.Answer}
      (amount interrupts : Nat)
      (answered : (memory.paced amount interrupts).answer request = (answer, after)) :
      Unreliable failures request memory answer after
  | refused {request : Request} {memory : Memory} {cause : StorageError}
      (failing : failures cause) : Unreliable failures request memory (.error cause) memory
  | unseen {request : Request} {memory after : Memory} {answer : request.Answer}
      {cause : StorageError} (amount interrupts : Nat)
      (answered : (memory.paced amount interrupts).answer request = (answer, after))
      (failing : failures cause) :
      Unreliable failures request memory (.error cause) (after.disowned request answer)

/-- What lies at a path, in a memory that is in order. -/
structure AtRest (memory : Memory) (path : Path) (found : Option FileObject) : Prop where
  sound : memory.Sound
  quiet : memory.Quiet
  found : memory.file path = found

/-- The file at a path, open under a handle. -/
structure InHand (memory : Memory) (path : Path) (handle : Handle) (file : FileObject) : Prop where
  sound : memory.Sound
  quiet : memory.Quiet
  reached : ∃ object, memory.named path = some object ∧
    memory.handles.get? handle = some object ∧ memory.objects.get? object = some file

variable {memory after : Memory} {path : Path} {handle : Handle} {file : FileObject}
  {found : Option FileObject} {failures : StorageError → Prop}

/-- What the memory holds is at rest. -/
theorem atRest_holding (path : Path) (content : Option (List UInt8)) :
    (holding path content).AtRest path (content.map fun bytes => { bytes }) :=
  ⟨sound_holding path content, quiet_holding path content, file_holding path content⟩

theorem AtRest.paced (atRest : memory.AtRest path found) (amount interrupts : Nat) :
    (memory.paced amount interrupts).AtRest path found :=
  ⟨⟨atRest.sound.named, atRest.sound.opened, atRest.sound.numbered, atRest.sound.owned⟩,
    ⟨atRest.quiet.removes, atRest.quiet.races, atRest.quiet.opens, atRest.quiet.sizes⟩,
    atRest.found⟩

theorem InHand.paced (inHand : memory.InHand path handle file) (amount interrupts : Nat) :
    (memory.paced amount interrupts).InHand path handle file :=
  ⟨⟨inHand.sound.named, inHand.sound.opened, inHand.sound.numbered, inHand.sound.owned⟩,
    ⟨inHand.quiet.removes, inHand.quiet.races, inHand.quiet.opens, inHand.quiet.sizes⟩,
    inHand.reached⟩

/-- What is at rest at a path is what is seen there. -/
theorem AtRest.contents (atRest : memory.AtRest path found) :
    memory.contents path = found.map (·.bytes) := by
  rw [Memory.contents, atRest.found]

theorem AtRest.named_eq_none (atRest : memory.AtRest path none) : memory.named path = none := by
  cases named : memory.named path with
  | none => rfl
  | some object =>
    obtain ⟨file, there⟩ := atRest.sound.named named
    have nothing := atRest.found
    rw [Memory.file, named, Option.bind_some, there] at nothing
    cases nothing

theorem AtRest.exists_named (atRest : memory.AtRest path (some file)) :
    ∃ object, memory.named path = some object ∧ memory.objects.get? object = some file :=
  Option.bind_eq_some_iff.1 atRest.found

theorem AtRest.isSome_named (atRest : memory.AtRest path found) :
    (memory.named path).isSome = found.isSome := by
  cases found with
  | none => rw [atRest.named_eq_none]; rfl
  | some file =>
    obtain ⟨object, named, -⟩ := atRest.exists_named
    rw [named]; rfl

/-- A file in hand is still the file at its path. -/
theorem InHand.atRest (inHand : memory.InHand path handle file) :
    memory.AtRest path (some file) := by
  obtain ⟨object, named, -, there⟩ := inHand.reached
  exact ⟨inHand.sound, inHand.quiet, by rw [Memory.file, named]; exact there⟩

/-- The owner of the lock on a file has that file in hand. -/
theorem AtRest.inHand_of_owner (atRest : memory.AtRest path (some file))
    (owns : file.owner = some handle) : memory.InHand path handle file := by
  obtain ⟨object, named, there⟩ := atRest.exists_named
  exact ⟨atRest.sound, atRest.quiet, object, named, atRest.sound.owned there owns, there⟩

/-! ## Honest calls on a file in hand -/

/-- Calls through the handle work on the file in hand. -/
theorem InHand.withObject_eq (inHand : memory.InHand path handle file) :
    ∃ object, memory.handles.get? handle = some object ∧
      ∀ {α : Type} (body : ObjectId → FileObject → Except StorageError α × Memory),
        memory.withObject handle body = body object file := by
  obtain ⟨object, -, bound, there⟩ := inHand.reached
  refine ⟨object, bound, fun body => ?_⟩
  simp only [Memory.withObject, bound, there]

/-- A change to the file in hand that leaves it no owner but the handle or the one it had. -/
theorem InHand.updateObject (inHand : memory.InHand path handle file) {object : ObjectId}
    (bound : memory.handles.get? handle = some object) (change : FileObject → FileObject)
    (owner : ∀ file, (change file).owner = none ∨ (change file).owner = some handle ∨
      (change file).owner = file.owner) :
    (memory.updateObject object change).InHand path handle (change file) := by
  obtain ⟨other, named, alsoBound, there⟩ := inHand.reached
  have same : other = object := Option.some.inj (alsoBound.symm.trans bound)
  subst same
  refine ⟨inHand.sound.updateObject ?_, ⟨inHand.quiet.removes, inHand.quiet.races,
    inHand.quiet.opens, inHand.quiet.sizes⟩, other, named, bound, ?_⟩
  · intro before here taker takes
    rcases owner before with nobody | mine | kept
    · rw [nobody] at takes
      cases takes
    · rw [mine] at takes
      cases takes
      exact bound
    · rw [kept] at takes
      exact inHand.sound.owned here takes
  · simp only [Memory.updateObject, Table.get?_update, there, if_true, Option.map_some]

/-- Giving up the lock keeps the file in hand, with no lock of this handle. -/
theorem InHand.released (inHand : memory.InHand path handle file) {object : ObjectId}
    (bound : memory.handles.get? handle = some object) :
    (memory.updateObject object (Memory.released handle)).InHand path handle
      (Memory.released handle file) := by
  refine inHand.updateObject bound _ fun other => ?_
  unfold Memory.released
  split
  · exact Or.inl rfl
  · exact Or.inr (Or.inr rfl)

/-- Closing the handle puts the file to rest, with the lock given up if the handle held it. -/
theorem InHand.close (inHand : memory.InHand path handle file) :
    (memory.close handle).AtRest path (some (Memory.released handle file)) := by
  obtain ⟨object, named, bound, there⟩ := inHand.reached
  have released := inHand.released bound
  refine ⟨inHand.sound.close handle, ?_, ?_⟩
  · simp only [Memory.close, bound]
    exact ⟨released.quiet.removes, released.quiet.races, released.quiet.opens,
      released.quiet.sizes⟩
  · simp only [Memory.close, bound]
    exact released.atRest.found

/-- Nobody can give up a lock that is not theirs. -/
theorem released_eq_self (free : file.owner ≠ some handle) :
    Memory.released handle file = file := by
  rw [Memory.released, if_neg free]

/-- The size of a file in hand is told as it is. -/
theorem InHand.size_eq (inHand : memory.InHand path handle file) :
    memory.size handle = (.ok file.bytes.length, memory) := by
  obtain ⟨object, -, same⟩ := inHand.withObject_eq
  rw [Memory.size, same, inHand.quiet.sizes, wordSum_zero]

theorem InHand.sync_eq (inHand : memory.InHand path handle file) :
    memory.sync handle = (.ok (), memory) := by
  obtain ⟨object, -, same⟩ := inHand.withObject_eq
  rw [Memory.sync, same]

/-- A transfer never moves more than was asked for. -/
theorem transferLength_le (memory : Memory) (requested : Nat) :
    memory.transferLength requested ≤ requested := by
  unfold transferLength
  split
  · exact Nat.le_refl _
  · exact Nat.min_le_left _ _

/-- A transfer of anything moves something. -/
theorem transferLength_pos (memory : Memory) {requested : Nat} (wanted : 0 < requested) :
    0 < memory.transferLength requested := by
  unfold transferLength
  split <;> omega

/-! ## Calls on the path -/

/-- Asking whether a file is there changes nothing, and tells the truth or fails. -/
theorem AtRest.present (atRest : memory.AtRest path found)
    {answer : (Request.present path).Answer}
    (answered : Unreliable failures (.present path) memory answer after) :
    after.AtRest path found ∧
      (answer = .ok found.isSome ∨ ∃ cause, failures cause ∧ answer = .error cause) := by
  cases answered with
  | served amount interrupts answered =>
    cases answered
    have kept := atRest.paced amount interrupts
    exact ⟨kept, Or.inl (by rw [kept.isSome_named])⟩
  | refused failing => exact ⟨atRest, Or.inr ⟨_, failing, rfl⟩⟩
  | unseen amount interrupts answered failing =>
    cases answered
    exact ⟨atRest.paced amount interrupts, Or.inr ⟨_, failing, rfl⟩⟩

/-- A file is made exactly if none is there. -/
theorem AtRest.createNew_eq (atRest : memory.AtRest path found) :
    (∃ file, found = some file ∧ memory.createNew path = (.error (.alreadyExists path), memory)) ∨
      found = none ∧ (memory.createNew path).1 = .ok () ∧
        (memory.createNew path).2.AtRest path (some {}) := by
  cases found with
  | some file =>
    obtain ⟨object, named, -⟩ := atRest.exists_named
    exact Or.inl ⟨file, rfl, by simp only [Memory.createNew, named]⟩
  | none =>
    refine Or.inr ⟨rfl, ?_⟩
    simp only [Memory.createNew, atRest.named_eq_none]
    refine ⟨trivial, atRest.sound.put path [], ⟨atRest.quiet.removes, atRest.quiet.races,
      atRest.quiet.opens, atRest.quiet.sizes⟩, ?_⟩
    simp [Memory.file, Memory.named, Memory.put]

/-- Making a file where there is one fails and changes nothing.  Where there is none, an empty file
without an owner appears, if not before a failure then perhaps in spite of it. -/
theorem AtRest.createNew (atRest : memory.AtRest path found)
    {answer : (Request.createNew path).Answer}
    (answered : Unreliable failures (.createNew path) memory answer after) :
    (answer = .ok () ∧ found = none ∧ after.AtRest path (some {})) ∨
      (answer = .error (.alreadyExists path) ∧ found.isSome ∧ after.AtRest path found) ∨
      ∃ cause, failures cause ∧ answer = .error cause ∧
        (after.AtRest path found ∨ found = none ∧ after.AtRest path (some {})) := by
  cases answered with
  | served amount interrupts answered =>
    have kept := atRest.paced amount interrupts
    change (memory.paced amount interrupts).createNew path = _ at answered
    rcases kept.createNew_eq with ⟨file, rfl, same⟩ | ⟨rfl, made, there⟩
    · cases same.symm.trans answered
      exact Or.inr (Or.inl ⟨rfl, rfl, kept⟩)
    · rw [answered] at made there
      exact Or.inl ⟨made, rfl, there⟩
  | refused failing => exact Or.inr (Or.inr ⟨_, failing, rfl, Or.inl atRest⟩)
  | unseen amount interrupts answered failing =>
    have kept := atRest.paced amount interrupts
    change (memory.paced amount interrupts).createNew path = _ at answered
    refine Or.inr (Or.inr ⟨_, failing, rfl, ?_⟩)
    rcases kept.createNew_eq with ⟨file, rfl, same⟩ | ⟨rfl, -, there⟩
    · cases same.symm.trans answered
      exact Or.inl kept
    · rw [answered] at there
      exact Or.inr ⟨rfl, there⟩

/-- A file that is there is removed. -/
theorem AtRest.remove_eq (atRest : memory.AtRest path found) :
    (∃ file, found = some file ∧ (memory.remove path).1 = .ok () ∧
      (memory.remove path).2.AtRest path none) ∨
      found = none ∧ memory.remove path = (.error (.notFound path), memory) := by
  cases found with
  | some file =>
    obtain ⟨object, named, -⟩ := atRest.exists_named
    refine Or.inl ⟨file, rfl, ?_⟩
    simp only [Memory.remove, atRest.quiet.races, named, atRest.quiet.removes]
    refine ⟨trivial, atRest.sound.unlink path, ⟨atRest.quiet.removes, atRest.quiet.races,
      atRest.quiet.opens, atRest.quiet.sizes⟩, ?_⟩
    simp [Memory.file, Memory.named, Memory.unlink]
  | none =>
    refine Or.inr ⟨rfl, ?_⟩
    simp only [Memory.remove, atRest.quiet.races, atRest.named_eq_none]

/-- Removing leaves nothing at the path, unless it fails before it has taken effect. -/
theorem AtRest.remove (atRest : memory.AtRest path found)
    {answer : (Request.remove path).Answer}
    (answered : Unreliable failures (.remove path) memory answer after) :
    (answer = .ok () ∧ after.AtRest path none) ∨
      (answer = .error (.notFound path) ∧ found = none ∧ after.AtRest path none) ∨
      ∃ cause, failures cause ∧ answer = .error cause ∧
        (after.AtRest path found ∨ after.AtRest path none) := by
  cases answered with
  | served amount interrupts answered =>
    have kept := atRest.paced amount interrupts
    change (memory.paced amount interrupts).remove path = _ at answered
    rcases kept.remove_eq with ⟨file, rfl, gone, there⟩ | ⟨rfl, same⟩
    · rw [answered] at gone there
      exact Or.inl ⟨gone, there⟩
    · cases same.symm.trans answered
      exact Or.inr (Or.inl ⟨rfl, rfl, kept⟩)
  | refused failing => exact Or.inr (Or.inr ⟨_, failing, rfl, Or.inl atRest⟩)
  | unseen amount interrupts answered failing =>
    have kept := atRest.paced amount interrupts
    change (memory.paced amount interrupts).remove path = _ at answered
    refine Or.inr (Or.inr ⟨_, failing, rfl, ?_⟩)
    rcases kept.remove_eq with ⟨file, rfl, -, there⟩ | ⟨rfl, same⟩
    · rw [answered] at there
      exact Or.inr there
    · cases same.symm.trans answered
      exact Or.inl kept

/-- A file that is there is opened, under a handle that owns nothing. -/
theorem AtRest.openFile_eq (atRest : memory.AtRest path found) :
    (∃ file handle opened, found = some file ∧ memory.openFile path = (.ok handle, opened) ∧
      file.owner ≠ some handle ∧ opened.InHand path handle file) ∨
      found = none ∧ memory.openFile path = (.error (.notFound path), memory) := by
  cases found with
  | some file =>
    obtain ⟨object, named, there⟩ := atRest.exists_named
    refine Or.inl ⟨file, ⟨memory.nextHandle⟩,
      { memory with
        handles := memory.handles.set ⟨memory.nextHandle⟩ object
        nextHandle := memory.nextHandle + 1 }, rfl, ?_, ?_, ?_⟩
    · simp only [Memory.openFile, atRest.quiet.opens, named]
    · -- An owner is open, and the new handle was not.
      intro owns
      have bound := atRest.sound.owned there owns
      rw [atRest.sound.fresh_handle] at bound
      cases bound
    · exact ⟨atRest.sound.openFile named, ⟨atRest.quiet.removes, atRest.quiet.races,
        atRest.quiet.opens, atRest.quiet.sizes⟩, object, named, Table.get?_set_self _ _ _, there⟩
  | none =>
    refine Or.inr ⟨rfl, ?_⟩
    simp only [Memory.openFile, atRest.quiet.opens, atRest.named_eq_none]

/-- Opening takes the file in hand under a handle that has no lock on it yet. -/
theorem AtRest.openFile (atRest : memory.AtRest path found)
    {answer : (Request.openFile path).Answer}
    (answered : Unreliable failures (.openFile path) memory answer after) :
    (∃ file handle, answer = .ok handle ∧ found = some file ∧ file.owner ≠ some handle ∧
      after.InHand path handle file) ∨
      (∃ cause, answer = .error cause ∧ (failures cause ∨ found = none) ∧
        after.AtRest path found) := by
  cases answered with
  | served amount interrupts answered =>
    have kept := atRest.paced amount interrupts
    change (memory.paced amount interrupts).openFile path = _ at answered
    rcases kept.openFile_eq with ⟨file, handle, opened, rfl, same, free, inHand⟩ | ⟨rfl, same⟩
    · cases same.symm.trans answered
      exact Or.inl ⟨file, handle, rfl, rfl, free, inHand⟩
    · cases same.symm.trans answered
      exact Or.inr ⟨_, rfl, Or.inr rfl, kept⟩
  | refused failing => exact Or.inr ⟨_, rfl, Or.inl failing, atRest⟩
  | unseen amount interrupts answered failing =>
    have kept := atRest.paced amount interrupts
    change (memory.paced amount interrupts).openFile path = _ at answered
    refine Or.inr ⟨_, rfl, Or.inl failing, ?_⟩
    rcases kept.openFile_eq with ⟨file, handle, opened, rfl, same, free, inHand⟩ | ⟨rfl, same⟩
    · cases same.symm.trans answered
      have closed := inHand.close
      rw [released_eq_self free] at closed
      exact closed
    · cases same.symm.trans answered
      exact kept

/-! ## Calls on a file in hand -/

/-- Asking for the size changes nothing, and tells the truth or fails. -/
theorem InHand.size (inHand : memory.InHand path handle file)
    {answer : (Request.size handle).Answer}
    (answered : Unreliable failures (.size handle) memory answer after) :
    after.InHand path handle file ∧
      (answer = .ok file.bytes.length ∨ ∃ cause, failures cause ∧ answer = .error cause) := by
  cases answered with
  | served amount interrupts answered =>
    have kept := inHand.paced amount interrupts
    cases kept.size_eq.symm.trans answered
    exact ⟨kept, Or.inl rfl⟩
  | refused failing => exact ⟨inHand, Or.inr ⟨_, failing, rfl⟩⟩
  | unseen amount interrupts answered failing =>
    have kept := inHand.paced amount interrupts
    cases kept.size_eq.symm.trans answered
    exact ⟨kept, Or.inr ⟨_, failing, rfl⟩⟩

theorem InHand.sync (inHand : memory.InHand path handle file)
    {answer : (Request.sync handle).Answer}
    (answered : Unreliable failures (.sync handle) memory answer after) :
    after.InHand path handle file ∧
      (answer = .ok () ∨ ∃ cause, failures cause ∧ answer = .error cause) := by
  cases answered with
  | served amount interrupts answered =>
    have kept := inHand.paced amount interrupts
    cases kept.sync_eq.symm.trans answered
    exact ⟨kept, Or.inl rfl⟩
  | refused failing => exact ⟨inHand, Or.inr ⟨_, failing, rfl⟩⟩
  | unseen amount interrupts answered failing =>
    have kept := inHand.paced amount interrupts
    cases kept.sync_eq.symm.trans answered
    exact ⟨kept, Or.inr ⟨_, failing, rfl⟩⟩

/-- A read is interrupted, or it yields bytes of the file from the offset on. -/
theorem InHand.readAt_eq (inHand : memory.InHand path handle file) (offset count : Nat) :
    (∃ cause after, memory.readAt handle offset count = (.error cause, after) ∧
      cause.isInterrupted ∧ after.InHand path handle file) ∨
      memory.readAt handle offset count =
        (.ok ((file.bytes.drop offset).take (memory.transferLength count)), memory) := by
  obtain ⟨object, -, same⟩ := inHand.withObject_eq
  rw [Memory.readAt, same]
  cases memory.interrupts with
  | zero => exact Or.inr rfl
  | succ interrupts =>
    exact Or.inl ⟨_, _, rfl, rfl, inHand.paced memory.maxTransfer interrupts⟩

/-- Reading tells a beginning of what stands at the offset, and not an empty one while there is
anything to tell. -/
theorem InHand.readAt (inHand : memory.InHand path handle file) {offset count : Nat}
    (wanted : 0 < count) {answer : (Request.readAt handle offset count).Answer}
    (answered : Unreliable failures (.readAt handle offset count) memory answer after) :
    after.InHand path handle file ∧
      ((∃ moved, 0 < moved ∧ moved ≤ count ∧
        answer = .ok ((file.bytes.drop offset).take moved)) ∨
      ∃ cause, (failures cause ∨ cause.isInterrupted) ∧ answer = .error cause) := by
  cases answered with
  | served amount interrupts answered =>
    have kept := inHand.paced amount interrupts
    change (memory.paced amount interrupts).readAt handle offset count = _ at answered
    rcases kept.readAt_eq offset count with ⟨cause, left, same, interrupted, there⟩ | same
    · cases same.symm.trans answered
      exact ⟨there, Or.inr ⟨cause, Or.inr interrupted, rfl⟩⟩
    · cases same.symm.trans answered
      exact ⟨kept, Or.inl ⟨_, transferLength_pos _ wanted, transferLength_le _ _, rfl⟩⟩
  | refused failing => exact ⟨inHand, Or.inr ⟨_, Or.inl failing, rfl⟩⟩
  | unseen amount interrupts answered failing =>
    have kept := inHand.paced amount interrupts
    change (memory.paced amount interrupts).readAt handle offset count = _ at answered
    refine ⟨?_, Or.inr ⟨_, Or.inl failing, rfl⟩⟩
    rcases kept.readAt_eq offset count with ⟨cause, left, same, interrupted, there⟩ | same
    · cases same.symm.trans answered
      exact there
    · cases same.symm.trans answered
      exact kept

/-- A write is interrupted, or it lays down a piece of what it was given. -/
theorem InHand.writeAt_eq (inHand : memory.InHand path handle file) (offset : Nat)
    {bytes : List UInt8} (nonempty : 0 < bytes.length) :
    (0 < memory.interrupts ∧ ∃ cause after, memory.writeAt handle offset bytes =
        (.error cause, after) ∧ cause.isInterrupted ∧ after.InHand path handle file) ∨
      ∃ after, memory.writeAt handle offset bytes =
          (.ok (memory.transferLength bytes.length), after) ∧
        after.InHand path handle { file with
          bytes := overlay file.bytes offset (bytes.take (memory.transferLength bytes.length)) } := by
  have notEmpty : bytes.isEmpty = false := by
    cases bytes with
    | nil => cases nonempty
    | cons byte rest => rfl
  obtain ⟨object, bound, same⟩ := inHand.withObject_eq
  rw [Memory.writeAt, same, notEmpty]
  cases memory.interrupts with
  | succ interrupts =>
    exact Or.inl ⟨Nat.succ_pos _, _, _, rfl, rfl, inHand.paced memory.maxTransfer interrupts⟩
  | zero =>
    let chunk := bytes.take (memory.transferLength bytes.length)
    have changed := inHand.updateObject bound
      (fun file => { file with bytes := overlay file.bytes offset chunk })
      fun _ => Or.inr (Or.inr rfl)
    exact Or.inr ⟨_, rfl,
      ⟨changed.sound.named, changed.sound.opened, changed.sound.numbered, changed.sound.owned⟩,
      ⟨changed.quiet.removes, changed.quiet.races, changed.quiet.opens, changed.quiet.sizes⟩,
      changed.reached⟩

/-- A memory may write the whole of the bytes and say that it has failed. -/
theorem InHand.writeAt_unseen (inHand : memory.InHand path handle file) (offset : Nat)
    {bytes : List UInt8} (nonempty : 0 < bytes.length) {cause : StorageError}
    (failing : failures cause) :
    ∃ after, Unreliable failures (.writeAt handle offset bytes) memory (.error cause) after ∧
      after.InHand path handle { file with bytes := overlay file.bytes offset bytes } := by
  rcases (inHand.paced 0 0).writeAt_eq offset nonempty with ⟨impossible, -⟩ |
    ⟨after, same, there⟩
  · cases impossible
  · have whole : (memory.paced 0 0).transferLength bytes.length = bytes.length := rfl
    rw [whole, List.take_length] at there
    exact ⟨after, .unseen 0 0 same failing, there⟩

/-- Writing lays a beginning of the bytes over the file, and not an empty one.  When it fails, it may
have done so all the same. -/
theorem InHand.writeAt (inHand : memory.InHand path handle file) {offset : Nat}
    {bytes : List UInt8} (nonempty : 0 < bytes.length)
    {answer : (Request.writeAt handle offset bytes).Answer}
    (answered : Unreliable failures (.writeAt handle offset bytes) memory answer after) :
    (∃ moved, 0 < moved ∧ moved ≤ bytes.length ∧ answer = .ok moved ∧ after.InHand path handle
      { file with bytes := overlay file.bytes offset (bytes.take moved) }) ∨
      ∃ cause, (failures cause ∨ cause.isInterrupted) ∧ answer = .error cause ∧
        (after.InHand path handle file ∨ ∃ moved, moved ≤ bytes.length ∧
          after.InHand path handle
            { file with bytes := overlay file.bytes offset (bytes.take moved) }) := by
  cases answered with
  | served amount interrupts answered =>
    have kept := inHand.paced amount interrupts
    change (memory.paced amount interrupts).writeAt handle offset bytes = _ at answered
    rcases kept.writeAt_eq offset nonempty with ⟨-, cause, left, same, interrupted, there⟩ |
      ⟨left, same, there⟩
    · cases same.symm.trans answered
      exact Or.inr ⟨cause, Or.inr interrupted, rfl, Or.inl there⟩
    · cases same.symm.trans answered
      exact Or.inl ⟨_, transferLength_pos _ nonempty, transferLength_le _ _, rfl, there⟩
  | refused failing => exact Or.inr ⟨_, Or.inl failing, rfl, Or.inl inHand⟩
  | unseen amount interrupts answered failing =>
    have kept := inHand.paced amount interrupts
    change (memory.paced amount interrupts).writeAt handle offset bytes = _ at answered
    refine Or.inr ⟨_, Or.inl failing, rfl, ?_⟩
    rcases kept.writeAt_eq offset nonempty with ⟨-, cause, left, same, interrupted, there⟩ |
      ⟨left, same, there⟩
    · cases same.symm.trans answered
      exact Or.inl there
    · cases same.symm.trans answered
      exact Or.inr ⟨_, transferLength_le _ _, there⟩

/-- A lock is taken if nobody has it.  Otherwise the answer is whether this handle has it. -/
theorem InHand.tryLock_eq (inHand : memory.InHand path handle file) :
    (∃ after, memory.tryLock handle = (.ok true, after) ∧ file.owner = none ∧
      after.InHand path handle { file with owner := some handle }) ∨
      ∃ owner, memory.tryLock handle = (.ok (owner = handle), memory) ∧ file.owner = some owner := by
  obtain ⟨object, bound, same⟩ := inHand.withObject_eq
  rw [Memory.tryLock, same]
  cases owns : file.owner with
  | none =>
    exact Or.inl ⟨_, rfl, rfl, inHand.updateObject bound _ fun _ => Or.inr (Or.inl rfl)⟩
  | some owner => exact Or.inr ⟨owner, rfl, rfl⟩

/-- The lock goes to the handle unless another handle has it.  Whatever becomes of the call, only
the handle itself can have become the owner, so that giving the lock up undoes it. -/
theorem InHand.tryLock (inHand : memory.InHand path handle file) (free : file.owner ≠ some handle)
    {answer : (Request.tryLock handle).Answer}
    (answered : Unreliable failures (.tryLock handle) memory answer after) :
    (answer = .ok true ∧ file.owner = none ∧
      after.InHand path handle { file with owner := some handle }) ∨
      (answer = .ok false ∧ file.owner.isSome ∧ after.InHand path handle file) ∨
      ∃ cause held, failures cause ∧ answer = .error cause ∧ after.InHand path handle held ∧
        Memory.released handle held = file := by
  cases answered with
  | served amount interrupts answered =>
    have kept := inHand.paced amount interrupts
    change (memory.paced amount interrupts).tryLock handle = _ at answered
    rcases kept.tryLock_eq with ⟨left, same, nobody, there⟩ | ⟨owner, same, owns⟩
    · cases same.symm.trans answered
      exact Or.inl ⟨rfl, nobody, there⟩
    · have other : owner ≠ handle := by
        rintro rfl
        exact free owns
      cases same.symm.trans answered
      exact Or.inr (Or.inl ⟨by simp [other], by rw [owns]; rfl, kept⟩)
  | refused failing =>
    exact Or.inr (Or.inr ⟨_, file, failing, rfl, inHand, released_eq_self free⟩)
  | unseen amount interrupts answered failing =>
    have kept := inHand.paced amount interrupts
    change (memory.paced amount interrupts).tryLock handle = _ at answered
    apply Or.inr
    apply Or.inr
    rcases kept.tryLock_eq with ⟨left, same, nobody, there⟩ | ⟨owner, same, owns⟩
    · cases same.symm.trans answered
      refine ⟨_, _, failing, rfl, there, ?_⟩
      simp [Memory.released, ← nobody]
    · cases same.symm.trans answered
      exact ⟨_, file, failing, rfl, kept, released_eq_self free⟩

/-- Giving up a lock goes well, and the handle has none afterwards. -/
theorem InHand.unlock_eq (inHand : memory.InHand path handle file) :
    ∃ after, memory.unlock handle = (.ok (), after) ∧
      after.InHand path handle (Memory.released handle file) := by
  obtain ⟨object, bound, same⟩ := inHand.withObject_eq
  rw [Memory.unlock, same]
  exact ⟨_, rfl, inHand.released bound⟩

theorem released_released : Memory.released handle (Memory.released handle file) =
    Memory.released handle file := by
  refine released_eq_self fun owns => ?_
  unfold Memory.released at owns
  split at owns
  next => cases owns
  next other => exact other owns

/-- Giving the lock up.  When that fails it may have been given up or not, and closing the handle
makes no difference between the two. -/
theorem InHand.unlock (inHand : memory.InHand path handle file)
    {answer : (Request.unlock handle).Answer}
    (answered : Unreliable failures (.unlock handle) memory answer after) :
    ∃ held, after.InHand path handle held ∧
      Memory.released handle held = Memory.released handle file ∧
      (answer = .ok () ∨ ∃ cause, failures cause ∧ answer = .error cause) := by
  cases answered with
  | served amount interrupts answered =>
    obtain ⟨left, same, there⟩ := (inHand.paced amount interrupts).unlock_eq
    change (memory.paced amount interrupts).unlock handle = _ at answered
    cases same.symm.trans answered
    exact ⟨_, there, released_released, Or.inl rfl⟩
  | refused failing => exact ⟨file, inHand, rfl, Or.inr ⟨_, failing, rfl⟩⟩
  | unseen amount interrupts answered failing =>
    obtain ⟨left, same, there⟩ := (inHand.paced amount interrupts).unlock_eq
    change (memory.paced amount interrupts).unlock handle = _ at answered
    cases same.symm.trans answered
    exact ⟨_, there, released_released, Or.inr ⟨_, failing, rfl⟩⟩

/-! ## What the file holds, whichever handle is used -/

/-- A change that keeps the bytes of a file is not seen at any path. -/
theorem contents_updateObject {object : ObjectId} {change : FileObject → FileObject}
    (kept : ∀ file, (change file).bytes = file.bytes) (path : Path) :
    (memory.updateObject object change).contents path = memory.contents path := by
  have objects : ∀ other, ((memory.updateObject object change).objects.get? other).map (·.bytes) =
      (memory.objects.get? other).map (·.bytes) := by
    intro other
    simp only [Memory.updateObject, Table.get?_update]
    split
    next same =>
      subst same
      cases memory.objects.get? other with
      | none => rfl
      | some file => simp [kept]
    next => rfl
  have names : (memory.updateObject object change).named path = memory.named path := rfl
  unfold Memory.contents Memory.file
  rw [names]
  cases memory.named path with
  | none => rfl
  | some other => exact objects other

theorem bytes_released (file : FileObject) : (Memory.released handle file).bytes = file.bytes := by
  unfold Memory.released
  split <;> rfl

/-- Closing a handle does not touch what any file holds. -/
theorem contents_close (memory : Memory) (handle : Handle) (path : Path) :
    (memory.close handle).contents path = memory.contents path := by
  unfold Memory.close
  cases memory.handles.get? handle with
  | none => rfl
  | some object =>
    have kept : (memory.updateObject object (released handle)).contents path =
        memory.contents path := contents_updateObject bytes_released path
    exact kept

theorem contents_sync (memory : Memory) (handle : Handle) (path : Path) :
    (memory.sync handle).2.contents path = memory.contents path := by
  unfold Memory.sync Memory.withObject
  split
  · rfl
  · split <;> rfl

/-- Writing lays a beginning of the bytes over the file at the path if the handle is on that file. -/
theorem contents_writeAt (memory : Memory) (handle : Handle) (offset : Nat) (bytes : List UInt8)
    (path : Path) :
    (memory.writeAt handle offset bytes).2.contents path = memory.contents path ∨
      ∃ before moved, memory.contents path = some before ∧
        (memory.writeAt handle offset bytes).2.contents path =
          some (overlay before offset (bytes.take moved)) := by
  unfold Memory.writeAt Memory.withObject
  cases bound : memory.handles.get? handle with
  | none => exact Or.inl rfl
  | some object =>
    simp only
    cases there : memory.objects.get? object with
    | none => exact Or.inl rfl
    | some file =>
      simp only
      split
      · exact Or.inl rfl
      · split
        next => exact Or.inl rfl
        next =>
          cases named : memory.named path with
          | none =>
            left
            have names := named
            unfold Memory.named at names
            simp [Memory.contents, Memory.file, Memory.named, Memory.updateObject, names]
          | some other =>
            have names := named
            unfold Memory.named at names
            by_cases same : other = object
            · right
              subst same
              refine ⟨file.bytes, memory.transferLength bytes.length, ?_, ?_⟩
              · simp [Memory.contents, Memory.file, named, there]
              · simp [Memory.contents, Memory.file, Memory.named, Memory.updateObject, names,
                  Table.get?_update, there]
            · left
              simp [Memory.contents, Memory.file, Memory.named, Memory.updateObject, names,
                Table.get?_update, same]

theorem Unreliable.contents_sync
    {answer : (Request.sync handle).Answer}
    (answered : Unreliable failures (.sync handle) memory answer after) (path : Path) :
    after.contents path = memory.contents path := by
  cases answered with
  | served amount interrupts answered =>
    change (memory.paced amount interrupts).sync handle = _ at answered
    have kept := Memory.contents_sync (memory.paced amount interrupts) handle path
    rw [answered] at kept
    exact kept
  | refused failing => rfl
  | unseen amount interrupts answered failing =>
    change (memory.paced amount interrupts).sync handle = _ at answered
    have kept := Memory.contents_sync (memory.paced amount interrupts) handle path
    rw [answered] at kept
    exact kept

/-- However a write ends, a path shows what it showed before, or that with a piece of the bytes laid
over it. -/
theorem Unreliable.contents_writeAt {offset : Nat} {bytes : List UInt8}
    {answer : (Request.writeAt handle offset bytes).Answer}
    (answered : Unreliable failures (.writeAt handle offset bytes) memory answer after)
    (path : Path) :
    after.contents path = memory.contents path ∨
      ∃ before moved, memory.contents path = some before ∧
        after.contents path = some (overlay before offset (bytes.take moved)) := by
  cases answered with
  | served amount interrupts answered =>
    change (memory.paced amount interrupts).writeAt handle offset bytes = _ at answered
    have written := Memory.contents_writeAt (memory.paced amount interrupts) handle offset bytes path
    rw [answered] at written
    exact written
  | refused failing => exact Or.inl rfl
  | unseen amount interrupts answered failing =>
    change (memory.paced amount interrupts).writeAt handle offset bytes = _ at answered
    have written := Memory.contents_writeAt (memory.paced amount interrupts) handle offset bytes path
    rw [answered] at written
    exact written

/-- What is permitted is what the file at a path holds. -/
def Shows (path : Path) (permitted : Option (List UInt8) → Prop) (memory : Memory) : Prop :=
  permitted (memory.contents path)

variable {permitted : Option (List UInt8) → Prop}

theorem shows_anything (memory : Memory) (path : Path) : memory.Shows path fun _ => True := trivial

theorem Shows.close (shows : memory.Shows path permitted) (handle : Handle) :
    (memory.close handle).Shows path permitted := by
  unfold Shows
  rw [contents_close]
  exact shows

/-- Whether the contents at a path are permitted is a matter of the file there. -/
theorem AtRest.shows_iff (atRest : memory.AtRest path found) :
    memory.Shows path permitted ↔ permitted (found.map (·.bytes)) := by
  rw [Shows, atRest.contents]

theorem InHand.shows_iff (inHand : memory.InHand path handle file) :
    memory.Shows path permitted ↔ permitted (some file.bytes) :=
  inHand.atRest.shows_iff

/-- Whether a handle has the lock does not change what its file holds. -/
theorem InHand.shows_of_released {held : FileObject} (inHand : memory.InHand path handle held)
    (same : Memory.released handle held = file) (showing : permitted (some file.bytes)) :
    memory.Shows path permitted := by
  apply inHand.shows_iff.2
  rw [← same, bytes_released] at showing
  exact showing

/-- Closing a handle leads back to the file as it was without the lock of that handle. -/
theorem InHand.atRest_close {held : FileObject} (inHand : memory.InHand path handle held)
    (same : Memory.released handle held = file) :
    (memory.close handle).AtRest path (some file) := by
  rw [← same]
  exact inHand.close

end Memory

end CrashMarker
