/-
Module: CrashMarker.Proofs.Memory.LockTable
Purpose: Whom the locks of a memory belong to after any history, and what each call makes of them.
Main exports: Rightful, Watched.rightful_after
-/
import Mathlib.Logic.Function.Basic
import CrashMarker.Proofs.Memory.Annals
import CrashMarker.Proofs.Memory.Sighted

namespace CrashMarker

/-!
A lock is given up without a word when its handle is closed, and a file that has been replaced keeps
the lock it had for as long as somebody has it open.  `Rightful` says that no lock is ever left to a
handle that is closed, that none is taken from a live one, and that the lock on what is at a path now is
a matter of the handles on that very file.  It speaks of the annals wherever it speaks of handles.
-/

open Annals

/-- The locks of a memory are in the right hands, and every call that follows leaves them there. -/
structure Rightful (memory : Memory) (annals : List Occurrence) : Prop where
  /-- The numbers of live handles stay below the number of handles opened so far, so that no number is
  given twice before the numbers themselves run out. -/
  serials : ∀ entry ∈ live annals, entry.1.serial < opens annals
  /-- A lock is free, or exactly one live handle has it, and that one is open on this file. -/
  owned : ∀ object, memory.owner object = none ∨ ∃ owner, memory.owner object = some owner ∧
    (live annals).filter (·.1 = owner) = [(owner, object)]
  /-- Asking for a lock succeeds unless another live handle on the file has it. -/
  taking : ∀ handle object, (handle, object) ∈ live annals →
    ∃ taken, (memory.answer (.tryLock handle)).1 = .ok taken ∧
      (taken = true ↔ ¬ ∃ other, other ≠ handle ∧ (other, object) ∈ live annals ∧
        memory.owner object = some other) ∧
      (memory.answer (.tryLock handle)).2.owner =
        if taken then Function.update memory.owner object (some handle) else memory.owner
  /-- Giving up a lock that somebody else has, or nobody, changes no lock. -/
  keeping : ∀ handle object, (handle, object) ∈ live annals → memory.owner object ≠ some handle →
    (memory.answer (.unlock handle)).2.owner = memory.owner ∧
      (memory.close handle).owner = memory.owner
  /-- Giving up one's own lock frees that file and no other. -/
  freeing : ∀ handle object, (handle, object) ∈ live annals → memory.owner object = some handle →
    (memory.answer (.unlock handle)).2.owner = Function.update memory.owner object none ∧
      (memory.close handle).owner = Function.update memory.owner object none
  /-- No other call touches a lock. -/
  others : ∀ request : Request, (∀ handle, request ≠ .tryLock handle ∧ request ≠ .unlock handle) →
    (memory.answer request).2.owner = memory.owner
  /-- A path is locked if some live handle owns the file that is there now. -/
  locked : ∀ path, memory.isLocked path = true ↔ ∃ handle object,
    shelf annals path.key = some object ∧ (handle, object) ∈ live annals ∧
      memory.owner object = some handle
  /-- A file that is put into place is there and is not locked, and the one whose place it takes keeps
  its lock. -/
  replaced : ∀ path bytes, (memory.put path bytes).file path = some { bytes } ∧
    (memory.put path bytes).isLocked path = false ∧ (memory.put path bytes).owner = memory.owner
  /-- A file can be made where there is none.  It is there then, empty and not locked, whatever was there
  before. -/
  recreated : ∀ path,
    ((memory.answer (.createNew path)).1 = .ok () ↔ shelf annals path.key = none) ∧
      ((memory.answer (.createNew path)).1 = .ok () →
        (memory.answer (.createNew path)).2.file path = some {} ∧
          (memory.answer (.createNew path)).2.isLocked path = false)
  /-- Unless openings are made to fail, whatever is at a path can be opened, under the next number. -/
  opening : ∀ path object, shelf annals path.key = some object → memory.failingOpens = 0 →
    (memory.answer (.openFile path)).1 = .ok ⟨opens annals⟩

namespace Told

variable {memory : Memory} {annals : List Occurrence} {handle : Handle} {object : ObjectId}

/-- There is no second entry for a live handle. -/
theorem filter_live (told : Told memory annals) (member : (handle, object) ∈ live annals) :
    (live annals).filter (·.1 = handle) = [(handle, object)] := by
  have distinct := told.distinct
  revert member distinct
  generalize live annals = entries
  intro member distinct
  induction entries with
  | nil => cases member
  | cons entry rest ih =>
    rw [List.map_cons, List.nodup_cons] at distinct
    obtain ⟨absent, distinct⟩ := distinct
    rcases List.mem_cons.1 member with here | later
    · subst here
      have others : rest.filter (·.1 = handle) = [] := by
        apply List.filter_eq_nil_iff.2
        intro other found same
        exact absent (List.mem_map.2 ⟨other, found, of_decide_eq_true same⟩)
      rw [List.filter_cons_of_pos (by simp), others]
    · have different : entry.1 ≠ handle := by
        intro same
        exact absent (List.mem_map.2 ⟨_, later, same.symm⟩)
      rw [List.filter_cons_of_neg (by simpa using different)]
      exact ih later distinct

/-- A lock is to be had unless another live handle has it. -/
theorem taking (told : Told memory annals) (member : (handle, object) ∈ live annals) :
    ∃ taken, (memory.answer (.tryLock handle)).1 = .ok taken ∧
      (taken = true ↔ ¬ ∃ other, other ≠ handle ∧ (other, object) ∈ live annals ∧
        memory.owner object = some other) ∧
      (memory.answer (.tryLock handle)).2.owner =
        if taken then Function.update memory.owner object (some handle) else memory.owner := by
  obtain ⟨file, behind, owner⟩ := told.exists_behind member
  cases held : file.owner with
  | none =>
    rw [held] at owner
    have answered : memory.answer (.tryLock handle) = _ := behind.tryLock_eq held
    rw [answered]
    refine ⟨true, rfl, ?_, ?_⟩
    · simp [owner]
    · funext other
      rw [Memory.owner_updateObject, behind.there]
      simp [Function.update_apply]
  | some holder =>
    rw [held] at owner
    have answered : memory.answer (.tryLock handle) = (.ok (decide (holder = handle)), memory) := by
      change memory.tryLock handle = _
      rw [Memory.tryLock, behind.withObject_eq, held]
    have alive : (holder, object) ∈ live annals :=
      (told.handles _ _).1 (told.sound.bound_of_owner owner)
    rw [answered]
    refine ⟨_, rfl, ?_, ?_⟩
    · rw [decide_eq_true_iff]
      constructor
      · rintro rfl ⟨other, different, -, owns⟩
        exact different (Option.some.inj (owns.symm.trans owner))
      · intro nobody
        by_contra different
        exact nobody ⟨holder, different, alive, owner⟩
    · split
      next own =>
        -- The handle asks for the lock that it has already.
        rw [← of_decide_eq_true own, ← owner, Function.update_eq_self]
      next => rfl

/-- Giving up a lock works for the owner only. -/
theorem owner_unlock (told : Told memory annals) (member : (handle, object) ∈ live annals) :
    (memory.answer (.unlock handle)).2.owner =
      if memory.owner object = some handle then Function.update memory.owner object none
      else memory.owner := by
  obtain ⟨file, behind, -⟩ := told.exists_behind member
  have answered : memory.answer (.unlock handle) =
      (.ok (), memory.updateObject object (Memory.released handle)) := behind.withObject_eq _
  rw [answered]
  funext other
  rw [Memory.owner_released]
  by_cases owns : memory.owner object = some handle
  · simp [owns, Function.update_apply]
  · simp [owns]

theorem owner_close (told : Told memory annals) (member : (handle, object) ∈ live annals) :
    (memory.close handle).owner =
      if memory.owner object = some handle then Function.update memory.owner object none
      else memory.owner := by
  funext other
  rw [Memory.owner_close told.sound]
  by_cases here : other = object
  · subst here
    by_cases owns : memory.owner other = some handle
    · simp [owns]
    · simp [owns]
  · -- The handle is open on one file only, and can have locked no other.
    have elsewhere : memory.owner other ≠ some handle := by
      intro owns
      have bound := (told.handles _ _).2 member
      exact here (Option.some.inj ((told.sound.bound_of_owner owns).symm.trans bound))
    rw [if_neg elsewhere]
    split
    · rw [Function.update_of_ne here]
    · rfl

/-- A path is locked exactly if a live handle owns the file on its shelf. -/
theorem isLocked_iff (told : Told memory annals) (path : Path) :
    memory.isLocked path = true ↔ ∃ handle object, shelf annals path.key = some object ∧
      (handle, object) ∈ live annals ∧ memory.owner object = some handle := by
  have named := told.named_eq path
  constructor
  · intro locked
    unfold Memory.isLocked Memory.file at locked
    split at locked
    next file found =>
      obtain ⟨object, there, held⟩ := Option.bind_eq_some_iff.1 found
      obtain ⟨handle, owns⟩ := Option.isSome_iff_exists.1 locked
      have owner : memory.owner object = some handle := by rw [Memory.owner, held]; exact owns
      exact ⟨handle, object, named.symm.trans there,
        (told.handles _ _).1 (told.sound.bound_of_owner owner), owner⟩
    next => cases locked
  · rintro ⟨handle, object, there, -, owner⟩
    obtain ⟨file, held, owns⟩ := Memory.owner_eq_some_iff.1 owner
    rw [Memory.isLocked, Memory.file, named, there, Option.bind_some, held]
    exact Option.isSome_iff_exists.2 ⟨handle, owns⟩

/-- A file that has just come into being is there. -/
theorem file_put (memory : Memory) (path : Path) (bytes : List UInt8) :
    (memory.put path bytes).file path = some { bytes } := by
  simp [Memory.file, Memory.named, Memory.put]

/-- Nobody can have locked a file that has just come into being. -/
theorem isLocked_put (memory : Memory) (path : Path) (bytes : List UInt8) :
    (memory.put path bytes).isLocked path = false := by
  rw [Memory.isLocked, file_put]
  rfl

/-- Making a file is putting an empty one into a free place. -/
theorem recreated (told : Told memory annals) (path : Path) :
    ((memory.answer (.createNew path)).1 = .ok () ↔ shelf annals path.key = none) ∧
      ((memory.answer (.createNew path)).1 = .ok () →
        (memory.answer (.createNew path)).2.file path = some {} ∧
          (memory.answer (.createNew path)).2.isLocked path = false) := by
  have answered : memory.answer (.createNew path) = memory.createNew path := rfl
  rw [answered, Memory.createNew, ← told.named_eq]
  cases memory.named path with
  | none =>
    constructor
    · exact ⟨fun _ => rfl, fun _ => rfl⟩
    · exact fun _ => ⟨file_put memory path [], isLocked_put memory path []⟩
  | some object =>
    constructor
    · constructor
      · intro made
        cases made
      · intro free
        cases free
    · intro made
      cases made

/-- What is on the shelf can be opened. -/
theorem opening (told : Told memory annals) (path : Path)
    (there : shelf annals path.key = some object) (willing : memory.failingOpens = 0) :
    (memory.answer (.openFile path)).1 = .ok ⟨opens annals⟩ := by
  have named : memory.named path = some object := (told.named_eq path).trans there
  have answered : memory.answer (.openFile path) = memory.openFile path := rfl
  rw [answered, Memory.openFile, willing, named, ← told.given]

/-- Calls that are not about locks keep every owner. -/
theorem owner_answer (told : Told memory annals) (request : Request)
    (other : ∀ handle, request ≠ .tryLock handle ∧ request ≠ .unlock handle) :
    (memory.answer request).2.owner = memory.owner := by
  have locking := (Memory.locking_of_answer told.sound
    (show memory.answer request = ((memory.answer request).1, (memory.answer request).2) from rfl)).2
  cases request with
  | tryLock handle => exact absurd rfl (other handle).1
  | unlock handle => exact absurd rfl (other handle).2
  | _ =>
    revert locking
    generalize (memory.answer _).2 = after
    generalize (memory.answer _).1 = answer
    intro locking
    cases locking <;> assumption

/-- All that rightful locks ask for is told by the annals. -/
theorem rightful (told : Told memory annals) : Rightful memory annals where
  serials := by
    intro entry member
    have bound := (told.handles entry.1 entry.2).2 member
    exact told.given ▸ (told.sound.opened bound).1
  owned := by
    intro object
    cases owns : memory.owner object with
    | none => exact Or.inl rfl
    | some owner =>
      have alive := (told.handles _ _).1 (told.sound.bound_of_owner owns)
      exact Or.inr ⟨owner, rfl, told.filter_live alive⟩
  taking _ _ member := told.taking member
  keeping handle object member foreign := by
    rw [told.owner_unlock member, told.owner_close member, if_neg foreign]
    exact ⟨rfl, rfl⟩
  freeing handle object member own := by
    rw [told.owner_unlock member, told.owner_close member, if_pos own]
    exact ⟨rfl, rfl⟩
  others := told.owner_answer
  locked := told.isLocked_iff
  replaced path bytes := ⟨file_put memory path bytes, isLocked_put memory path bytes,
    Memory.owner_put told.sound path bytes⟩
  recreated := told.recreated
  opening path _ := told.opening path

end Told

namespace Watched

/-- The lock table is sound: whatever has been asked of a new memory, through whatever handles and with
whatever hooks, its locks are in the right hands. -/
theorem rightful_after (touches : List Touch) :
    Rightful (after touches).memory (after touches).annals :=
  (told_after touches).rightful

/-- A file is opened, locked and replaced, and the new one is opened too. -/
def lockedThenReplaced : List Touch :=
  [.put ⟨"flag"⟩ [1], .ask (.openFile ⟨"flag"⟩), .ask (.tryLock ⟨0⟩), .put ⟨"flag"⟩ [0],
    .ask (.openFile ⟨"flag"⟩)]

/-- The lock stays with the file that it was taken on.  The path is free, the lock on the new file can be
had, and the old lock goes with its handle. -/
theorem rightful_after_replacement :
    live (after lockedThenReplaced).annals = [(⟨1⟩, ⟨1⟩), (⟨0⟩, ⟨0⟩)] ∧
      (after lockedThenReplaced).memory.isLocked ⟨"flag"⟩ = false ∧
      ((after lockedThenReplaced).memory.answer (.tryLock ⟨1⟩)).1 = .ok true ∧
      (after lockedThenReplaced).memory.owner ⟨0⟩ = some ⟨0⟩ ∧
      ((after lockedThenReplaced).memory.close ⟨0⟩).owner ⟨0⟩ = none := by
  have rightful := rightful_after lockedThenReplaced
  have alive : live (after lockedThenReplaced).annals = [(⟨1⟩, ⟨1⟩), (⟨0⟩, ⟨0⟩)] := by
    decide +kernel
  have there : shelf (after lockedThenReplaced).annals (Path.key ⟨"flag"⟩) = some ⟨1⟩ := by
    decide +kernel
  have held : (after lockedThenReplaced).memory.owner ⟨0⟩ = some ⟨0⟩ := by decide +kernel
  have free : (after lockedThenReplaced).memory.owner ⟨1⟩ = none := by decide +kernel
  constructor
  · exact alive
  constructor
  · rw [Bool.eq_false_iff]
    intro locked
    obtain ⟨handle, object, here, -, owns⟩ := (rightful.locked ⟨"flag"⟩).1 locked
    have same : object = ⟨1⟩ := Option.some.inj (here.symm.trans there)
    rw [same, free] at owns
    cases owns
  constructor
  · obtain ⟨taken, answered, granted, -⟩ := rightful.taking ⟨1⟩ ⟨1⟩ (by simp [alive])
    have nobody : taken = true := by
      apply granted.2
      intro ⟨other, _, _, owns⟩
      rw [free] at owns
      cases owns
    rw [answered, nobody]
  constructor
  · exact held
  · have closing := (rightful.freeing ⟨0⟩ ⟨0⟩ (by simp [alive]) held).2
    rw [closing, Function.update_self]

end Watched

end CrashMarker
