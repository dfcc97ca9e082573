/-
Module: CrashMarker.Proofs.Memory.Misbehaving
Purpose: A memory that was asked to let openings and removals fail behaves as an unreliable one.
Main exports: Memory.misbehaving, Memory.Requested, Memory.Misbehaves, Memory.follows_misbehaving
-/
import CrashMarker.Proofs.Conducts
import CrashMarker.Proofs.Memory.Served

namespace CrashMarker

namespace Memory

/-- The memory with so many removals and openings yet to fail. -/
def misbehaving (memory : Memory) (removes races opens : Nat) : Memory :=
  { memory with failingRemoves := removes, racingRemoves := races, failingOpens := opens }

/-- The errors with which a memory fails what it was asked to fail. -/
inductive Requested : StorageError → Prop where
  | denied : Requested (.io (.bare .permissionDenied))
  | busy : Requested (.io (.explained .other "resource busy"))
  | raced : Requested (.io (.explained .other "removed concurrently"))

/-- A memory is an orderly one but for its pace and the failures that are yet to come. -/
structure Misbehaves (found memory : Memory) : Prop where
  orderly : memory.Orderly
  same : ∃ amount interrupts removes races opens,
    found = (memory.paced amount interrupts).misbehaving removes races opens

variable {memory after : Memory} {removes races opens : Nat}

/-- Removing a name that is not there changes nothing. -/
theorem unlink_of_named_eq_none {path : Path} (absent : memory.named path = none) :
    memory.unlink path = memory := by
  unfold named Table.get? at absent
  rw [Option.map_eq_none_iff, List.find?_eq_none] at absent
  have same : memory.names.erase path.key = memory.names := by
    rw [Table.erase, List.filter_eq_self.2]
    intro entry member
    simpa using absent entry member
  rw [unlink, same]

theorem close_paced (memory : Memory) (handle : Handle) (amount interrupts : Nat) :
    (memory.paced amount interrupts).close handle = (memory.close handle).paced amount interrupts := by
  simp only [close, paced]
  split
  · rfl
  · rfl

theorem close_misbehaving (memory : Memory) (handle : Handle) :
    (memory.misbehaving removes races opens).close handle =
      (memory.close handle).misbehaving removes races opens := by
  simp only [close, misbehaving]
  split
  · rfl
  · rfl

/-- Work on a file does not see the failures that are yet to come for names. -/
theorem withObject_misbehaving {α : Type} {handle : Handle}
    {body other : ObjectId → FileObject → Except StorageError α × Memory}
    (same : ∀ object file, other object file =
      ((body object file).1, (body object file).2.misbehaving removes races opens)) :
    (memory.misbehaving removes races opens).withObject handle other =
      ((memory.withObject handle body).1,
        (memory.withObject handle body).2.misbehaving removes races opens) := by
  simp only [withObject, misbehaving]
  split
  · rfl
  · split
    · rfl
    · exact same _ _

/-- A call on a misbehaving memory ends as it would otherwise, or it fails as requested, with or
without effect. -/
theorem answer_misbehaving (removes races opens : Nat) (quiet : memory.Quiet) (request : Request) :
    ∃ less fewer rest,
      (memory.misbehaving removes races opens).answer request =
          ((memory.answer request).1, (memory.answer request).2.misbehaving less fewer rest) ∨
        ∃ cause left, Requested cause ∧ (left = memory ∨
            left = (memory.answer request).2.disowned request (memory.answer request).1) ∧
          (memory.misbehaving removes races opens).answer request =
            (.error cause, left.misbehaving less fewer rest) := by
  cases request with
  | present path => exact ⟨removes, races, opens, Or.inl rfl⟩
  | createNew path =>
    refine ⟨removes, races, opens, Or.inl ?_⟩
    simp only [Memory.answer, createNew, named, misbehaving]
    split
    · rfl
    · rfl
  | remove path =>
    have served : memory.answer (.remove path) = memory.remove path := rfl
    cases found : memory.named path with
    | none =>
      have absent : (memory.misbehaving removes races opens).named path = none := found
      have unchanged := unlink_of_named_eq_none found
      rw [served, remove, quiet.races]
      cases races with
      | succ races =>
        refine ⟨removes, races, opens, Or.inr ⟨_, memory.unlink path, .raced, Or.inl unchanged, ?_⟩⟩
        rfl
      | zero =>
        refine ⟨removes, 0, opens, Or.inl ?_⟩
        simp only [Memory.answer, remove, absent, found]
        rfl
    | some object =>
      have present : (memory.misbehaving removes races opens).named path = some object := found
      rw [served, remove, quiet.races, found]
      simp only [quiet.removes]
      cases races with
      | succ races => exact ⟨removes, races, opens, Or.inr ⟨_, _, .raced, Or.inr rfl, rfl⟩⟩
      | zero =>
        cases removes with
        | succ removes =>
          refine ⟨removes, 0, opens, Or.inr ⟨_, memory, .busy, Or.inl rfl, ?_⟩⟩
          simp only [Memory.answer, remove, present]
          rfl
        | zero =>
          refine ⟨0, 0, opens, Or.inl ?_⟩
          simp only [Memory.answer, remove, present]
          rfl
  | openFile path =>
    have served : memory.answer (.openFile path) = memory.openFile path := rfl
    rw [served, openFile, quiet.opens]
    cases opens with
    | succ opens => exact ⟨removes, races, opens, Or.inr ⟨_, memory, .denied, Or.inl rfl, rfl⟩⟩
    | zero =>
      refine ⟨removes, races, 0, Or.inl ?_⟩
      cases found : memory.named path with
      | none =>
        have absent : (memory.misbehaving removes races 0).named path = none := found
        simp only [Memory.answer, openFile, absent]
        rfl
      | some object =>
        have present : (memory.misbehaving removes races 0).named path = some object := found
        simp only [Memory.answer, openFile, present]
        rfl
  | readAt handle offset count =>
    refine ⟨removes, races, opens, Or.inl (withObject_misbehaving ?_)⟩
    intro object file
    rcases memory with ⟨_, _, _, _, _, _, _ | interrupts⟩
    · rfl
    · rfl
  | writeAt handle offset bytes =>
    refine ⟨removes, races, opens, Or.inl (withObject_misbehaving ?_)⟩
    intro object file
    split
    · rfl
    · rcases memory with ⟨_, _, _, _, _, _, _ | interrupts⟩
      · rfl
      · rfl
  | size handle =>
    refine ⟨removes, races, opens, Or.inl (withObject_misbehaving ?_)⟩
    intro object file
    rfl
  | sync handle =>
    refine ⟨removes, races, opens, Or.inl (withObject_misbehaving ?_)⟩
    intro object file
    rfl
  | tryLock handle =>
    refine ⟨removes, races, opens, Or.inl (withObject_misbehaving ?_)⟩
    intro object file
    cases file.owner <;> rfl
  | unlock handle =>
    refine ⟨removes, races, opens, Or.inl (withObject_misbehaving ?_)⟩
    intro object file
    rfl

/-- An answer that nobody has seen leaves a misbehaving memory as it leaves any other. -/
theorem disowned_misbehaving (memory : Memory) (request : Request) (answer : request.Answer) :
    (memory.misbehaving removes races opens).disowned request answer =
      (memory.disowned request answer).misbehaving removes races opens := by
  unfold disowned
  split
  · exact close_misbehaving memory _
  · rfl

theorem disowned_error (memory : Memory) (request : Request) (cause : StorageError) :
    memory.disowned request (.error cause) = memory := by
  cases request <;> rfl

/-- An orderly memory with failures to come misbehaves like itself. -/
theorem misbehaves_misbehaving (orderly : memory.Orderly) (removes races opens : Nat) :
    Misbehaves (memory.misbehaving removes races opens) memory :=
  ⟨orderly, memory.maxTransfer, memory.interrupts, removes, races, opens, rfl⟩

/-- A memory that is in order and tells sizes as they are misbehaves at most. -/
theorem Sound.misbehaves (sound : memory.Sound) (sizes : memory.extraSize = 0) :
    Misbehaves memory (memory.misbehaving 0 0 0) where
  orderly := ⟨⟨sound.named, sound.opened, sound.numbered, sound.owned⟩, ⟨rfl, rfl, rfl, sizes⟩⟩
  same := ⟨memory.maxTransfer, memory.interrupts, memory.failingRemoves, memory.racingRemoves,
    memory.failingOpens, rfl⟩

/-- All files look as they do on the orderly memory. -/
theorem Misbehaves.contents_eq {found : Memory} (misbehaves : Misbehaves found memory)
    (path : Path) : found.contents path = memory.contents path := by
  obtain ⟨-, amount, interrupts, removes, races, opens, rfl⟩ := misbehaves
  rfl

theorem Misbehaves.close {found : Memory} (misbehaves : Misbehaves found memory) (handle : Handle) :
    Misbehaves (found.close handle) (memory.close handle) := by
  obtain ⟨orderly, amount, interrupts, removes, races, opens, rfl⟩ := misbehaves
  refine ⟨orderly.close handle, amount, interrupts, removes, races, opens, ?_⟩
  calc
    ((memory.paced amount interrupts).misbehaving removes races opens).close handle
    _ = ((memory.paced amount interrupts).close handle).misbehaving removes races opens :=
      close_misbehaving _ handle
    _ = ((memory.close handle).paced amount interrupts).misbehaving removes races opens := by
      rw [close_paced]

/-- The same of a memory whose pace may be any. -/
theorem Misbehaves.answer {found : Memory} {request : Request} {answer : request.Answer}
    {pace waits : Nat} (misbehaves : Misbehaves found memory)
    (answered : (found.paced pace waits).answer request = (answer, after)) :
    ∃ reply left, (memory.paced pace waits).answer request = (reply, left) ∧
      (answer = reply ∧ Misbehaves after left ∧
          Misbehaves (after.disowned request answer) (left.disowned request reply) ∨
        ∃ cause, Requested cause ∧ answer = .error cause ∧
          (Misbehaves after memory ∨ Misbehaves after (left.disowned request reply))) := by
  obtain ⟨orderly, amount, interrupts, removes, races, opens, rfl⟩ := misbehaves
  have paced := orderly.paced pace waits
  have there : ((memory.paced pace waits).answer request).2.Orderly := orderly.answer rfl
  obtain ⟨less, fewer, rest, ended | ⟨cause, other, requested, which, ended⟩⟩ :=
    answer_misbehaving removes races opens paced.quiet request
  · cases answered.symm.trans ended
    refine ⟨_, _, rfl, Or.inl ⟨rfl, misbehaves_misbehaving there less fewer rest, ?_⟩⟩
    rw [disowned_misbehaving]
    exact misbehaves_misbehaving (there.disowned _) less fewer rest
  · cases answered.symm.trans ended
    refine ⟨_, _, rfl, Or.inr ⟨cause, requested, rfl, ?_⟩⟩
    rcases which with rfl | rfl
    · exact Or.inl ⟨orderly, pace, waits, less, fewer, rest, rfl⟩
    · exact Or.inr (misbehaves_misbehaving (there.disowned _) less fewer rest)

/-- What a misbehaving memory does, be its calls unreliable besides, an unreliable memory may do whose
calls fail with a few errors more. -/
theorem follows_misbehaving (failures : StorageError → Prop) :
    Follows (Unreliable failures) (Unreliable fun cause => failures cause ∨ Requested cause)
      Misbehaves where
  answers := by
    intro request before answer after memory misbehaves answered
    cases answered with
    | served pace waits answered =>
      obtain ⟨reply, left, told, ⟨rfl, kept, -⟩ | ⟨cause, requested, rfl, kept | kept⟩⟩ :=
        misbehaves.answer answered
      · exact ⟨left, .served pace waits told, kept⟩
      · exact ⟨memory, .refused (Or.inr requested), kept⟩
      · exact ⟨_, .unseen pace waits told (Or.inr requested), kept⟩
    | refused failing => exact ⟨memory, .refused (Or.inl failing), misbehaves⟩
    | unseen pace waits answered failing =>
      obtain ⟨reply, left, told, ⟨rfl, -, kept⟩ | ⟨cause, requested, rfl, kept | kept⟩⟩ :=
        misbehaves.answer answered
      · exact ⟨_, .unseen pace waits told (Or.inl failing), kept⟩
      · rw [disowned_error]
        exact ⟨memory, .refused (Or.inl failing), kept⟩
      · rw [disowned_error]
        exact ⟨_, .unseen pace waits told (Or.inl failing), kept⟩
  closes handle _ _ misbehaves := misbehaves.close handle

end Memory

end CrashMarker
