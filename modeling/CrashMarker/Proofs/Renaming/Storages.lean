/-
Module: CrashMarker.Proofs.Renaming.Storages
Purpose: Memories that differ in the tokens of their handles answer alike.
Main exports: Memory.Renamed, Memory.answersAlike, Monitored.Renamed, Monitored.answersAlike
-/
import CrashMarker.Proofs.Renaming.Alike
import CrashMarker.Storage.Medium
import CrashMarker.Storage.Monitored

namespace CrashMarker

variable {rename : Handle → Handle}

def FileObject.renamed (rename : Handle → Handle) (file : FileObject) : FileObject :=
  { file with owner := file.owner.map rename }

namespace Memory

/-- The second memory differs from the first in that it knows every handle by its new token, and so will
it be with the handles to come. -/
inductive Renamed (rename : Handle → Handle) (memory : Memory) : Memory → Prop where
  | intro {names : Table Path.Key ObjectId} {objects : Table ObjectId FileObject}
      {handles : Table Handle ObjectId} {nextHandle : Nat}
      (named : ∀ key, names.get? key = memory.names.get? key)
      (there : ∀ object, objects.get? object = (memory.objects.get? object).map (·.renamed rename))
      (bound : ∀ handle, handles.get? (rename handle) = memory.handles.get? handle)
      (fresh : ∀ count, rename ⟨memory.nextHandle + count⟩ = ⟨nextHandle + count⟩) :
      Renamed rename memory { memory with names, objects, handles, nextHandle }

namespace Renamed

variable {memory other : Memory} {α : Type}

/-- What does not look at the tables says the same of both memories. -/
theorem counter (renamed : memory.Renamed rename other) (count : Memory → Nat)
    (blind : ∀ names objects handles nextHandle,
      count { memory with names, objects, handles, nextHandle } = count memory) :
    count other = count memory := by
  obtain ⟨-, -, -, -⟩ := renamed
  exact blind _ _ _ _

theorem named (renamed : memory.Renamed rename other) (path : Path) :
    other.named path = memory.named path := by
  obtain ⟨named, -, -, -⟩ := renamed
  exact named path.key

theorem file (renamed : memory.Renamed rename other) (path : Path) :
    other.file path = (memory.file path).map (·.renamed rename) := by
  unfold Memory.file
  rw [renamed.named]
  obtain ⟨-, there, -, -⟩ := renamed
  cases memory.named path with
  | none => rfl
  | some object => exact there object

theorem contents (renamed : memory.Renamed rename other) (path : Path) :
    other.contents path = memory.contents path := by
  unfold Memory.contents
  rw [renamed.file]
  cases memory.file path <;> rfl

theorem isLocked (renamed : memory.Renamed rename other) (path : Path) :
    other.isLocked path = memory.isLocked path := by
  unfold Memory.isLocked
  rw [renamed.file]
  cases memory.file path with
  | none => rfl
  | some file => exact Option.isSome_map

/-! ## Changes that keep two memories alike -/

/-- A file may be put into place on both sides. -/
theorem put (renamed : memory.Renamed rename other) (path : Path) (bytes : List UInt8) :
    (memory.put path bytes).Renamed rename (other.put path bytes) := by
  obtain ⟨named, there, bound, fresh⟩ := renamed
  refine .intro (fun key => ?_) (fun object => ?_) bound fresh
  · simp only [Memory.put, Table.get?_set, named]
  · simp only [Memory.put, Table.get?_set, there]
    split <;> rfl

theorem unlink (renamed : memory.Renamed rename other) (path : Path) :
    (memory.unlink path).Renamed rename (other.unlink path) := by
  obtain ⟨named, there, bound, fresh⟩ := renamed
  refine .intro (fun key => ?_) there bound fresh
  simp only [Memory.unlink, Table.get?_erase, named]

/-- A file may be changed on both sides, if the changes agree up to the owner. -/
theorem updateObject (renamed : memory.Renamed rename other) (object : ObjectId)
    {change changed : FileObject → FileObject}
    (same : ∀ file, changed (file.renamed rename) = (change file).renamed rename) :
    (memory.updateObject object change).Renamed rename (other.updateObject object changed) := by
  obtain ⟨named, there, bound, fresh⟩ := renamed
  refine .intro named (fun one => ?_) bound fresh
  simp only [Memory.updateObject, Table.get?_update, there]
  split
  · cases memory.objects.get? object with
    | none => rfl
    | some file => exact congrArg some (same file)
  · rfl

theorem misbehave (renamed : memory.Renamed rename other) (amount : Nat) (misbehaviour : Misbehaviour) :
    (memory.misbehave amount misbehaviour).Renamed rename (other.misbehave amount misbehaviour) := by
  obtain ⟨named, there, bound, fresh⟩ := renamed
  cases misbehaviour <;> exact .intro named there bound fresh

theorem wrote (renamed : memory.Renamed rename other) :
    Renamed rename { memory with writeCalls := memory.writeCalls + 1 }
      { other with writeCalls := other.writeCalls + 1 } := by
  obtain ⟨named, there, bound, fresh⟩ := renamed
  exact .intro named there bound fresh

/-! ## Calls that are answered alike -/

/-- Two calls have got the same answer and left memories that differ in tokens only. -/
def SameAnswer (rename : Handle → Handle) (one two : Except StorageError α × Memory) : Prop :=
  two.1 = one.1 ∧ one.2.Renamed rename two.2

/-- Work through handles that correspond is work on the same file. -/
theorem withObject (renamed : memory.Renamed rename other) (handle : Handle)
    {body twin : ObjectId → FileObject → Except StorageError α × Memory}
    (bodies : ∀ object file, SameAnswer rename (body object file) (twin object (file.renamed rename))) :
    SameAnswer rename (memory.withObject handle body) (other.withObject (rename handle) twin) := by
  unfold Memory.withObject
  obtain ⟨-, there, bound, -⟩ := id renamed
  simp only [bound]
  cases memory.handles.get? handle with
  | none => exact ⟨rfl, renamed⟩
  | some object =>
    simp only [there]
    cases memory.objects.get? object with
    | none => exact ⟨rfl, renamed⟩
    | some file => exact bodies object file

theorem createNew (renamed : memory.Renamed rename other) (path : Path) :
    SameAnswer rename (memory.createNew path) (other.createNew path) := by
  unfold Memory.createNew
  rw [renamed.named]
  cases memory.named path with
  | none => exact ⟨rfl, renamed.put path []⟩
  | some object => exact ⟨rfl, renamed⟩

/-- Removals fail and succeed together. -/
theorem remove (renamed : memory.Renamed rename other) (path : Path) :
    SameAnswer rename (memory.remove path) (other.remove path) := by
  obtain ⟨names, objects, handles, nextObject, nextHandle, maxTransfer, interrupts, failingRemoves,
    racingRemoves, failingOpens, extraSize, writeCalls⟩ := memory
  unfold Memory.remove
  rw [renamed.named]
  obtain ⟨-, -, -, -⟩ := id renamed
  cases racingRemoves with
  | succ races => exact ⟨rfl, (renamed.unlink path).misbehave races .racingRemoves⟩
  | zero =>
    cases Memory.named _ path with
    | none => exact ⟨rfl, renamed⟩
    | some object =>
      cases failingRemoves with
      | succ failures => exact ⟨rfl, renamed.misbehave failures .failingRemoves⟩
      | zero => exact ⟨rfl, renamed.unlink path⟩

theorem readAt (renamed : memory.Renamed rename other) (handle : Handle) (offset count : Nat) :
    SameAnswer rename (memory.readAt handle offset count)
      (other.readAt (rename handle) offset count) := by
  have moved : other.transferLength count = memory.transferLength count :=
    renamed.counter (transferLength · count) fun _ _ _ _ => rfl
  refine renamed.withObject handle fun object file => ?_
  rw [renamed.counter interrupts fun _ _ _ _ => rfl, moved]
  cases memory.interrupts with
  | succ interrupts => exact ⟨rfl, renamed.misbehave interrupts .interrupts⟩
  | zero => exact ⟨rfl, renamed⟩

/-- Writes through handles that correspond move the same bytes. -/
theorem writeAt (renamed : memory.Renamed rename other) (handle : Handle) (offset : Nat)
    (bytes : List UInt8) :
    SameAnswer rename (memory.writeAt handle offset bytes)
      (other.writeAt (rename handle) offset bytes) := by
  have moved : other.transferLength bytes.length = memory.transferLength bytes.length :=
    renamed.counter (transferLength · bytes.length) fun _ _ _ _ => rfl
  refine renamed.withObject handle fun object file => ?_
  split
  · exact ⟨rfl, renamed⟩
  · rw [renamed.counter interrupts fun _ _ _ _ => rfl, moved]
    cases memory.interrupts with
    | succ interrupts => exact ⟨rfl, renamed.misbehave interrupts .interrupts⟩
    | zero =>
      refine ⟨rfl, wrote (updateObject renamed object ?_)⟩
      exact fun file => rfl

theorem size (renamed : memory.Renamed rename other) (handle : Handle) :
    SameAnswer rename (memory.size handle) (other.size (rename handle)) := by
  refine renamed.withObject handle fun object file => ⟨?_, renamed⟩
  rw [renamed.counter extraSize fun _ _ _ _ => rfl]
  rfl

theorem sync (renamed : memory.Renamed rename other) (handle : Handle) :
    SameAnswer rename (memory.sync handle) (other.sync (rename handle)) :=
  renamed.withObject handle fun _ _ => ⟨rfl, renamed⟩

section Distinct

variable (distinct : Function.Injective rename)
include distinct

/-- A lock is had on both sides or on none. -/
theorem tryLock (renamed : memory.Renamed rename other) (handle : Handle) :
    SameAnswer rename (memory.tryLock handle) (other.tryLock (rename handle)) := by
  refine renamed.withObject handle fun object file => ?_
  obtain ⟨bytes, owner⟩ := file
  cases owner with
  | none => exact ⟨rfl, renamed.updateObject object fun file => rfl⟩
  | some owner =>
    refine ⟨congrArg Except.ok ?_, renamed⟩
    exact decide_eq_decide.2 distinct.eq_iff

/-- Giving up a lock is the same before and after renaming. -/
theorem released_renamed (handle : Handle) (file : FileObject) :
    released (rename handle) (file.renamed rename) = (released handle file).renamed rename := by
  obtain ⟨bytes, owner⟩ := file
  have same : owner.map rename = some (rename handle) ↔ owner = some handle :=
    (Option.map_injective distinct).eq_iff' rfl
  unfold released FileObject.renamed
  simp only [same]
  split <;> rfl

theorem unlock (renamed : memory.Renamed rename other) (handle : Handle) :
    SameAnswer rename (memory.unlock handle) (other.unlock (rename handle)) :=
  renamed.withObject handle fun object _ =>
    ⟨rfl, renamed.updateObject object (released_renamed distinct handle)⟩

/-- The token of a new handle is the renamed one. -/
theorem openFile (renamed : memory.Renamed rename other) (path : Path) :
    (other.openFile path).1 = (memory.openFile path).1.map rename ∧
      (memory.openFile path).2.Renamed rename (other.openFile path).2 := by
  obtain ⟨names, objects, handles, nextObject, nextHandle, maxTransfer, interrupts, failingRemoves,
    racingRemoves, failingOpens, extraSize, writeCalls⟩ := memory
  unfold Memory.openFile
  rw [renamed.named]
  obtain ⟨named, there, bound, fresh⟩ := id renamed
  cases failingOpens with
  | succ failures => exact ⟨rfl, renamed.misbehave failures .failingOpens⟩
  | zero =>
    cases Memory.named _ path with
    | none => exact ⟨rfl, renamed⟩
    | some object =>
      have next := fresh 0
      simp only [Nat.add_zero] at next
      refine ⟨congrArg Except.ok next.symm, .intro named there (fun handle => ?_) fun count => ?_⟩
      · simp only [← next, Table.get?_set, distinct.eq_iff, bound]
      · simpa only [Nat.add_assoc] using fresh (1 + count)

/-- Closing handles that correspond keeps the rest alike. -/
theorem close (renamed : memory.Renamed rename other) (handle : Handle) :
    (memory.close handle).Renamed rename (other.close (rename handle)) := by
  unfold Memory.close
  obtain ⟨-, -, bound, -⟩ := id renamed
  simp only [bound]
  cases memory.handles.get? handle with
  | none => exact renamed
  | some object =>
    have changed := renamed.updateObject object (released_renamed distinct handle)
    obtain ⟨named, there, -, fresh⟩ := changed
    refine .intro named there (fun other => ?_) fresh
    simp only [Table.get?_erase, distinct.eq_iff, bound]

end Distinct

theorem SameAnswer.translated {one two : Except StorageError α × Memory}
    (same : SameAnswer rename one two) :
    two.1 = one.1.map id ∧ one.2.Renamed rename two.2 :=
  ⟨same.1.trans (congrFun Except.map_id one.1).symm, same.2⟩

end Renamed

/-- No answer of a memory depends on the tokens of its handles. -/
theorem answersAlike (distinct : Function.Injective rename) :
    AnswersAlike rename (Renamed rename) where
  answers request memory other renamed := by
    cases request with
    | present path =>
      have same := congrArg Option.isSome (renamed.named path)
      exact Renamed.SameAnswer.translated ⟨congrArg Except.ok same, renamed⟩
    | createNew path => exact (renamed.createNew path).translated
    | remove path => exact (renamed.remove path).translated
    | openFile path => exact renamed.openFile distinct path
    | readAt handle offset count => exact (renamed.readAt handle offset count).translated
    | writeAt handle offset bytes => exact (renamed.writeAt handle offset bytes).translated
    | size handle => exact (renamed.size handle).translated
    | sync handle => exact (renamed.sync handle).translated
    | tryLock handle => exact (renamed.tryLock distinct handle).translated
    | unlock handle => exact (renamed.unlock distinct handle).translated
  closes handle memory other renamed := renamed.close distinct handle

end Memory

/-! ## Storages under observation -/

def Exchange.renamed (rename : Handle → Handle) (exchange : Exchange) : Exchange where
  request := exchange.request.renamed rename
  answer := exchange.request.answerRenamed rename exchange.answer
  received := exchange.received

namespace Monitored

variable {σ τ : Type}

/-- No fault is in store for any call. -/
def Quiet (monitored : Monitored σ) : Prop :=
  ∀ name fault faults, monitored.faults.get? name ≠ some (fault :: faults)

variable {monitored : Monitored σ} {other : Monitored τ}

/-- Faults that are used up are in store no more. -/
theorem Quiet.clear (quiet : monitored.Quiet) (name : CallName) :
    ({ monitored with faults := monitored.faults.set name [] } : Monitored σ).Quiet := by
  intro other fault faults found
  simp only [Table.get?_set] at found
  split at found
  · cases found
  · exact quiet _ _ _ found

/-- Where no fault is in store, a call gets through and is recorded. -/
theorem Quiet.answer_eq [Storage σ] (quiet : monitored.Quiet) (request : Request) :
    Storage.answer request monitored =
      ((Storage.answer request monitored.storage).1,
        { monitored with
          storage := (Storage.answer request monitored.storage).2
          exchanges := ⟨request, (Storage.answer request monitored.storage).1,
            request.received (Storage.answer request monitored.storage).1⟩ :: monitored.exchanges }) := by
  have through : monitored.nextFault request.name = (.none, monitored) := by
    unfold nextFault
    cases found : monitored.faults.get? request.name with
    | none => rfl
    | some queue =>
      cases queue with
      | nil => rfl
      | cons fault faults => exact absurd found (quiet _ _ _)
  have answered : ∀ faulted, faulted = monitored.nextFault request.name →
      Storage.answer request monitored = ((faulted.2.underFault request faulted.1).1,
        { (faulted.2.underFault request faulted.1).2.2 with
          exchanges := ⟨request, (faulted.2.underFault request faulted.1).1,
            (faulted.2.underFault request faulted.1).2.1⟩ ::
              (faulted.2.underFault request faulted.1).2.2.exchanges }) := by
    rintro _ rfl
    rfl
  exact answered _ through.symm

/-- Two storages under observation that differ in tokens only, and are not made to fail. -/
structure Alike (rename : Handle → Handle) (related : σ → τ → Prop) (monitored : Monitored σ)
    (other : Monitored τ) : Prop where
  storage : related monitored.storage other.storage
  quiet : monitored.Quiet
  faults : other.faults = monitored.faults
  exchanges : other.exchanges = monitored.exchanges.map (·.renamed rename)

/-- The bytes that reach a buffer do not depend on tokens. -/
theorem received_renamed (request : Request) (answer : request.Answer) :
    (request.renamed rename).received (request.answerRenamed rename answer) =
      request.received answer := by
  cases request <;> cases answer <;> rfl

/-- Observing two storages that answer alike is observing the same. -/
theorem answersAlike [Storage σ] [Storage τ] {related : σ → τ → Prop}
    (storages : AnswersAlike rename related) : AnswersAlike rename (Alike rename related) where
  answers request monitored other alike := by
    obtain ⟨storage, quiet, faults, exchanges⟩ := alike
    have still : other.Quiet := fun name => faults ▸ quiet name
    obtain ⟨same, kept⟩ := storages.answers request storage
    rw [quiet.answer_eq, still.answer_eq]
    refine ⟨same, kept, quiet, faults, ?_⟩
    simp only [exchanges, same, received_renamed, List.map_cons]
    rfl
  closes handle monitored other alike :=
    ⟨storages.closes handle alike.storage, alike.quiet, alike.faults, alike.exchanges⟩

end Monitored

/-- Two storages in memory that differ in tokens only. -/
inductive Medium.Renamed (rename : Handle → Handle) : Medium → Medium → Prop where
  | intro {memory other : Memory} (renamed : memory.Renamed rename other) :
      Medium.Renamed rename (.inMemory memory) (.inMemory other)

/-- Storages in memory that differ in tokens only answer alike. -/
theorem Medium.answersAlike (distinct : Function.Injective rename) :
    AnswersAlike rename (Medium.Renamed rename) where
  answers request medium other alike := by
    obtain ⟨renamed⟩ := alike
    obtain ⟨same, kept⟩ := (Memory.answersAlike distinct).answers request renamed
    exact ⟨same, .intro kept⟩
  closes handle medium other alike := by
    obtain ⟨renamed⟩ := alike
    exact .intro ((Memory.answersAlike distinct).closes handle renamed)

end CrashMarker
