/-
Module: CrashMarker.Proofs.Memory.Served
Purpose: Everything that one call can do to a memory, said once.
Main exports:
  Memory.Behind, Memory.Served, Memory.served_of_answer, Memory.Served.sound, Unreliable.orderly
-/
import CrashMarker.Proofs.Memory.Unreliable

namespace CrashMarker

/-!
`Memory.answer` looks at names, handles, files and counters, one inside the other.  `Served` lists the
ways in which it can end, each with what it has found and what it has changed, as long as nothing is
asked to fail.  What holds of a memory after a call, whatever state the call has met it in, is read off
this list.
-/

def Request.handle? : Request → Option Handle
  | .present _ => none
  | .createNew _ => none
  | .remove _ => none
  | .openFile _ => none
  | .readAt handle _ _ => some handle
  | .writeAt handle _ _ => some handle
  | .size handle => some handle
  | .sync handle => some handle
  | .tryLock handle => some handle
  | .unlock handle => some handle

namespace Memory

/-- The memory with counters that say how many bytes move at a time, how many transfers are interrupted
next, and how many writes there have been. -/
def counted (memory : Memory) (amount interrupts writes : Nat) : Memory :=
  { memory with maxTransfer := amount, interrupts, writeCalls := writes }

/-- The memory with an object open under the next handle. -/
def withHandle (memory : Memory) (object : ObjectId) : Memory :=
  { memory with
    handles := memory.handles.set ⟨memory.nextHandle⟩ object
    nextHandle := memory.nextHandle + 1 }

/-- The identity and the state of the file behind a handle. -/
structure Behind (memory : Memory) (handle : Handle) (object : ObjectId) (file : FileObject) :
    Prop where
  bound : memory.handles.get? handle = some object
  there : memory.objects.get? object = some file

/-- How a call ends when nothing is asked to fail, up to the counters. -/
inductive Served (memory : Memory) : (request : Request) → request.Answer → Memory → Prop where
  | present (path : Path) : Served memory (.present path) (.ok (memory.named path).isSome) memory
  | taken {path : Path} {object : ObjectId} (named : memory.named path = some object) :
      Served memory (.createNew path) (.error (.alreadyExists path)) memory
  | made {path : Path} (absent : memory.named path = none) :
      Served memory (.createNew path) (.ok ()) (memory.put path [])
  | missing {path : Path} (absent : memory.named path = none) :
      Served memory (.remove path) (.error (.notFound path)) memory
  | removed {path : Path} {object : ObjectId} (named : memory.named path = some object) :
      Served memory (.remove path) (.ok ()) (memory.unlink path)
  | nowhere {path : Path} (absent : memory.named path = none) :
      Served memory (.openFile path) (.error (.notFound path)) memory
  | opened {path : Path} {object : ObjectId} (named : memory.named path = some object) :
      Served memory (.openFile path) (.ok ⟨memory.nextHandle⟩) (memory.withHandle object)
  /-- The handle is not open. -/
  | strange {request : Request} {handle : Handle} (through : request.handle? = some handle)
      (nothing : ∀ object file, ¬ memory.Behind handle object file) :
      Served memory request (.error badHandle) memory
  | readLater {handle : Handle} {offset count : Nat} :
      Served memory (.readAt handle offset count) (.error (.io (.bare .interrupted))) memory
  | read {handle : Handle} {offset count moved : Nat} {object : ObjectId} {file : FileObject}
      (behind : memory.Behind handle object file) (some : 0 < count → 0 < moved)
      (bound : moved ≤ count) :
      Served memory (.readAt handle offset count) (.ok ((file.bytes.drop offset).take moved)) memory
  | writeLater {handle : Handle} {offset : Nat} {bytes : List UInt8} :
      Served memory (.writeAt handle offset bytes) (.error (.io (.bare .interrupted))) memory
  | wroteNothing {handle : Handle} {offset : Nat} {bytes : List UInt8} (empty : bytes = []) :
      Served memory (.writeAt handle offset bytes) (.ok 0) memory
  | wrote {handle : Handle} {offset moved : Nat} {bytes : List UInt8} {object : ObjectId}
      {file : FileObject} (behind : memory.Behind handle object file) (some : 0 < moved)
      (bound : moved ≤ bytes.length) :
      Served memory (.writeAt handle offset bytes) (.ok moved)
        (memory.updateObject object fun file =>
          { file with bytes := overlay file.bytes offset (bytes.take moved) })
  | size {handle : Handle} {object : ObjectId} {file : FileObject}
      (behind : memory.Behind handle object file) :
      Served memory (.size handle) (.ok file.bytes.length) memory
  | sync (handle : Handle) : Served memory (.sync handle) (.ok ()) memory
  | locked {handle : Handle} {object : ObjectId} {file : FileObject}
      (behind : memory.Behind handle object file) (free : file.owner = none) :
      Served memory (.tryLock handle) (.ok true)
        (memory.updateObject object fun file => { file with owner := some handle })
  | contended {handle owner : Handle} {object : ObjectId} {file : FileObject}
      (behind : memory.Behind handle object file) (owned : file.owner = some owner) :
      Served memory (.tryLock handle) (.ok (owner = handle)) memory
  | unlocked {handle : Handle} {object : ObjectId} {file : FileObject}
      (behind : memory.Behind handle object file) :
      Served memory (.unlock handle) (.ok ()) (memory.updateObject object (released handle))

variable {memory after : Memory}

/-- Working on what is behind a handle ends in what the body ends in, if there is anything. -/
theorem withObject_cases {α : Type} {handle : Handle}
    {body : ObjectId → FileObject → Except StorageError α × Memory}
    {result : Except StorageError α × Memory} (ended : memory.withObject handle body = result) :
    (∀ object file, ¬ memory.Behind handle object file) ∧ result = (.error badHandle, memory) ∨
      ∃ object file, memory.Behind handle object file ∧ result = body object file := by
  unfold withObject at ended
  cases bound : memory.handles.get? handle with
  | none =>
    rw [bound] at ended
    left
    constructor
    · intro object file behind
      cases bound.symm.trans behind.bound
    · exact ended.symm
  | some object =>
    cases there : memory.objects.get? object with
    | none =>
      simp only [bound, there] at ended
      left
      constructor
      · intro other file behind
        cases bound.symm.trans behind.bound
        cases there.symm.trans behind.there
      · exact ended.symm
    | some file =>
      simp only [bound, there] at ended
      exact Or.inr ⟨object, file, ⟨bound, there⟩, ended.symm⟩

/-- A write is refused or interrupted, or there is nothing to write, or it lays some bytes over the file
behind its handle and counts. -/
theorem writeAt_cases {handle : Handle} {offset : Nat} {bytes : List UInt8}
    {answer : Except StorageError Nat} (ended : memory.writeAt handle offset bytes = (answer, after)) :
    (∃ cause interrupts, answer = .error cause ∧ after = { memory with interrupts }) ∨
      (bytes = [] ∧ answer = .ok 0 ∧ after = memory) ∨
      ∃ object file, memory.Behind handle object file ∧ 0 < bytes.length ∧
        answer = .ok (memory.transferLength bytes.length) ∧
        after = { memory.updateObject object fun file =>
            { file with
              bytes := overlay file.bytes offset (bytes.take (memory.transferLength bytes.length)) } with
          writeCalls := memory.writeCalls + 1 } := by
  rcases withObject_cases ended with ⟨-, same⟩ | ⟨object, file, behind, same⟩
  · cases same
    exact Or.inl ⟨badHandle, memory.interrupts, rfl, rfl⟩
  · split at same
    next empty =>
      cases same
      exact Or.inr (Or.inl ⟨List.isEmpty_iff.1 empty, rfl, rfl⟩)
    next nonempty =>
      split at same
      next interrupts waits =>
        cases same
        exact Or.inl ⟨_, interrupts, rfl, rfl⟩
      next =>
        cases same
        have some : 0 < bytes.length := by
          apply List.length_pos_iff.2
          rintro rfl
          exact nonempty rfl
        exact Or.inr (Or.inr ⟨object, file, behind, some, rfl, rfl⟩)

theorem Behind.of_paced {handle : Handle} {object : ObjectId} {file : FileObject}
    {amount interrupts : Nat} (behind : (memory.paced amount interrupts).Behind handle object file) :
    memory.Behind handle object file :=
  ⟨behind.bound, behind.there⟩

theorem Behind.paced {handle : Handle} {object : ObjectId} {file : FileObject}
    (behind : memory.Behind handle object file) (amount interrupts : Nat) :
    (memory.paced amount interrupts).Behind handle object file :=
  ⟨behind.bound, behind.there⟩

/-- A call that goes through a handle ends in one of the listed ways if the body does. -/
theorem served_of_withObject {request : Request} {handle : Handle} {answer : request.Answer}
    {amount interrupts : Nat}
    {body : ObjectId → FileObject → request.Answer × Memory}
    (through : request.handle? = some handle)
    (ended : (memory.paced amount interrupts).withObject handle body = (answer, after))
    (listed : ∀ object file, memory.Behind handle object file → body object file = (answer, after) →
      ∃ left pace waits writes, memory.Served request answer left ∧
        after = left.counted pace waits writes) :
    ∃ left pace waits writes, memory.Served request answer left ∧
      after = left.counted pace waits writes := by
  rcases withObject_cases ended with ⟨nothing, same⟩ | ⟨object, file, behind, same⟩
  · cases same
    refine ⟨memory, amount, interrupts, memory.writeCalls, .strange through ?_, rfl⟩
    intro object file behind
    exact nothing object file (behind.paced amount interrupts)
  · exact listed object file behind.of_paced same.symm

/-- Nothing but what is listed happens as long as nothing is asked to fail. -/
theorem served_of_answer {request : Request} {answer : request.Answer} {amount interrupts : Nat}
    (quiet : memory.Quiet)
    (answered : (memory.paced amount interrupts).answer request = (answer, after)) :
    ∃ left pace waits writes, memory.Served request answer left ∧
      after = left.counted pace waits writes := by
  cases request with
  | present path =>
    cases answered
    exact ⟨_, _, _, _, .present path, rfl⟩
  | createNew path =>
    simp only [Memory.answer, createNew] at answered
    split at answered
    next object named =>
      cases answered
      exact ⟨_, _, _, _, .taken named, rfl⟩
    next absent =>
      cases answered
      exact ⟨_, _, _, _, .made absent, rfl⟩
  | remove path =>
    have races : (memory.paced amount interrupts).racingRemoves = 0 := quiet.races
    have removes : (memory.paced amount interrupts).failingRemoves = 0 := quiet.removes
    simp only [Memory.answer, remove, races, removes] at answered
    split at answered
    next absent =>
      cases answered
      exact ⟨_, _, _, _, .missing absent, rfl⟩
    next object named =>
      cases answered
      exact ⟨_, _, _, _, .removed named, rfl⟩
  | openFile path =>
    have opens : (memory.paced amount interrupts).failingOpens = 0 := quiet.opens
    simp only [Memory.answer, openFile, opens] at answered
    split at answered
    next absent =>
      cases answered
      exact ⟨_, _, _, _, .nowhere absent, rfl⟩
    next object named =>
      cases answered
      refine ⟨_, amount, interrupts, memory.writeCalls, .opened named, ?_⟩
      rw [counted, withHandle, quiet.opens]
      rfl
  | readAt handle offset count =>
    simp only [Memory.answer, Memory.readAt] at answered
    apply served_of_withObject rfl answered
    intro object file behind same
    split at same
    next =>
      cases same
      exact ⟨_, _, _, _, .readLater, rfl⟩
    next =>
      cases same
      exact ⟨_, _, _, _, .read behind (transferLength_pos _) (transferLength_le _ _), rfl⟩
  | writeAt handle offset bytes =>
    simp only [Memory.answer, Memory.writeAt] at answered
    apply served_of_withObject rfl answered
    intro object file behind same
    split at same
    next empty =>
      cases same
      exact ⟨_, _, _, _, .wroteNothing (List.isEmpty_iff.1 empty), rfl⟩
    next nonempty =>
      split at same
      next =>
        cases same
        exact ⟨_, _, _, _, .writeLater, rfl⟩
      next =>
        cases same
        have some : 0 < bytes.length := by
          apply List.length_pos_iff.2
          rintro rfl
          exact nonempty rfl
        exact ⟨_, _, _, _, .wrote behind (transferLength_pos _ some) (transferLength_le _ _), rfl⟩
  | size handle =>
    simp only [Memory.answer, Memory.size] at answered
    apply served_of_withObject rfl answered
    intro object file behind same
    have sizes : (memory.paced amount interrupts).extraSize = 0 := quiet.sizes
    rw [sizes, wordSum_zero] at same
    cases same
    exact ⟨_, _, _, _, .size behind, rfl⟩
  | sync handle =>
    simp only [Memory.answer, Memory.sync] at answered
    apply served_of_withObject rfl answered
    intro object file behind same
    cases same
    exact ⟨_, _, _, _, .sync handle, rfl⟩
  | tryLock handle =>
    simp only [Memory.answer, Memory.tryLock] at answered
    apply served_of_withObject rfl answered
    intro object file behind same
    split at same
    next free =>
      cases same
      exact ⟨_, _, _, _, .locked behind free, rfl⟩
    next owner owned =>
      cases same
      exact ⟨_, _, _, _, .contended behind owned, rfl⟩
  | unlock handle =>
    simp only [Memory.answer, Memory.unlock] at answered
    apply served_of_withObject rfl answered
    intro object file behind same
    cases same
    exact ⟨_, _, _, _, .unlocked behind, rfl⟩

/-- On a quiet memory whose calls do not fail there is nothing else. -/
theorem Unreliable.served_of_quiet {request : Request} {answer : request.Answer}
    (quiet : memory.Quiet) (answered : Unreliable (fun _ => False) request memory answer after) :
    ∃ left pace waits writes, memory.Served request answer left ∧
      after = left.counted pace waits writes := by
  cases answered with
  | served amount interrupts answered => exact served_of_answer quiet answered
  | refused failing => exact failing.elim
  | unseen amount interrupts answered failing => exact failing.elim

/-! ## What every call keeps -/

theorem Behind.counted {handle : Handle} {object : ObjectId} {file : FileObject}
    (behind : memory.Behind handle object file) (amount interrupts writes : Nat) :
    (memory.counted amount interrupts writes).Behind handle object file :=
  ⟨behind.bound, behind.there⟩

theorem Sound.counted (sound : memory.Sound) (amount interrupts writes : Nat) :
    (memory.counted amount interrupts writes).Sound :=
  ⟨sound.named, sound.opened, sound.numbered, sound.owned⟩

theorem Quiet.counted (quiet : memory.Quiet) (amount interrupts writes : Nat) :
    (memory.counted amount interrupts writes).Quiet :=
  ⟨quiet.removes, quiet.races, quiet.opens, quiet.sizes⟩

/-- However a call ends, the tables still fit together. -/
theorem Served.sound {request : Request} {answer : request.Answer} (sound : memory.Sound)
    (served : memory.Served request answer after) : after.Sound := by
  cases served with
  | made => exact sound.put _ _
  | removed => exact sound.unlink _
  | opened named => exact sound.openFile named
  | wrote behind =>
    apply sound.updateObject
    intro file there owner owned
    exact sound.owned there owned
  | locked behind =>
    apply sound.updateObject
    intro file there owner owned
    cases owned
    exact behind.bound
  | unlocked behind =>
    apply sound.updateObject
    intro file there owner owned
    unfold released at owned
    split at owned
    · cases owned
    · exact sound.owned there owned
  | _ => exact sound

/-- No call asks for failures by itself. -/
theorem Served.quiet {request : Request} {answer : request.Answer} (quiet : memory.Quiet)
    (served : memory.Served request answer after) : after.Quiet := by
  cases served with
  | made => exact ⟨quiet.removes, quiet.races, quiet.opens, quiet.sizes⟩
  | removed => exact ⟨quiet.removes, quiet.races, quiet.opens, quiet.sizes⟩
  | opened => exact ⟨quiet.removes, quiet.races, quiet.opens, quiet.sizes⟩
  | wrote => exact ⟨quiet.removes, quiet.races, quiet.opens, quiet.sizes⟩
  | locked => exact ⟨quiet.removes, quiet.races, quiet.opens, quiet.sizes⟩
  | unlocked => exact ⟨quiet.removes, quiet.races, quiet.opens, quiet.sizes⟩
  | _ => exact quiet

theorem Quiet.close (quiet : memory.Quiet) (handle : Handle) : (memory.close handle).Quiet := by
  unfold Memory.close
  split
  · exact quiet
  · exact ⟨quiet.removes, quiet.races, quiet.opens, quiet.sizes⟩

/-- A memory that is in order, and on which nothing is asked to fail. -/
structure Orderly (memory : Memory) : Prop where
  sound : memory.Sound
  quiet : memory.Quiet

theorem Orderly.paced (orderly : memory.Orderly) (amount interrupts : Nat) :
    (memory.paced amount interrupts).Orderly :=
  ⟨⟨orderly.sound.named, orderly.sound.opened, orderly.sound.numbered, orderly.sound.owned⟩,
    ⟨orderly.quiet.removes, orderly.quiet.races, orderly.quiet.opens, orderly.quiet.sizes⟩⟩

theorem Orderly.close (orderly : memory.Orderly) (handle : Handle) :
    (memory.close handle).Orderly :=
  ⟨orderly.sound.close handle, orderly.quiet.close handle⟩

/-- Whatever an orderly memory is asked at whatever pace, it stays in order. -/
theorem Orderly.answer {request : Request} {answer : request.Answer} {amount interrupts : Nat}
    (orderly : memory.Orderly)
    (answered : (memory.paced amount interrupts).answer request = (answer, after)) :
    after.Orderly := by
  obtain ⟨left, pace, waits, writes, served, rfl⟩ := served_of_answer orderly.quiet answered
  constructor
  · exact (served.sound orderly.sound).counted pace waits writes
  · exact (served.quiet orderly.quiet).counted pace waits writes

/-- A handle that nobody has seen is closed, and the memory stays in order. -/
theorem Orderly.disowned {request : Request} (orderly : memory.Orderly)
    (answer : request.Answer) : (memory.disowned request answer).Orderly := by
  unfold Memory.disowned
  split
  · exact orderly.close _
  · exact orderly

/-- An orderly memory stays so whatever it is asked, even if the call fails. -/
theorem Unreliable.orderly {failures : StorageError → Prop} {request : Request}
    {answer : request.Answer} (orderly : memory.Orderly)
    (answered : Unreliable failures request memory answer after) : after.Orderly := by
  cases answered with
  | served amount interrupts answered => exact orderly.answer answered
  | refused failing => exact orderly
  | unseen amount interrupts answered failing => exact (orderly.answer answered).disowned _

end Memory

end CrashMarker
