/-
Module: CrashMarker.Proofs.Memory.Locks
Purpose: Who owns the lock on which file, and what one call makes of that.
Main exports: Memory.owner, Memory.Locking, Memory.locking_of_answer, Memory.owner_close
-/
import CrashMarker.Proofs.Memory.Served

namespace CrashMarker

/-- Whether a call can open a handle, take a lock, or give one up. -/
def Request.aboutLocks : Request → Bool
  | .openFile _ => true
  | .tryLock _ => true
  | .unlock _ => true
  | _ => false

namespace Memory

/-- The handle that owns the lock on a file. -/
def owner (memory : Memory) (object : ObjectId) : Option Handle :=
  (memory.objects.get? object).bind (·.owner)

variable {memory after : Memory} {handle : Handle} {object : ObjectId}

theorem owner_eq_some_iff :
    memory.owner object = some handle ↔
      ∃ file, memory.objects.get? object = some file ∧ file.owner = some handle :=
  Option.bind_eq_some_iff

/-- In a memory that is in order, the owner of a lock is open on the file that it locks. -/
theorem Sound.bound_of_owner (sound : memory.Sound) (owns : memory.owner object = some handle) :
    memory.handles.get? handle = some object := by
  obtain ⟨file, there, owned⟩ := owner_eq_some_iff.1 owns
  exact sound.owned there owned

/-- What a call makes of open handles and of locks, as far as its answer tells. -/
inductive Locking (memory : Memory) : (request : Request) → request.Answer → Memory → Prop where
  | neutral {request : Request} {answer : request.Answer} {after : Memory}
      (other : request.aboutLocks = false) (handles : after.handles = memory.handles)
      (owners : after.owner = memory.owner) : Locking memory request answer after
  | failed {request : Request} {cause : StorageError} {after : Memory}
      (handles : after.handles = memory.handles) (owners : after.owner = memory.owner) :
      Locking memory request (.error cause) after
  | opened {path : Path} {handle : Handle} {object : ObjectId} {after : Memory}
      (fresh : memory.handles.get? handle = none)
      (handles : after.handles = memory.handles.set handle object)
      (owners : after.owner = memory.owner) : Locking memory (.openFile path) (.ok handle) after
  | locked {handle : Handle} {object : ObjectId} {after : Memory}
      (bound : memory.handles.get? handle = some object) (free : memory.owner object = none)
      (handles : after.handles = memory.handles)
      (owners : ∀ other, after.owner other =
        if other = object then some handle else memory.owner other) :
      Locking memory (.tryLock handle) (.ok true) after
  | contended {handle owner : Handle} {object : ObjectId} {after : Memory}
      (bound : memory.handles.get? handle = some object)
      (owned : memory.owner object = some owner) (handles : after.handles = memory.handles)
      (owners : after.owner = memory.owner) :
      Locking memory (.tryLock handle) (.ok (owner = handle)) after
  | unlocked {handle : Handle} {object : ObjectId} {after : Memory}
      (bound : memory.handles.get? handle = some object) (handles : after.handles = memory.handles)
      (owners : ∀ other, after.owner other =
        if other = object ∧ memory.owner object = some handle then none else memory.owner other) :
      Locking memory (.unlock handle) (.ok ()) after

/-! ## Changes of one file -/

/-- A change of one file changes the owner of no other. -/
theorem owner_updateObject (memory : Memory) (object : ObjectId)
    (change : FileObject → FileObject) (other : ObjectId) :
    (memory.updateObject object change).owner other =
      if other = object then (memory.objects.get? object).bind fun file => (change file).owner
      else memory.owner other := by
  unfold owner updateObject
  rw [Table.get?_update]
  split
  · rw [Option.bind_map]
    rfl
  · rfl

/-- Giving up a lock frees its file and no other. -/
theorem owner_released (memory : Memory) (object other : ObjectId) (handle : Handle) :
    (memory.updateObject object (released handle)).owner other =
      if other = object ∧ memory.owner object = some handle then none else memory.owner other := by
  rw [owner_updateObject]
  by_cases same : other = object
  · subst same
    unfold owner released
    cases memory.objects.get? other with
    | none => simp
    | some file => by_cases owns : file.owner = some handle <;> simp [owns]
  · simp [same]

/-- Closing a handle frees what it had locked. -/
theorem owner_close (sound : memory.Sound) (handle : Handle) (other : ObjectId) :
    (memory.close handle).owner other =
      if memory.owner other = some handle then none else memory.owner other := by
  unfold Memory.close
  cases bound : memory.handles.get? handle with
  | none =>
    have strange : memory.owner other ≠ some handle := by
      intro owns
      rw [sound.bound_of_owner owns] at bound
      cases bound
    rw [if_neg strange]
  | some object =>
    change (memory.updateObject object (released handle)).owner other = _
    rw [owner_released]
    by_cases owns : memory.owner other = some handle
    · have same : other = object := Option.some.inj ((sound.bound_of_owner owns).symm.trans bound)
      subst same
      simp [owns]
    · by_cases same : other = object
      · subst same
        simp [owns]
      · simp [same, owns]

/-- Closing a handle takes it from the table and no other. -/
theorem handles_close (memory : Memory) (handle other : Handle) :
    (memory.close handle).handles.get? other =
      if other = handle then none else memory.handles.get? other := by
  unfold Memory.close
  cases bound : memory.handles.get? handle with
  | none =>
    by_cases same : other = handle
    · rw [same, if_pos rfl, bound]
    · rw [if_neg same]
  | some object => exact Table.get?_erase _ _ _

/-- A new file is not locked. -/
theorem owner_put (sound : memory.Sound) (path : Path) (bytes : List UInt8) :
    (memory.put path bytes).owner = memory.owner := by
  funext other
  unfold owner put
  simp only [Table.get?_set]
  split
  next new =>
    rw [new, sound.fresh_object]
    rfl
  next => rfl

/-- Changing what a file holds does not change who has locked it. -/
theorem owner_updateObject_of_same {change : FileObject → FileObject}
    (same : ∀ file, (change file).owner = file.owner) :
    (memory.updateObject object change).owner = memory.owner := by
  funext other
  rw [owner_updateObject]
  split
  next here => simp only [here, same, owner]
  next => rfl

/-! ## Calls -/

/-- Counters play no part in whether a memory is in order. -/
theorem Sound.of_tables (sound : memory.Sound) (names : after.names = memory.names)
    (objects : after.objects = memory.objects) (handles : after.handles = memory.handles)
    (nextObject : after.nextObject = memory.nextObject)
    (nextHandle : after.nextHandle = memory.nextHandle) : after.Sound where
  named := by rw [names, objects]; exact sound.named
  opened := by rw [handles, objects, nextHandle]; exact sound.opened
  numbered := by rw [objects, nextObject]; exact sound.numbered
  owned := by rw [objects, handles]; exact sound.owned

/-- Removing a name neither opens a handle nor changes a lock. -/
theorem locking_remove (sound : memory.Sound) {path : Path} {answer : (Request.remove path).Answer}
    (answered : memory.remove path = (answer, after)) :
    after.Sound ∧ memory.Locking (.remove path) answer after := by
  unfold Memory.remove at answered
  split at answered
  · cases answered
    exact ⟨(sound.unlink path).of_tables rfl rfl rfl rfl rfl, .failed rfl rfl⟩
  · split at answered
    · cases answered
      exact ⟨sound, .failed rfl rfl⟩
    · split at answered
      · cases answered
        exact ⟨sound.of_tables rfl rfl rfl rfl rfl, .failed rfl rfl⟩
      · cases answered
        exact ⟨sound.unlink path, .neutral rfl rfl rfl⟩

/-- Opening a file gives a new handle that owns nothing. -/
theorem locking_openFile (sound : memory.Sound) {path : Path}
    {answer : (Request.openFile path).Answer}
    (answered : memory.openFile path = (answer, after)) :
    after.Sound ∧ memory.Locking (.openFile path) answer after := by
  unfold Memory.openFile at answered
  split at answered
  · cases answered
    exact ⟨sound.of_tables rfl rfl rfl rfl rfl, .failed rfl rfl⟩
  · split at answered
    · cases answered
      exact ⟨sound, .failed rfl rfl⟩
    next object named =>
      cases answered
      exact ⟨sound.openFile named, .opened sound.fresh_handle rfl rfl⟩

theorem locking_writeAt (sound : memory.Sound) {offset : Nat} {bytes : List UInt8}
    {answer : (Request.writeAt handle offset bytes).Answer}
    (answered : memory.writeAt handle offset bytes = (answer, after)) :
    after.Sound ∧ memory.Locking (.writeAt handle offset bytes) answer after := by
  rcases withObject_cases answered with ⟨-, same⟩ | ⟨object, file, behind, same⟩
  · cases same
    exact ⟨sound, .failed rfl rfl⟩
  · split at same
    · cases same
      exact ⟨sound, .neutral rfl rfl rfl⟩
    · split at same
      · cases same
        exact ⟨sound.of_tables rfl rfl rfl rfl rfl, .failed rfl rfl⟩
      · cases same
        have written : (memory.updateObject object fun file => { file with
            bytes := overlay file.bytes offset
              (bytes.take (memory.transferLength bytes.length)) }).Sound :=
          sound.updateObject fun file there owner owned => sound.owned there owned
        exact ⟨written.of_tables rfl rfl rfl rfl rfl,
          .neutral rfl rfl (owner_updateObject_of_same fun _ => rfl)⟩

/-- Taking a lock makes the handle its owner if nobody is. -/
theorem locking_tryLock (sound : memory.Sound) {answer : (Request.tryLock handle).Answer}
    (answered : memory.tryLock handle = (answer, after)) :
    after.Sound ∧ memory.Locking (.tryLock handle) answer after := by
  rcases withObject_cases answered with ⟨-, same⟩ | ⟨object, file, behind, same⟩
  · cases same
    exact ⟨sound, .failed rfl rfl⟩
  · have owner : memory.owner object = file.owner := by rw [Memory.owner, behind.there]; rfl
    split at same
    next free =>
      cases same
      refine ⟨sound.updateObject ?_, .locked behind.bound (owner.trans free) rfl fun other => ?_⟩
      · rintro _ _ _ ⟨⟩
        exact behind.bound
      · rw [owner_updateObject, behind.there]
        rfl
    next owned =>
      cases same
      exact ⟨sound, .contended behind.bound (owner.trans owned) rfl rfl⟩

/-- Giving up a lock frees the file if the handle owned it. -/
theorem locking_unlock (sound : memory.Sound) {answer : (Request.unlock handle).Answer}
    (answered : memory.unlock handle = (answer, after)) :
    after.Sound ∧ memory.Locking (.unlock handle) answer after := by
  rcases withObject_cases answered with ⟨-, same⟩ | ⟨object, file, behind, same⟩
  · cases same
    exact ⟨sound, .failed rfl rfl⟩
  · cases same
    refine ⟨sound.updateObject ?_, .unlocked behind.bound rfl fun other => ?_⟩
    · intro file there owner owned
      unfold released at owned
      split at owned
      · cases owned
      · exact sound.owned there owned
    · exact owner_released _ _ _ _

/-- Whatever hooks are set, a call that a memory answers does one of the things listed, and the memory
stays in order. -/
theorem locking_of_answer (sound : memory.Sound) {request : Request} {answer : request.Answer}
    (answered : memory.answer request = (answer, after)) :
    after.Sound ∧ memory.Locking request answer after := by
  cases request with
  | present path =>
    cases answered
    exact ⟨sound, .neutral rfl rfl rfl⟩
  | createNew path =>
    simp only [Memory.answer, Memory.createNew] at answered
    split at answered
    · cases answered
      exact ⟨sound, .neutral rfl rfl rfl⟩
    · cases answered
      exact ⟨sound.put _ _, .neutral rfl rfl (owner_put sound _ _)⟩
  | remove path => exact locking_remove sound answered
  | openFile path => exact locking_openFile sound answered
  | readAt handle offset count =>
    rcases withObject_cases answered with ⟨-, same⟩ | ⟨object, file, behind, same⟩
    · cases same
      exact ⟨sound, .failed rfl rfl⟩
    · split at same
      · cases same
        exact ⟨sound.of_tables rfl rfl rfl rfl rfl, .failed rfl rfl⟩
      · cases same
        exact ⟨sound, .neutral rfl rfl rfl⟩
  | writeAt handle offset bytes => exact locking_writeAt sound answered
  | size handle =>
    rcases withObject_cases answered with ⟨-, same⟩ | ⟨object, file, behind, same⟩
    · cases same
      exact ⟨sound, .failed rfl rfl⟩
    · cases same
      exact ⟨sound, .neutral rfl rfl rfl⟩
  | sync handle =>
    rcases withObject_cases answered with ⟨-, same⟩ | ⟨object, file, behind, same⟩
    · cases same
      exact ⟨sound, .failed rfl rfl⟩
    · cases same
      exact ⟨sound, .neutral rfl rfl rfl⟩
  | tryLock handle => exact locking_tryLock sound answered
  | unlock handle => exact locking_unlock sound answered

end Memory

end CrashMarker
