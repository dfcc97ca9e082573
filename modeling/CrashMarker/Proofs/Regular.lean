/-
Module: CrashMarker.Proofs.Regular
Purpose: What a store does with a regular file on which no call fails.
Main exports:
  PathView, PathView.Regular, Regular.completes_inspect, Regular.completes_openMarker,
  Regular.completes_create, Regular.completes_transition, Regular.completes_closeMarker
-/
import CrashMarker.Proofs.Completes
import CrashMarker.Proofs.Operations
import CrashMarker.Storage.FileTree
import CrashMarker.Store.Inspection

namespace CrashMarker

/-!
Most of what a store does to its marker needs little of the storage: that the file is an array of bytes,
that one handle at a time has its lock, and that calls succeed.  A storage is *regular* at a path if it
is seen in this way; how it comes to be so is its own affair.  Beside what an operation comes to, each
lemma bounds the number of its actions.
-/

/-- How a storage is looked at by those who care for one path. -/
structure PathView (σ : Type) where
  /-- What always holds of the storage. -/
  Sound : σ → Prop
  /-- The file at the path, if there is one. -/
  file : σ → Option FileObject
  /-- The handle is open on that file. -/
  Opens : σ → Handle → Prop

namespace PathView

variable {σ : Type}

/-- This is what is at the path. -/
structure Shows (view : PathView σ) (storage : σ) (found : Option FileObject) : Prop where
  sound : view.Sound storage
  file_eq : view.file storage = found

/-- This is the file at the path, and the handle is open on it. -/
structure Holds (view : PathView σ) (storage : σ) (handle : Handle) (file : FileObject) : Prop
    extends view.Shows storage (some file) where
  opens : view.Opens storage handle

/-- At the path there is an array of bytes with a lock that one handle at a time has, or there may be,
and no call on it fails. -/
structure Regular [Storage σ] (view : PathView σ) (path : Path) : Prop where
  present : ∀ {storage found}, view.Shows storage found →
    Storage.answer (.present path) storage = (.ok found.isSome, storage)
  createNew : ∀ {storage}, view.Shows storage none → ∃ after,
    Storage.answer (.createNew path) storage = (.ok (), after) ∧ view.Shows after (some {})
  remove : ∀ {storage file}, view.Shows storage (some file) → ∃ after,
    Storage.answer (.remove path) storage = (.ok (), after) ∧ view.Shows after none
  /-- An opened file gets a handle that has no lock. -/
  openFile : ∀ {storage file}, view.Shows storage (some file) → ∃ handle after,
    Storage.answer (.openFile path) storage = (.ok handle, after) ∧
      view.Holds after handle file ∧ file.owner ≠ some handle
  size : ∀ {storage handle file}, view.Holds storage handle file →
    Storage.answer (.size handle) storage = (.ok file.bytes.length, storage)
  readAt : ∀ {storage handle file}, view.Holds storage handle file →
    ∀ {offset}, offset < FileTree.offsetLimit → ∀ count,
      Storage.answer (.readAt handle offset count) storage =
        (.ok ((file.bytes.drop offset).take count), storage)
  writeAt : ∀ {storage handle file}, view.Holds storage handle file →
    ∀ {offset}, offset < FileTree.offsetLimit → ∀ {bytes}, bytes ≠ [] → ∃ after,
      Storage.answer (.writeAt handle offset bytes) storage = (.ok bytes.length, after) ∧
        view.Holds after handle { file with bytes := overlay file.bytes offset bytes }
  sync : ∀ {storage handle file}, view.Holds storage handle file →
    Storage.answer (.sync handle) storage = (.ok (), storage)
  lock : ∀ {storage handle bytes}, view.Holds storage handle ⟨bytes, none⟩ → ∃ after,
    Storage.answer (.tryLock handle) storage = (.ok true, after) ∧
      view.Holds after handle ⟨bytes, some handle⟩
  locked : ∀ {storage handle bytes owner}, view.Holds storage handle ⟨bytes, some owner⟩ →
    Storage.answer (.tryLock handle) storage = (.ok (owner = handle), storage)
  unlock : ∀ {storage handle file}, view.Holds storage handle file → ∃ after,
    Storage.answer (.unlock handle) storage = (.ok (), after) ∧
      view.Holds after handle (Memory.released handle file)
  close : ∀ {storage handle file}, view.Holds storage handle file →
    view.Shows (Storage.close handle storage) (some (Memory.released handle file))

end PathView

/-- The bytes that a file of such bytes has once it has been opened: a file that lacks a flag is given
its record. -/
def Record.normalized (bytes : List UInt8) : List UInt8 :=
  if 2 ≤ bytes.length then bytes else (loaded (some bytes)).encode

/-- What is seen of a file of such bytes, or where there is none. -/
def Snapshot.of : Option (List UInt8) → Snapshot
  | none => .missing
  | some bytes => ⟨Layout.ofSize bytes.length, bytes.length, Record.decode? bytes⟩

namespace PathView.Regular

variable {σ : Type} [Storage σ] {view : PathView σ} {path : Path} {world : World σ}
  {lifecycle : Lifecycle} {handle owner : Handle} {file : FileObject} {bytes : List UInt8}
  {found : Option FileObject}

/-! ## Transfers -/

/-- A regular file is read with one call, if it has bytes enough. -/
theorem completes_readFull (regular : view.Regular path)
    (holds : view.Holds world.storage handle file) {count : Nat} (enough : count ≤ file.bytes.length) :
    (readFull handle 0 count).Completes world fun taken filled after =>
      taken.length ≤ 1 ∧ filled = ⟨file.bytes.take count, .ok ()⟩ ∧ after = world := by
  unfold readFull
  split
  next none =>
    subst none
    exact Script.completes_done ⟨Nat.zero_le _, rfl, rfl⟩
  next wanted =>
    have told : Storage.answer (.readAt handle 0 count) world.storage = _ :=
      regular.readAt holds (by decide) count
    have length : (file.bytes.take count).length = count := List.length_take_of_le enough
    apply Script.completes_turn
    apply Script.completes_act_ask told
    apply Script.completes_done
    rw [List.drop_zero, readTurn_ok (by omega), List.nil_append, if_neg (by omega)]
    exact Script.completes_done ⟨Nat.le_refl _, rfl, rfl⟩

/-- A regular file is written with one call. -/
theorem completes_writeFull (regular : view.Regular path)
    (holds : view.Holds world.storage handle file) {bytes : List UInt8} (some : 0 < bytes.length) :
    (writeFull handle 0 bytes).Completes world fun taken outcome after =>
      taken.length ≤ 1 ∧ outcome = .ok () ∧ ∃ storage, after = { world with storage } ∧
        view.Holds storage handle { file with bytes := overlay file.bytes 0 bytes } := by
  obtain ⟨storage, told, written⟩ :=
    regular.writeAt holds (show 0 < FileTree.offsetLimit by decide) (List.ne_nil_of_length_pos some)
  unfold writeFull
  rw [if_neg (Nat.ne_of_gt some)]
  apply Script.completes_turn
  apply Script.completes_act_ask told
  apply Script.completes_done
  rw [writeTurn_ok some, if_neg (by omega)]
  exact Script.completes_done ⟨Nat.le_refl _, rfl, storage, rfl, written⟩

/-! ## Parts of operations -/

/-- The layout and the record of a regular file are those of its bytes. -/
theorem completes_load (regular : view.Regular path)
    (holds : view.Holds world.storage handle file) :
    (Target.load handle).Completes world fun taken outcome after => taken.length ≤ 2 ∧
      outcome = .ok (Layout.ofSize file.bytes.length, Record.decode? file.bytes) ∧ after = world := by
  have enough : (Layout.ofSize file.bytes.length).readLength ≤ file.bytes.length := by
    rw [Layout.readLength_ofSize]
    exact Nat.min_le_right _ _
  unfold Target.load
  apply Script.completes_bind
  apply Script.completes_ask (regular.size holds)
  apply Script.completes_bind
  apply (regular.completes_readFull holds enough).mono
  rintro taken filled after ⟨steps, rfl, rfl⟩
  refine Script.completes_done ⟨?_, ?_, rfl⟩
  · simp only [List.length_append, List.length_cons, List.length_nil]
    omega
  · rw [Record.decode?_take_of_le (Nat.le_of_eq (Layout.readLength_ofSize _).symm)]

/-- Saving a record lays it over the start of a regular file. -/
theorem completes_persist (regular : view.Regular path)
    (holds : view.Holds world.storage handle file) (target : Target) (record : Record) :
    (target.persist handle record).Completes lifecycle world fun taken outcome left after =>
      taken.length ≤ 2 ∧ outcome = .ok () ∧ left = lifecycle ∧ ∃ storage,
        after = { world with storage } ∧
          view.Holds storage handle { file with bytes := record.encode ++ file.bytes.drop 2 } := by
  unfold Target.persist
  apply Guarded.completes_bind
  apply Guarded.completes_require
  apply (regular.completes_writeFull holds (show 0 < record.encode.length from Nat.two_pos)).mono
  rintro taken outcome after ⟨steps, rfl, storage, rfl, written⟩
  rw [overlay_zero] at written
  simp only
  split
  · refine Guarded.completes_call (regular.sync written) ⟨?_, rfl, rfl, storage, rfl, written⟩
    simp only [List.length_append, List.length_cons, List.length_nil]
    omega
  · refine Guarded.completes_pure ⟨?_, rfl, rfl, storage, rfl, written⟩
    simp only [List.length_append, List.length_nil]
    omega

/-- The bytes are put in order, and the record that they stood for is told. -/
theorem completes_normalize (regular : view.Regular path)
    (holds : view.Holds world.storage handle file) (target : Target) :
    (target.normalize handle).Completes lifecycle world fun taken outcome left after =>
      taken.length ≤ 5 ∧ outcome = .ok (Record.loaded (some file.bytes)) ∧ left = lifecycle ∧
        after.cached = world.cached ∧
        view.Holds after.storage handle { file with bytes := Record.normalized file.bytes } := by
  unfold Target.normalize
  apply Guarded.completes_bind
  apply Guarded.completes_require
  apply (regular.completes_load holds).mono
  rintro taken outcome after ⟨steps, rfl, rfl⟩
  obtain ⟨bytes, owner⟩ := file
  match bytes with
  | [] =>
    apply Guarded.completes_bind
    apply (regular.completes_persist holds target .clean).mono
    rintro late outcome left after ⟨more, rfl, rfl, storage, rfl, written⟩
    refine Guarded.completes_pure ⟨?_, rfl, rfl, rfl, written⟩
    simp only [List.length_append, List.length_nil]
    omega
  | [dirty] =>
    apply Guarded.completes_bind
    apply (regular.completes_persist holds target ⟨dirty != 0, false⟩).mono
    rintro late outcome left after ⟨more, rfl, rfl, storage, rfl, written⟩
    apply Guarded.completes_bind
    apply Guarded.completes_perform
    refine Guarded.completes_pure ⟨?_, rfl, rfl, rfl, written⟩
    simp only [List.length_append, List.length_cons, List.length_nil]
    omega
  | dirty :: rebuild :: rest =>
    refine Guarded.completes_pure ⟨?_, rfl, rfl, rfl, holds⟩
    simp only [List.length_append, List.length_nil]
    omega

/-- A lock that nobody has is taken. -/
theorem completes_acquireLock (regular : view.Regular path)
    (holds : view.Holds world.storage handle ⟨bytes, none⟩) :
    (Target.acquireLock { path } handle).Completes lifecycle world fun taken outcome left after =>
      taken.length ≤ 1 ∧ outcome = .ok true ∧ left = lifecycle ∧ ∃ storage,
        after = { world with storage } ∧ view.Holds storage handle ⟨bytes, some handle⟩ := by
  obtain ⟨storage, told, locking⟩ := regular.lock holds
  apply Guarded.completes_bind
  apply Guarded.completes_call told
  exact Guarded.completes_pure ⟨Nat.le_refl _, rfl, rfl, storage, rfl, locking⟩

theorem completes_publish (record : Record) :
    (Target.publish record).Completes lifecycle world fun taken outcome left after =>
      taken.length ≤ 2 ∧ outcome = .ok () ∧ left = lifecycle ∧
        after = { world with cached := record } := by
  unfold Target.publish
  apply Guarded.completes_bind
  apply Guarded.completes_perform
  apply Guarded.completes_perform
  exact ⟨Nat.le_refl _, rfl, rfl, rfl⟩

end PathView.Regular

/-- A store has the marker in hand, and its lock: the flags that it says, and the bytes of the file. -/
def PathView.Stands {σ : Type} (view : PathView σ) (world : World σ) (record : Record)
    (bytes : List UInt8) : Prop :=
  world.cached = record ∧ ∃ handle, world.lifecycle = ⟨.opened, some handle, true, true⟩ ∧
    view.Holds world.storage handle ⟨bytes, some handle⟩

namespace PathView.Regular

variable {σ : Type} [Storage σ] {view : PathView σ} {path : Path} {world : World σ}
  {lifecycle : Lifecycle} {handle owner : Handle} {file : FileObject} {bytes : List UInt8}
  {found : Option FileObject} {flag : Flag} {value : Bool} {record : Record}

/-! ## Opening -/

/-- Opening takes the lock and gives the file its record where it lacks a flag. -/
theorem completes_openMarker (regular : view.Regular path) (notOpen : world.lifecycle.state ≠ .opened)
    (shows : view.Shows world.storage (some ⟨bytes, none⟩)) :
    (Target.openMarker { path }).Completes world fun taken outcome after => taken.length ≤ 13 ∧
      outcome = .ok () ∧
      view.Stands after (Record.loaded (some bytes)) (Record.normalized bytes) := by
  obtain ⟨handle, storage, told, holds, -⟩ := regular.openFile shows
  unfold Target.openMarker Target.ensurePresent
  apply Guarded.completes_script
  apply Guarded.completes_bind
  refine Guarded.completes_ensureNotOpen (absurd · notOpen) fun _ => ?_
  apply Guarded.completes_bind
  apply Guarded.completes_bind
  apply Guarded.completes_call (regular.present shows)
  apply Guarded.completes_pure
  apply Guarded.completes_bind
  apply Guarded.completes_call told
  apply Guarded.completes_closingOnFailure
  apply Guarded.completes_bind
  apply (regular.completes_acquireLock holds).mono
  rintro first outcome left after ⟨few, rfl, rfl, storage, rfl, locking⟩
  apply Guarded.completes_bind
  apply (regular.completes_normalize locking { path }).mono
  rintro second outcome left after ⟨more, rfl, rfl, -, normal⟩
  apply Guarded.completes_bind
  apply (completes_publish _).mono
  rintro third outcome left after ⟨last, rfl, rfl, rfl⟩
  apply Guarded.completes_bind
  apply Guarded.completes_set
  apply Guarded.completes_perform
  refine ⟨?_, rfl, rfl, handle, rfl, normal⟩
  simp only [List.length_append, List.length_cons, List.length_nil]
  omega

/-- Asking whether there is a marker tells the truth and changes nothing. -/
theorem completes_present (regular : view.Regular path) (shows : view.Shows world.storage found) :
    (Target.present { path }).Completes world fun taken outcome after =>
      taken.length ≤ 1 ∧ outcome = .ok found.isSome ∧ after = world := by
  apply Script.completes_bind
  apply Script.completes_ask (regular.present shows)
  exact Script.completes_done ⟨Nat.le_refl _, rfl, rfl⟩

/-- What is seen is what is there, and it stays there. -/
theorem completes_inspect (regular : view.Regular path) (shows : view.Shows world.storage found) :
    (inspect path).Completes world fun taken outcome after => taken.length ≤ 6 ∧
      outcome = .ok (.of (found.map (·.bytes))) ∧ view.Shows after.storage found := by
  unfold inspect
  apply Script.completes_bind
  apply Script.completes_ask (regular.present shows)
  cases found with
  | none => exact Script.completes_done ⟨by simp, rfl, shows⟩
  | some file =>
    obtain ⟨handle, opened, told, holds, other⟩ := regular.openFile shows
    have closed := regular.close holds
    rw [Memory.released_eq_self other] at closed
    unfold inspectHandle
    apply Script.completes_bind
    apply Script.completes_ask told
    apply Script.completes_bind
    apply Script.completes_bind
    apply Script.completes_ask (regular.size holds)
    apply Script.completes_bind
    apply (regular.completes_load holds).mono
    rintro taken outcome after ⟨steps, rfl, rfl⟩
    apply Script.completes_done
    apply Script.completes_bind
    apply Script.completes_perform
    refine Script.completes_done ⟨?_, rfl, closed⟩
    simp only [List.length_append, List.length_cons, List.length_nil]
    omega

end PathView.Regular

end CrashMarker
