/-
Module: CrashMarker.Proofs.Replacement
Purpose: Creating a marker over an old one passes through a gap in which neither of them is there.
Main exports: Replacing, NextOpening, create_cut, create_rolls_back_in_gap, exists_rolled_back
-/
import CrashMarker.Proofs.Atomicity
import CrashMarker.Proofs.Commands
import CrashMarker.Proofs.Memory.Disturbed
import CrashMarker.Proofs.Memory.Misbehaving

namespace CrashMarker

open Memory (Unreliable Shows Misbehaves Requested)

/-!
A new marker starts out dirty, so that a crash before its first clean close is seen when it is next
opened.  But the old file is removed before the new one is made, and the new one is empty until its
record is written.  A missing file and an empty one are opened as clean.  So the record of the old
marker is rolled back by a creation that stops in between, and it is rolled back there alone.
-/

/-- What a creation may have left at its path: the old file, nothing, or a new file with a beginning of
the record of a new marker. -/
inductive Replacing (old : Option (List UInt8)) : Option (List UInt8) → Prop where
  | standing : Replacing old old
  | removed : Replacing old none
  | begun (laid : Nat) : Replacing old (some (Record.created.encode.take laid))

/-- What the next store to open the marker at a path reads, after openings that have failed or have
been cut, each of which leaves its handles closed. -/
inductive NextOpening (failures : StorageError → Prop) (path : Path) : Memory → Record → Prop where
  | opens {memory after : Memory} {store next : Store} (same : store.target.path = path)
      (notOpen : store.lifecycle.state ≠ .opened)
      (opening : store.Performs (Unreliable failures) .openMarker memory (.ok ()) next after) :
      NextOpening failures path memory next.cached
  | stops {memory : Memory} {store : Store} {taken : List Taken}
      {last : Script (Except StoreError Unit)} {after : World Memory} {record : Record}
      (same : store.target.path = path) (handles : List Handle)
      (passes : Script.Passes (Unreliable failures) store.target.openMarker (store.world memory) taken
        last after)
      (later : NextOpening failures path (after.storage.closeAll handles) record) :
      NextOpening failures path memory record

variable {failures : StorageError → Prop} {store : Store} {memory found : Memory}
  {taken : List Taken} {last : Script (Except StoreError Unit)} {after : World Memory}

/-! ## What is left behind -/

/-- The system may close handles of a memory that is to misbehave. -/
theorem Memory.Misbehaves.closeAll (misbehaves : Misbehaves found memory) (handles : List Handle) :
    Misbehaves (found.closeAll handles) (memory.closeAll handles) := by
  unfold Memory.closeAll
  induction handles generalizing found memory with
  | nil => exact misbehaves
  | cons handle handles inductionHypothesis =>
    exact inductionHypothesis (misbehaves.close handle)

/-- Wherever a creation stops on an orderly memory, it has left one of the three behind, and where it
has returned without an error, the whole record. -/
theorem create_cut_orderly (orderly : memory.Orderly)
    (passes : Script.Passes (Unreliable failures) store.target.create (store.world memory) taken last
      after) :
    Replacing (memory.contents store.target.path) (after.storage.contents store.target.path) ∧
      (last = .done (.ok ()) →
        after.storage.contents store.target.path = some Record.created.encode) := by
  have start : memory.Shows store.target.path (Replacing (memory.contents store.target.path)) :=
    .standing
  by_cases opened : store.lifecycle.state = .opened
  · have refused : store.target.create.Upholds (Unreliable failures)
        (Shows store.target.path (Replacing (memory.contents store.target.path)))
        (store.world memory) _ := upholds_create_refused opened
    obtain ⟨replacing, returned⟩ := refused start passes
    refine ⟨replacing, fun ok => ?_⟩
    cases (returned _ ok).1
  · have atRest : memory.AtRest store.target.path (memory.file store.target.path) :=
      ⟨orderly.sound, orderly.quiet, rfl⟩
    have upholds : store.target.create.Upholds (Unreliable failures)
        (Shows store.target.path (Replacing (memory.contents store.target.path)))
        (store.world memory) _ := atRest.upholds_create .removed .begun opened
    obtain ⟨replacing, returned⟩ := upholds start passes
    exact ⟨replacing, fun ok => (returned _ ok).2 rfl⟩

/-- The same on a memory that was asked to let openings and removals fail. -/
theorem create_cut (misbehaves : Misbehaves found memory)
    (passes : Script.Passes (Unreliable failures) store.target.create (store.world found) taken last
      after) :
    Replacing (found.contents store.target.path) (after.storage.contents store.target.path) ∧
      (last = .done (.ok ()) →
        after.storage.contents store.target.path = some Record.created.encode) ∧
      ∃ left, Misbehaves after.storage left := by
  obtain ⟨left, followed, kept⟩ := passes.followed (Memory.follows_misbehaving failures) misbehaves
  have cut := create_cut_orderly misbehaves.orderly followed
  rw [misbehaves.contents_eq, kept.contents_eq]
  exact ⟨cut.1, cut.2, left, kept⟩

/-! ## What is found later -/

/-- Whatever comes of the openings before, the next store to open the marker reads the record that the
file stands for. -/
theorem NextOpening.record_eq {path : Path} {record : Record}
    (opening : NextOpening failures path found record) (misbehaves : Misbehaves found memory) :
    record = Record.loaded (found.contents path) := by
  induction opening generalizing memory with
  | @opens found after store next same notOpen performs =>
    obtain ⟨taken, world, ends, rfl, rfl⟩ := performs
    obtain ⟨left, followed, -⟩ := ends.followed (Memory.follows_misbehaving failures) misbehaves
    have atRest : memory.AtRest store.target.path (memory.file store.target.path) :=
      ⟨misbehaves.orderly.sound, misbehaves.orderly.quiet, rfl⟩
    have start : memory.Shows store.target.path fun contents =>
        Record.loaded contents = Record.loaded ((memory.file store.target.path).map (·.bytes)) := rfl
    have upholds : store.target.openMarker.Upholds
        (Unreliable fun cause => failures cause ∨ Requested cause) _ (store.world memory) _ :=
      atRest.upholds_openMarker notOpen
    have setUp := upholds.of_ends start followed
    cases setUp with
    | opened cached =>
      rw [← same, misbehaves.contents_eq]
      exact cached
  | stops same handles passes _ inductionHypothesis =>
    obtain ⟨left, followed, kept⟩ := passes.followed (Memory.follows_misbehaving failures) misbehaves
    have cut := openMarker_cut misbehaves.orderly.sound misbehaves.orderly.quiet followed
    have told := inductionHypothesis (kept.closeAll handles)
    rw [Memory.contents_closeAll] at told
    rw [told, ← same, misbehaves.contents_eq, kept.contents_eq]
    exact cut

/-- Only an empty beginning of the new record stands for a clean marker. -/
theorem dirty_loaded_take_iff (laid : Nat) :
    (Record.loaded (some (Record.created.encode.take laid))).dirty = false ↔
      Record.created.encode.take laid = [] := by
  match laid with
  | 0 => decide
  | 1 => decide
  | laid + 2 => simp [Record.created, Record.encode, Record.flagByte, Record.loaded, Record.decode?]

/-- Where the old marker was dirty, or the new one has been made, what is left behind tells clean exactly
if the old file is gone and the new one has no bytes yet. -/
theorem Replacing.clean_iff {old now : Option (List UInt8)} (replacing : Replacing old now)
    (dirty : (Record.loaded old).dirty = true ∨
      ∃ laid, now = some (Record.created.encode.take laid)) :
    (Record.loaded now).dirty = false ↔ now = none ∨ now = some [] := by
  have ofBegun (laid : Nat) : (Record.loaded (some (Record.created.encode.take laid))).dirty = false ↔
      some (Record.created.encode.take laid) = none ∨
        some (Record.created.encode.take laid) = some [] := by
    rw [dirty_loaded_take_iff]
    simp
  cases replacing with
  | standing =>
    rcases dirty with dirty | ⟨laid, rfl⟩
    · constructor
      · intro clean
        rw [dirty] at clean
        cases clean
      · rintro (rfl | rfl)
        · cases dirty
        · cases dirty
    · exact ofBegun laid
  | removed => simp [Record.loaded, Record.clean]
  | begun laid => exact ofBegun laid

/-- A creation never rolls a dirty marker back to clean, except by stopping where the old file is gone
and the new one has no bytes yet.  Whichever calls fail, with or without effect, however little a write
moves, and wherever it is cut, a creation leaves the old file, or nothing, or a new file with a beginning
of its record, and the next store to open the marker reads what stands there.  Where the old marker was
dirty, or the new one has been made, that is clean in the gap and only there.  A creation that has
returned without an error is past it. -/
theorem create_rolls_back_in_gap (failures : StorageError → Prop) (store : Store) (memory : Memory)
    (sound : memory.Sound) (sizes : memory.extraSize = 0) {taken : List Taken}
    {last : Script (Except StoreError Unit)} {after : World Memory}
    (passes : Script.Passes (Unreliable failures) store.target.create (store.world memory) taken last
      after)
    (handles : List Handle) {record : Record}
    (opening : NextOpening failures store.target.path (after.storage.closeAll handles) record) :
    Replacing (memory.contents store.target.path) (after.storage.contents store.target.path) ∧
      record = Record.loaded (after.storage.contents store.target.path) ∧
      ((Record.loaded (memory.contents store.target.path)).dirty = true ∨
          (∃ laid, after.storage.contents store.target.path =
            some (Record.created.encode.take laid)) →
        (record.dirty = false ↔ after.storage.contents store.target.path = none ∨
          after.storage.contents store.target.path = some [])) ∧
      (last = .done (.ok ()) → record = .created) := by
  have misbehaves := sound.misbehaves sizes
  obtain ⟨replacing, written, left, kept⟩ := create_cut misbehaves passes
  have told := opening.record_eq (kept.closeAll handles)
  rw [Memory.contents_closeAll] at told
  refine ⟨replacing, told, ?_, ?_⟩
  · intro dirty
    rw [told]
    exact replacing.clean_iff dirty
  · intro returned
    rw [told, written returned]
    rfl

/-! ## The gap -/

/-- Removing the name of a file and making a new file there leaves an empty one. -/
theorem Memory.contents_put_unlink (memory : Memory) (path : Path) (bytes : List UInt8) :
    ((memory.unlink path).put path bytes).contents path = some bytes := by
  simp [Memory.contents, Memory.file, Memory.named, Memory.put, Memory.unlink]

/-- No marker is safe from the gap: if one opening can fail, then a creation may give up with nothing to
show but an empty file in place of the old one. -/
theorem exists_rolled_back {cause : StorageError} (failing : failures cause)
    (orderly : memory.Orderly) (notOpen : store.lifecycle.state ≠ .opened)
    {object : ObjectId} (named : memory.named store.target.path = some object) :
    ∃ next left, store.Performs (Unreliable failures) .create memory (.error (.storage cause)) next
        left ∧ left.contents store.target.path = some [] ∧
      ∀ handles record, NextOpening failures store.target.path (left.closeAll handles) record →
        record = .clean := by
  obtain ⟨⟨path, ⟨fileLock, syncOnWrite⟩⟩, cached, ⟨state, handle, locked, associated⟩⟩ := store
  let removed := memory.unlink path
  let made := removed.put path []
  let left : Lifecycle := ⟨state, handle, locked, true⟩
  have found : memory.answer (.present path) = (.ok true, memory) := by
    simp [Memory.answer, named]
  have removes : memory.answer (.remove path) = (.ok (), removed) := by
    simp [Memory.answer, Memory.remove, orderly.quiet.races, orderly.quiet.removes, named, removed]
  have makes : removed.answer (.createNew path) = (.ok (), made) := by
    simp [Memory.answer, Memory.createNew, Memory.named, Memory.unlink, removed, made]
  have honest {request : Request} {before after : Memory} {answer : request.Answer}
      (answered : before.answer request = (answer, after)) :
      Unreliable failures request before answer after :=
    Memory.unreliable_of_honest failures _ _ _ _ answered
  have ends : ∃ events taken, (Target.create ⟨path, ⟨fileLock, syncOnWrite⟩⟩).Ends
      (Unreliable failures) ⟨memory, cached, ⟨state, handle, locked, associated⟩, []⟩ taken
      (.error (.storage cause)) ⟨made, cached, left, events⟩ := by
    cases state with
    | opened => exact absurd rfl notOpen
    | _ =>
      cases fileLock with
      | true =>
        refine ⟨[.probeSkipped path cause], ?_⟩
        apply Script.exists_ends_step .acquire rfl rfl
        apply Script.exists_ends_step (.ask (.present path)) rfl ⟨_, honest found, rfl⟩
        apply Script.exists_ends_step (.ask (.openFile path)) rfl ⟨_, .refused failing, rfl⟩
        apply Script.exists_ends_step (.emit (.probeSkipped path cause)) rfl rfl
        apply Script.exists_ends_step (.ask (.remove path)) rfl ⟨_, honest removes, rfl⟩
        apply Script.exists_ends_step (.ask (.createNew path)) rfl ⟨_, honest makes, rfl⟩
        apply Script.exists_ends_step (.ask (.openFile path)) rfl ⟨_, .refused failing, rfl⟩
        apply Script.exists_ends_step (.release left) rfl rfl
        exact ⟨[], .here _ _⟩
      | false =>
        refine ⟨[], ?_⟩
        apply Script.exists_ends_step .acquire rfl rfl
        apply Script.exists_ends_step (.ask (.present path)) rfl ⟨_, honest found, rfl⟩
        apply Script.exists_ends_step (.ask (.remove path)) rfl ⟨_, honest removes, rfl⟩
        apply Script.exists_ends_step (.ask (.createNew path)) rfl ⟨_, honest makes, rfl⟩
        apply Script.exists_ends_step (.ask (.openFile path)) rfl ⟨_, .refused failing, rfl⟩
        apply Script.exists_ends_step (.release left) rfl rfl
        exact ⟨[], .here _ _⟩
  obtain ⟨events, taken, ends⟩ := ends
  have empty : made.contents path = some [] := memory.contents_put_unlink _ _
  refine ⟨_, made, ⟨taken, _, ends, rfl, rfl⟩, empty, ?_⟩
  intro handles record opening
  have sound : made.Sound := (orderly.sound.unlink path).put path []
  have told := opening.record_eq ((sound.misbehaves orderly.quiet.sizes).closeAll handles)
  rw [Memory.contents_closeAll, empty] at told
  exact told

/-- An opening that was computed is what the next store may come to. -/
theorem nextOpening_of_obey {budget : Nat} {path : Path} {obeyed : Obeyed Memory}
    (same : store.target.path = path) (notOpen : store.lifecycle.state ≠ .opened)
    (opening : store.obey budget memory (.operate .openMarker) = some obeyed)
    (returned : obeyed.outcome = some (.ok ())) :
    NextOpening failures path memory obeyed.store.cached := by
  obtain ⟨outcome, told, taken, world, ends, next, left⟩ := Store.performs_of_obey opening
  cases told.symm.trans returned
  have performs : store.Performs (Unreliable failures) .openMarker memory (.ok ()) obeyed.store
      obeyed.storage :=
    ⟨taken, world, ends.mono (Memory.unreliable_of_honest failures), next, left⟩
  exact .opens same notOpen performs

/-- A store that has done nothing yet with the marker of the examples. -/
def freshStore : Store := .fresh { path := ⟨"marker"⟩ }

/-- A dirty marker, on a memory that lets two openings fail. -/
def dirtyMarker : Memory := { Memory.holding ⟨"marker"⟩ (some [1, 0]) with failingOpens := 2 }

def replacementFailed : Obeyed Memory :=
  (freshStore.obey 30 dirtyMarker (.operate .create)).get (by decide)

/-- What opening it comes to afterwards. -/
def openedClean : Obeyed Memory :=
  (freshStore.obey 30 (replacementFailed.storage.closeAll []) (.operate .openMarker)).get (by decide)

/-- The creation fails, and it has removed the dirty marker and made an empty one, which the next store
opens as clean. -/
theorem create_rolls_back :
    Record.loaded (dirtyMarker.contents ⟨"marker"⟩) = .created ∧
      freshStore.Performs (Unreliable fun _ => False) .create dirtyMarker
        (.error (.storage (.io (.bare .permissionDenied)))) replacementFailed.store
        replacementFailed.storage ∧
      replacementFailed.storage.contents ⟨"marker"⟩ = some [] ∧
      NextOpening (fun _ => False) ⟨"marker"⟩ (replacementFailed.storage.closeAll [])
        openedClean.store.cached ∧
      openedClean.store.cached.dirty = false := by
  have creates : freshStore.obey 30 dirtyMarker (.operate .create) = some replacementFailed :=
    (Option.some_get _).symm
  have opens : freshStore.obey 30 (replacementFailed.storage.closeAll []) (.operate .openMarker) =
      some openedClean := (Option.some_get _).symm
  obtain ⟨outcome, told, performed⟩ := Store.performs_of_obey creates
  obtain ⟨-, performs⟩ := performed.viewed Memory.views_calm trivial
  cases told
  refine ⟨by decide, performs, by decide, ?_, by decide⟩
  exact nextOpening_of_obey rfl (by decide) opens rfl

/-- What replacing a dirty marker comes to after so many actions, if one byte moves at a time. -/
def replacingSlowly (count : Nat) : World Memory :=
  freshStore.target.create.advanced count (freshStore.world (.slow ⟨"marker"⟩ [1, 0]))

/-- What opening the marker comes to if the machine stops then. -/
def openedDirty : Obeyed Memory :=
  (freshStore.obey 30 ((replacingSlowly 11).storage.closeAll [⟨1⟩]) (.operate .openMarker)).get
    (by decide)

/-- Once one byte of the new record has been written the marker is opened as dirty. -/
theorem create_rolls_back_in_gap_no_more :
    (replacingSlowly 11).storage.contents ⟨"marker"⟩ = some [1] ∧
      openedDirty.store.cached.dirty = true := by
  have creating : ∃ taken last, Script.Passes (Unreliable fun _ => True) freshStore.target.create _
      taken last (replacingSlowly 11) := Script.passes_unreliable _ 11 _ _
  have opens : freshStore.obey 30 ((replacingSlowly 11).storage.closeAll [⟨1⟩])
      (.operate .openMarker) = some openedDirty := (Option.some_get _).symm
  have opening : NextOpening (fun _ => True) ⟨"marker"⟩ ((replacingSlowly 11).storage.closeAll [⟨1⟩])
      openedDirty.store.cached := nextOpening_of_obey rfl (by decide) opens rfl
  obtain ⟨taken, last, passes⟩ := creating
  have sound := (Memory.atRest_slow ⟨"marker"⟩ [1, 0]).sound
  have begun : (replacingSlowly 11).storage.contents ⟨"marker"⟩ = some [1] := by decide
  obtain ⟨-, -, gap, -⟩ := create_rolls_back_in_gap (fun _ => True) freshStore _ sound rfl passes [⟨1⟩]
    opening
  have dirty : (Record.loaded ((Memory.slow ⟨"marker"⟩ [1, 0]).contents ⟨"marker"⟩)).dirty = true := rfl
  have past : ¬ ((replacingSlowly 11).storage.contents ⟨"marker"⟩ = none ∨
      (replacingSlowly 11).storage.contents ⟨"marker"⟩ = some []) := by
    rw [begun]
    decide
  refine ⟨begun, ?_⟩
  cases told : openedDirty.store.cached.dirty with
  | true => rfl
  | false => exact absurd ((gap (Or.inl dirty)).1 told) past

end CrashMarker
