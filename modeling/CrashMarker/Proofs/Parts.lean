/-
Module: CrashMarker.Proofs.Parts
Purpose: What the parts that operations share come to on an unreliable memory.
Main exports:
  upholds_persist, upholds_acquireLock, upholds_normalize, upholds_probeLock, upholds_ensurePresent,
  upholds_letGo, upholds_removeUntilGone
-/
import CrashMarker.Proofs.Transfers

namespace CrashMarker

open Memory (Unreliable Shows)

/-!
A part leaves the lifecycle and the cached flags as they were unless its name says otherwise.  When it
fails it leaves the file in hand, so that closing the handle is all that its caller has to do.
-/

variable {failures : StorageError → Prop} {permitted : Option (List UInt8) → Prop}
  {path : Path} {handle : Handle} {file : FileObject} {found : Option FileObject}
  {lifecycle : Lifecycle} {world : World Memory}

namespace Memory

/-! ## Parts that work on a file in hand -/

/-- A record that has been persisted stands at the start of the file in hand.  When that fails, a
part of it may stand there. -/
theorem InHand.upholds_persist {record : Record} (target : Target)
    (prefixes : ∀ laid, permitted (some (overlay file.bytes 0 (record.encode.take laid))))
    (inHand : world.storage.InHand path handle file) :
    (target.persist handle record).Upholds (Unreliable failures) (Shows path permitted) lifecycle
      world fun outcome left after => left = lifecycle ∧ after.cached = world.cached ∧
        ((outcome = .ok () ∧ after.storage.InHand path handle
            { file with bytes := overlay file.bytes 0 record.encode }) ∨
          Fails failures outcome ∧ ∃ bytes, after.storage.InHand path handle { file with bytes }) := by
  apply ((serves permitted path handle file).upholds_persist target prefixes inHand).mono
  rintro outcome left after _ ⟨rfl, cached, done | ⟨fails, laid, -, -, there⟩⟩
  · exact ⟨rfl, cached, Or.inl done⟩
  · exact ⟨rfl, cached, Or.inr ⟨fails, _, there⟩⟩

/-- Persisting a record shows nothing but what is permitted, whatever file the handle is on. -/
theorem upholds_persist {record : Record} (target : Target)
    (safe : SafeToWrite permitted record.encode) :
    (target.persist handle record).Upholds (Unreliable failures) (Shows path permitted) lifecycle
      world fun _ _ _ => True := by
  unfold Target.persist
  apply Guarded.upholds_bind
  apply Guarded.upholds_require
  apply (upholds_writeFull safe).mono
  rintro outcome middle _ -
  cases outcome with
  | error error => trivial
  | ok done =>
    simp only
    split
    · refine Guarded.upholds_of_start fun shows => Guarded.upholds_call ?_
      intro answer storage answered
      refine ⟨?_, trivial⟩
      unfold Shows
      rw [answered.contents_sync]
      exact shows
    · exact Guarded.upholds_pure trivial

/-- The lock is taken exactly if the configuration says so, and then nobody had it. -/
theorem InHand.upholds_acquireLock (target : Target) (free : file.owner ≠ some handle)
    (inHand : world.storage.InHand path handle file) :
    (target.acquireLock handle).Upholds (Unreliable failures) (Shows path permitted) lifecycle world
      fun outcome left after => left = lifecycle ∧ after.cached = world.cached ∧
        ((outcome = .ok target.config.fileLock ∧ (target.config.fileLock → file.owner = none) ∧
            after.storage.InHand path handle { file with
              owner := if target.config.fileLock then some handle else file.owner }) ∨
          ∃ held, after.storage.InHand path handle held ∧ Memory.released handle held = file ∧
            (outcome = .error (.locked target.path) ∧ target.config.fileLock ∧ file.owner.isSome ∨
              Fails failures outcome)) := by
  unfold Target.acquireLock
  cases locking : target.config.fileLock with
  | false =>
    exact Guarded.upholds_pure ⟨rfl, rfl, Or.inl ⟨rfl, nofun, inHand⟩⟩
  | true =>
    refine Guarded.upholds_of_start fun shows => Guarded.upholds_bind (Guarded.upholds_call ?_)
    intro answer storage answered
    have showing : permitted (some file.bytes) := inHand.shows_iff.1 shows
    rcases inHand.tryLock free answered with ⟨rfl, nobody, there⟩ | ⟨rfl, owned, there⟩ |
      ⟨cause, held, failing, rfl, there, same⟩
    · refine ⟨there.shows_iff.2 showing, Guarded.upholds_pure ?_⟩
      exact ⟨rfl, rfl, Or.inl ⟨rfl, fun _ => nobody, there⟩⟩
    · refine ⟨there.shows_iff.2 showing, Guarded.upholds_bind (Guarded.upholds_emit ?_)⟩
      refine Guarded.upholds_throw ⟨rfl, rfl, Or.inr ⟨file, there, released_eq_self free, Or.inl ?_⟩⟩
      exact ⟨rfl, rfl, owned⟩
    · refine ⟨there.shows_of_released same showing, rfl, rfl, Or.inr ⟨held, there, same, Or.inr ?_⟩⟩
      exact Fails.intro failing _

/-- An opened marker gets both flags and keeps its record. -/
theorem InHand.upholds_normalize {record : Record} (target : Target)
    (inHand : world.storage.InHand path handle file) :
    (target.normalize handle).Upholds (Unreliable failures)
      (Shows path fun contents => Record.loaded contents = record) lifecycle world
      fun outcome left after => left = lifecycle ∧ after.cached = world.cached ∧
        ∃ bytes, after.storage.InHand path handle { file with bytes } ∧
          (outcome = .ok record ∧ 2 ≤ bytes.length ∨ Fails failures outcome) := by
  apply Guarded.upholds_of_start
  intro shows
  have serves : Serves (Unreliable failures)
      (Shows path fun contents => Record.loaded contents = record) handle failures
      (fun bytes memory => memory.InHand path handle { file with bytes })
      fun bytes => Record.loaded (some bytes) = record :=
    serves (fun contents => Record.loaded contents = record) path handle file
  exact serves.upholds_normalize target (inHand.shows_iff.1 shows) inHand

/-- Closing the handle leads back to the file as it is without the lock of that handle. -/
theorem InHand.upholds_close {held : FileObject}
    {ends : Except StoreError Unit → Lifecycle → World Memory → Prop}
    (inHand : world.storage.InHand path handle held) (same : Memory.released handle held = file)
    (closed : ∀ after : World Memory, after.cached = world.cached →
      after.storage.AtRest path (some file) → ends (.ok ()) lifecycle after) :
    (Guarded.lift (Script.close handle)).Upholds (Unreliable failures) (Shows path permitted)
      lifecycle world ends := by
  apply Guarded.upholds_lift
  apply Script.upholds_close (fun shows => shows.close handle)
  exact closed _ rfl (inHand.atRest_close same)

/-- A handle that was let go of leaves its file at rest, even if the lock could not be given up. -/
theorem InHand.upholds_letGo (locked : Bool) (inHand : world.storage.InHand path handle file) :
    (Target.letGo handle locked).Upholds (Unreliable failures) (Shows path permitted) lifecycle world
      fun outcome left after => left = lifecycle ∧ after.cached = world.cached ∧
        after.storage.AtRest path (some (Memory.released handle file)) ∧
          (outcome = .ok () ∨ Fails failures outcome) := by
  unfold Target.letGo
  apply Guarded.upholds_bind
  apply Guarded.upholds_closingOnFailure (fun _ shows => shows.close handle)
  cases locked with
  | false =>
    apply Guarded.upholds_pure
    apply inHand.upholds_close rfl
    intro after cached atRest
    exact ⟨rfl, cached, atRest, Or.inl rfl⟩
  | true =>
    refine Guarded.upholds_of_start fun shows => Guarded.upholds_call ?_
    have showing : permitted (some (Memory.released handle file).bytes) := by
      rw [bytes_released]
      exact inHand.shows_iff.1 shows
    intro answer storage answered
    obtain ⟨held, here, same, rfl | ⟨cause, failing, rfl⟩⟩ := inHand.unlock answered
    · refine ⟨here.shows_of_released same showing, here.upholds_close same ?_⟩
      intro after cached atRest
      exact ⟨rfl, cached, atRest, Or.inl rfl⟩
    · refine ⟨here.shows_of_released same showing, rfl, rfl, here.atRest_close same, Or.inr ?_⟩
      exact Fails.intro failing _

/-! ## Parts that work on the path -/

/-- Probing the lock of the file at the path leaves it as it was, and fails exactly if someone has the
lock, unless a call fails. -/
theorem AtRest.upholds_probeLock (target : Target)
    (atRest : world.storage.AtRest target.path (some file)) :
    target.probeLock.Upholds (Unreliable failures) (Shows target.path permitted) lifecycle world
      fun outcome left after => left = lifecycle ∧ after.cached = world.cached ∧
        after.storage.AtRest target.path (some file) ∧
          (outcome = .ok () ∧ (file.owner = none ∨ ∃ cause, failures cause) ∨
            outcome = .error (.locked target.path) ∧ file.owner.isSome) := by
  unfold Target.probeLock
  refine Guarded.upholds_of_start fun shows => Guarded.upholds_bind (Guarded.upholds_ask ?_)
  have showing : permitted (some file.bytes) := atRest.shows_iff.1 shows
  intro answer storage answered
  rcases atRest.openFile answered with ⟨_, handle, rfl, same, free, here⟩ | ⟨cause, rfl, reason, there⟩
  · cases same
    refine ⟨here.shows_iff.2 showing, ?_⟩
    simp only
    apply Guarded.upholds_bind
    apply Guarded.upholds_closingOnFailure (fun _ shows => shows.close handle)
    apply Guarded.upholds_bind
    apply Guarded.upholds_ask
    intro answer storage answered
    rcases here.tryLock free answered with ⟨rfl, nobody, taken⟩ | ⟨rfl, owned, there⟩ |
      ⟨cause, held, failing, rfl, there, same⟩
    · refine ⟨taken.shows_iff.2 showing, Guarded.upholds_bind (Guarded.upholds_ask ?_)⟩
      intro answer storage answered
      obtain ⟨held, there, same, told⟩ := taken.unlock answered
      have unlocked : Memory.released handle held = file := by
        rw [same]
        simp [Memory.released, ← nobody]
      refine ⟨there.shows_of_released unlocked showing, ?_⟩
      -- Whatever becomes of giving the lock up again, the handle is closed.
      rcases told with rfl | ⟨cause, failing, rfl⟩
      · apply Guarded.upholds_pure
        apply there.upholds_close unlocked
        intro after cached atRest
        exact ⟨rfl, cached, atRest, Or.inl ⟨rfl, Or.inl nobody⟩⟩
      · apply Guarded.upholds_emit
        apply there.upholds_close unlocked
        intro after cached atRest
        exact ⟨rfl, cached, atRest, Or.inl ⟨rfl, Or.inl nobody⟩⟩
    · refine ⟨there.shows_iff.2 showing, Guarded.upholds_bind (Guarded.upholds_emit ?_)⟩
      refine Guarded.upholds_throw ⟨rfl, rfl, ?_, Or.inr ⟨rfl, owned⟩⟩
      exact there.atRest_close (released_eq_self free)
    · refine ⟨there.shows_of_released same showing, Guarded.upholds_emit ?_⟩
      apply there.upholds_close same
      intro after cached atRest
      exact ⟨rfl, cached, atRest, Or.inl ⟨rfl, Or.inr ⟨cause, failing⟩⟩⟩
  · refine ⟨there.shows_iff.2 showing, Guarded.upholds_emit ?_⟩
    have failing : failures cause := reason.resolve_right (Option.some_ne_none _)
    exact ⟨rfl, rfl, there, Or.inl ⟨rfl, Or.inr ⟨cause, failing⟩⟩⟩

/-- Where there was no file there is an empty one afterwards, unless a call fails. -/
theorem AtRest.upholds_ensurePresent {record : Record} (target : Target)
    (atRest : world.storage.AtRest target.path found) :
    target.ensurePresent.Upholds (Unreliable failures)
      (Shows target.path fun contents => Record.loaded contents = record) lifecycle world
      fun outcome left after => left = { lifecycle with associated := left.associated } ∧
        after.cached = world.cached ∧ ∃ now, after.storage.AtRest target.path now ∧
          (now = found ∧ left = lifecycle ∨ found = none ∧ now = some {}) ∧
          (outcome = .ok () ∧ (now.isSome ∨ ∃ cause, failures cause) ∨ Fails failures outcome) := by
  unfold Target.ensurePresent
  refine Guarded.upholds_of_start fun shows => ?_
  have showing : Record.loaded (found.map (·.bytes)) = record := atRest.shows_iff.1 shows
  refine Guarded.upholds_bind (Guarded.upholds_call ?_)
  intro answer storage answered
  obtain ⟨there, rfl | ⟨cause, failing, rfl⟩⟩ := atRest.present answered
  · refine ⟨there.shows_iff.2 showing, ?_⟩
    cases found with
    | some file =>
      exact Guarded.upholds_pure ⟨rfl, rfl, _, there, Or.inl ⟨rfl, rfl⟩, Or.inl ⟨rfl, Or.inl rfl⟩⟩
    | none =>
      apply Guarded.upholds_bind
      apply Guarded.upholds_ask
      intro answer made answered
      rcases there.createNew answered with ⟨rfl, -, fresh⟩ | ⟨-, impossible, -⟩ |
        ⟨cause, failing, rfl, either⟩
      · refine ⟨fresh.shows_iff.2 showing, Guarded.upholds_modify ?_⟩
        exact ⟨rfl, rfl, _, fresh, Or.inr ⟨rfl, rfl⟩, Or.inl ⟨rfl, Or.inl rfl⟩⟩
      · cases impossible
      · obtain ⟨now, left, standing⟩ : ∃ now, made.AtRest target.path now ∧
            (now = none ∧ lifecycle = lifecycle ∨ (none : Option FileObject) = none ∧
              now = some {}) := by
          rcases either with left | ⟨-, left⟩
          · exact ⟨_, left, Or.inl ⟨rfl, rfl⟩⟩
          · exact ⟨_, left, Or.inr ⟨rfl, rfl⟩⟩
        have kept : Record.loaded (now.map (·.bytes)) = record := by
          rcases standing with ⟨rfl, -⟩ | ⟨-, rfl⟩
          · exact showing
          · exact showing
        refine ⟨left.shows_iff.2 kept, ?_⟩
        -- A failure may say that someone else was faster, and then the operation goes on.
        cases cause with
        | alreadyExists other =>
          exact Guarded.upholds_pure ⟨rfl, rfl, now, left, standing,
            Or.inl ⟨rfl, Or.inr ⟨_, failing⟩⟩⟩
        | _ =>
          exact Guarded.upholds_throw ⟨rfl, rfl, now, left, standing,
            Or.inr (Fails.intro failing _)⟩
  · refine ⟨there.shows_iff.2 showing, rfl, rfl, found, there, Or.inl ⟨rfl, rfl⟩, Or.inr ?_⟩
    exact Fails.intro failing _

/-- Removal is tried until the file is gone, unless a call fails. -/
theorem AtRest.upholds_removeUntilGone (target : Target)
    (atRest : world.storage.AtRest target.path found) :
    target.removeUntilGone.Upholds (Unreliable failures) (Shows target.path fun _ => True) world
      fun outcome after => after.cached = world.cached ∧
        (outcome = .ok () ∧ after.storage.AtRest target.path none ∨
          (∃ cause, failures cause) ∧ ∃ now, after.storage.AtRest target.path now) := by
  unfold Target.removeUntilGone
  apply Script.upholds_cycle (fun _ after => after.cached = world.cached ∧
    ∃ now, after.storage.AtRest target.path now)
  · exact ⟨rfl, found, atRest⟩
  · rintro warned before ⟨cached, now, here⟩
    apply Script.upholds_act
    rintro answer after ⟨storage, answered, rfl⟩
    refine ⟨trivial, ?_⟩
    rcases here.remove answered with ⟨rfl, gone⟩ | ⟨rfl, -, gone⟩ | ⟨cause, failing, rfl, either⟩
    · exact Script.upholds_done (Script.upholds_done ⟨cached, Or.inl ⟨rfl, gone⟩⟩)
    · exact Script.upholds_done (Script.upholds_done ⟨cached, Or.inl ⟨rfl, gone⟩⟩)
    · have blame : ∃ cause, failures cause := ⟨cause, failing⟩
      obtain ⟨now, left⟩ : ∃ now, storage.AtRest target.path now := by
        rcases either with left | left
        · exact ⟨_, left⟩
        · exact ⟨_, left⟩
      cases cause
      case notFound other =>
        exact Script.upholds_done (Script.upholds_done ⟨cached, Or.inr ⟨blame, now, left⟩⟩)
      all_goals
        apply Script.upholds_bind
        apply Script.upholds_ask
        intro answer looked answered
        obtain ⟨there, rfl | ⟨cause, failing, rfl⟩⟩ := left.present answered
        · refine ⟨trivial, ?_⟩
          cases now with
          | none => exact Script.upholds_done (Script.upholds_done ⟨cached, Or.inl ⟨rfl, there⟩⟩)
          | some file =>
            cases warned with
            | true => exact Script.upholds_done ⟨cached, _, there⟩
            | false =>
              apply Script.upholds_bind
              apply Script.upholds_emit
              apply Script.upholds_done
              exact ⟨cached, _, there⟩
        · exact ⟨trivial, Script.upholds_done (Script.upholds_done
            ⟨cached, Or.inr ⟨blame, now, there⟩⟩)⟩

end Memory

end CrashMarker
