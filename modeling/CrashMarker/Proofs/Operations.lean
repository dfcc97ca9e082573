/-
Module: CrashMarker.Proofs.Operations
Purpose: What each operation on a store comes to on an unreliable memory.
Main exports:
  SetUp, upholds_openMarker, upholds_create, upholds_closeMarker, upholds_delete, upholds_transition
-/
import CrashMarker.Proofs.Parts
import CrashMarker.Store

namespace CrashMarker

open Memory (Unreliable Shows)

namespace Target

open Guarded

/-- Remove the file in the way of a new marker. -/
def removeOld (target : Target) : Guarded Unit := do
  match ← ask (.remove target.path) with
  | .ok _ => pure ()
  | .error cause => throw (.cannotDelete target.path cause)

/-- The first half of creating a marker: nothing is left at the path. -/
def clear (target : Target) : Guarded Unit := do
  if ← call (.present target.path) then
    if target.config.fileLock then
      probeLock target
    removeOld target

/-- The second half of creating a marker: a new file is made and becomes the marker. -/
def make (target : Target) : Guarded Unit := do
  match ← ask (.createNew target.path) with
  | .ok _ => modify fun lifecycle => { lifecycle with associated := true }
  | .error cause => throw (.cannotCreate target.path cause)
  let handle ← call (.openFile target.path)
  closingOnFailure handle do
    let locked ← acquireLock target handle
    persist target handle .created
    publish .created
    adopt handle locked
    emit (.created target.path locked)

/-- Creating is clearing the path and then making the marker. -/
theorem create_eq (target : Target) :
    target.create =
      Guarded.script (do ensureNotOpen "create"; clear target; make target) := by
  unfold create clear removeOld
  congr 2
  funext _
  rw [bind_assoc]
  congr 1
  funext found
  cases found with
  | false => rfl
  | true =>
    simp only [if_true]
    split
    · simp only [bind_assoc]
      congr 1
      funext _
      congr 1
      funext answer
      cases answer <;> rfl
    · simp only [bind_assoc]
      congr 1
      funext answer
      cases answer <;> rfl

end Target

variable {failures : StorageError → Prop} {permitted : Option (List UInt8) → Prop}
  {target : Target} {handle : Handle} {file : FileObject} {found : Option FileObject}
  {lifecycle : Lifecycle} {world : World Memory}

/-! ## Creating and opening -/

/-- What setting a marker up comes to: the store holds the marker with the given record, or someone
else has the lock and nothing has changed, or a call has failed and the store is as it was, except
that it may have made a file. -/
inductive SetUp (failures : StorageError → Prop) (target : Target) (found : Option FileObject)
    (owner : Option Handle) (record : Record) (before : World Memory) :
    Except StoreError Unit → World Memory → Prop where
  | opened {after : World Memory} {handle : Handle} {bytes : List UInt8}
      (cached : after.cached = record)
      (lifecycle : after.lifecycle = ⟨.opened, some handle, target.config.fileLock, true⟩)
      (long : 2 ≤ bytes.length) (told : Record.loaded (some bytes) = record)
      (free : target.config.fileLock →
        found.bind (·.owner) = none ∨ ∃ cause, failures cause)
      (inHand : after.storage.InHand target.path handle
        ⟨bytes, if target.config.fileLock then some handle else owner⟩) :
      SetUp failures target found owner record before (.ok ()) after
  | locked {after : World Memory} {file : FileObject} (held : found = some file)
      (owned : file.owner.isSome) (locking : target.config.fileLock)
      (cached : after.cached = before.cached) (lifecycle : after.lifecycle = before.lifecycle)
      (atRest : after.storage.AtRest target.path (some file)) :
      SetUp failures target found owner record before (.error (.locked target.path)) after
  | failed {after : World Memory} {error : StoreError} {cause : StorageError}
      {now : Option FileObject} (failing : failures cause) (cached : after.cached = before.cached)
      (lifecycle : after.lifecycle =
        { before.lifecycle with associated := after.lifecycle.associated })
      (atRest : after.storage.AtRest target.path now) :
      SetUp failures target found owner record before (.error error) after

theorem upholds_publish {σ : Type} [Storage σ] {conduct : Conduct σ} {always : σ → Prop}
    {world : World σ} {record : Record}
    {ends : Except StoreError Unit → Lifecycle → World σ → Prop}
    (holds : ends (.ok ()) lifecycle { world with cached := record }) :
    (Target.publish record).Upholds conduct always lifecycle world ends := by
  unfold Target.publish
  apply Guarded.upholds_bind
  apply Guarded.upholds_lift
  apply Script.upholds_store
  exact Guarded.upholds_lift (Script.upholds_store holds)

namespace Memory

/-- The lock comes first of what is done with a marker that has been opened, and where it cannot be
taken the file is left as it was. -/
theorem InHand.upholds_locking {next : Bool → Guarded Unit}
    {ends : Except StoreError Unit → Lifecycle → World Memory → Prop}
    (free : file.owner ≠ some handle) (inHand : world.storage.InHand target.path handle file)
    (locked : ∀ after : World Memory, after.cached = world.cached → file.owner.isSome →
      target.config.fileLock → after.storage.AtRest target.path (some file) →
      ends (.error (.locked target.path)) lifecycle after)
    (failed : ∀ (after : World Memory) cause error, failures cause →
      after.cached = world.cached → after.storage.AtRest target.path (some file) →
      ends (.error error) lifecycle after)
    (taken : ∀ after : World Memory, after.cached = world.cached →
      (target.config.fileLock → file.owner = none) →
      after.storage.InHand target.path handle
        { file with owner := if target.config.fileLock then some handle else file.owner } →
      (next target.config.fileLock).Upholds (Unreliable failures) (Shows target.path permitted)
        lifecycle after fun outcome left last =>
          match outcome with
          | .ok _ => ends outcome left last
          | .error _ => ends outcome left
            { last with storage := Storage.close handle last.storage }) :
    (Guarded.closingOnFailure handle (target.acquireLock handle >>= next)).Upholds
      (Unreliable failures) (Shows target.path permitted) lifecycle world ends := by
  apply Guarded.upholds_closingOnFailure (fun _ shows => shows.close handle)
  apply Guarded.upholds_bind
  apply (inHand.upholds_acquireLock target free).mono
  rintro outcome left after _ ⟨rfl, cached, ⟨rfl, nobody, here⟩ | ⟨held, there, same, refused⟩⟩
  · apply (taken after cached nobody here).mono
    intro outcome left last _ reached
    cases outcome with
    | ok value => exact reached
    | error error => exact reached
  · rcases refused with ⟨rfl, locking, owned⟩ | ⟨cause, error, failing, rfl⟩
    · exact locked _ cached owned locking (there.atRest_close same)
    · exact failed _ cause error failing cached (there.atRest_close same)

/-- Opening publishes the record that the file stands for, and the file stands for it throughout. -/
theorem AtRest.upholds_openMarker (notOpen : world.lifecycle.state ≠ .opened)
    (atRest : world.storage.AtRest target.path found) :
    target.openMarker.Upholds (Unreliable failures)
      (Shows target.path fun contents =>
        Record.loaded contents = Record.loaded (found.map (·.bytes))) world
      (SetUp failures target found (found.bind (·.owner)) (Record.loaded (found.map (·.bytes)))
        world) := by
  unfold Target.openMarker
  apply Guarded.upholds_script
  refine Guarded.upholds_bind (Guarded.upholds_ensureNotOpen (absurd · notOpen) fun _ => ?_)
  apply Guarded.upholds_bind
  refine (atRest.upholds_ensurePresent target).mono ?_
  rintro outcome left middle shows ⟨lifecycle, cached, now, there, standing, told⟩
  rcases told with ⟨rfl, present⟩ | ⟨cause, error, failing, rfl⟩
  · apply Guarded.upholds_bind
    apply Guarded.upholds_call
    intro answer storage answered
    have showing := there.shows_iff.1 shows
    rcases there.openFile answered with ⟨file, handle, rfl, rfl, free, here⟩ |
      ⟨cause, rfl, reason, absent⟩
    · have owner : file.owner = found.bind (·.owner) := by
        rcases standing with ⟨rfl, -⟩ | ⟨rfl, same⟩
        · rfl
        · cases same
          rfl
      refine ⟨here.shows_iff.2 showing, here.upholds_locking free ?_ ?_ ?_⟩
      · intro after same owned locking unchanged
        rcases standing with ⟨rfl, rfl⟩ | ⟨-, empty⟩
        · exact .locked rfl owned locking (same.trans cached) rfl unchanged
        · cases empty
          cases owned
      · intro after cause error failing same unchanged
        exact .failed failing (same.trans cached) lifecycle unchanged
      · intro after same nobody taken
        apply Guarded.upholds_bind
        apply (taken.upholds_normalize target).mono
        rintro outcome left last shown ⟨rfl, kept, bytes, last, ⟨rfl, long⟩ | ⟨cause, error, failing,
          rfl⟩⟩
        · refine Guarded.upholds_bind (upholds_publish (Guarded.upholds_bind
            (Guarded.upholds_set (Guarded.upholds_emit ?_))))
          rw [owner] at last nobody
          exact .opened rfl rfl long (last.shows_iff.1 shown) (fun locking => Or.inl (nobody locking))
            last
        · exact .failed failing (kept.trans (same.trans cached)) lifecycle last.close
    · have blame : ∃ cause, failures cause := by
        rcases reason with failing | rfl
        · exact ⟨cause, failing⟩
        · exact present.resolve_left nofun
      obtain ⟨other, failing⟩ := blame
      exact ⟨absent.shows_iff.2 showing, .failed failing cached lifecycle absent⟩
  · exact .failed failing cached lifecycle there

/-- The old file is removed or the removal fails, and in between there is nothing that is not
permitted. -/
theorem AtRest.upholds_removeOld (gone : permitted none)
    (atRest : world.storage.AtRest target.path (some file)) :
    target.removeOld.Upholds (Unreliable failures) (Shows target.path permitted) lifecycle world
      fun outcome left after => left = lifecycle ∧ after.cached = world.cached ∧
        (outcome = .ok () ∧ after.storage.AtRest target.path none ∨
          Fails failures outcome ∧ ∃ now, after.storage.AtRest target.path now) := by
  unfold Target.removeOld
  apply Guarded.upholds_of_start
  intro shows
  apply Guarded.upholds_bind
  apply Guarded.upholds_ask
  intro answer storage answered
  rcases atRest.remove answered with ⟨rfl, left⟩ | ⟨-, impossible, -⟩ | ⟨cause, failing, rfl, either⟩
  · exact ⟨left.shows_iff.2 gone, Guarded.upholds_pure ⟨rfl, rfl, Or.inl ⟨rfl, left⟩⟩⟩
  · cases impossible
  · rcases either with left | left
    · refine ⟨left.shows_iff.2 (atRest.shows_iff.1 shows), Guarded.upholds_throw ?_⟩
      exact ⟨rfl, rfl, Or.inr ⟨Fails.intro failing _, _, left⟩⟩
    · refine ⟨left.shows_iff.2 gone, Guarded.upholds_throw ?_⟩
      exact ⟨rfl, rfl, Or.inr ⟨Fails.intro failing _, _, left⟩⟩

/-- The path is cleared unless someone has the lock that the store is to respect, or a call fails. -/
theorem AtRest.upholds_clear (gone : permitted none)
    (atRest : world.storage.AtRest target.path found) :
    target.clear.Upholds (Unreliable failures) (Shows target.path permitted) lifecycle world
      fun outcome left after => left = lifecycle ∧ after.cached = world.cached ∧
        ((outcome = .ok () ∧ after.storage.AtRest target.path none ∧
            (target.config.fileLock →
              found.bind (·.owner) = none ∨ ∃ cause, failures cause)) ∨
          (outcome = .error (.locked target.path) ∧ target.config.fileLock ∧ ∃ file,
            found = some file ∧ file.owner.isSome ∧
              after.storage.AtRest target.path (some file)) ∨
          Fails failures outcome ∧ ∃ now, after.storage.AtRest target.path now) := by
  unfold Target.clear
  apply Guarded.upholds_of_start
  intro shows
  apply Guarded.upholds_bind
  apply Guarded.upholds_call
  intro answer storage answered
  have showing := atRest.shows_iff.1 shows
  obtain ⟨there, rfl | ⟨cause, failing, rfl⟩⟩ := atRest.present answered
  · refine ⟨there.shows_iff.2 showing, ?_⟩
    cases found with
    | none =>
      exact Guarded.upholds_pure ⟨rfl, rfl, Or.inl ⟨rfl, there, fun _ => Or.inl rfl⟩⟩
    | some file =>
      cases locking : target.config.fileLock with
      | false =>
        apply (there.upholds_removeOld gone).mono
        rintro outcome left after _ ⟨rfl, cached, ⟨rfl, empty⟩ | fails⟩
        · exact ⟨rfl, cached, Or.inl ⟨rfl, empty, nofun⟩⟩
        · exact ⟨rfl, cached, Or.inr (Or.inr fails)⟩
      | true =>
        apply Guarded.upholds_bind
        apply (there.upholds_probeLock target).mono
        rintro outcome left middle _ ⟨rfl, probed, here, ⟨rfl, free⟩ | ⟨rfl, owned⟩⟩
        · apply (here.upholds_removeOld gone).mono
          rintro outcome left after _ ⟨rfl, cached, ⟨rfl, empty⟩ | fails⟩
          · exact ⟨rfl, cached.trans probed, Or.inl ⟨rfl, empty, fun _ => free⟩⟩
          · exact ⟨rfl, cached.trans probed, Or.inr (Or.inr fails)⟩
        · exact ⟨rfl, probed, Or.inr (Or.inl ⟨rfl, rfl, file, rfl, owned, here⟩)⟩
  · refine ⟨there.shows_iff.2 showing, rfl, rfl, Or.inr (Or.inr ?_)⟩
    exact ⟨Fails.intro failing _, _, there⟩

/-- A new marker holds exactly the record of a new marker, and on its way there the path shows nothing
but a beginning of it. -/
theorem AtRest.upholds_make
    (begun : ∀ laid, permitted (some (Record.created.encode.take laid)))
    (atRest : world.storage.AtRest target.path none) :
    target.make.Upholds (Unreliable failures) (Shows target.path permitted) lifecycle world
      fun outcome left after =>
        SetUp failures target none none .created { world with lifecycle }
          outcome { after with lifecycle := left } ∧
        (outcome = .ok () → after.storage.contents target.path = some Record.created.encode) := by
  unfold Target.make
  apply Guarded.upholds_of_start
  intro shows
  have empty : permitted (some []) := begun 0
  apply Guarded.upholds_bind
  apply Guarded.upholds_ask
  intro answer storage answered
  rcases atRest.createNew answered with ⟨rfl, -, fresh⟩ | ⟨-, impossible, -⟩ | ⟨cause, failing, rfl,
    either⟩
  · refine ⟨fresh.shows_iff.2 empty, Guarded.upholds_bind (Guarded.upholds_modify ?_)⟩
    apply Guarded.upholds_bind
    apply Guarded.upholds_call
    intro answer opened answered
    rcases fresh.openFile answered with ⟨file, handle, rfl, same, free, here⟩ |
      ⟨cause, rfl, reason, left⟩
    · cases same
      refine ⟨here.shows_iff.2 empty, here.upholds_locking free ?_ ?_ ?_⟩
      · intro after cached impossible
        cases impossible
      · intro after cause error failing cached left
        exact ⟨.failed failing cached rfl left, nofun⟩
      · intro after cached nobody taken
        apply Guarded.upholds_bind
        have prefixes : ∀ laid, permitted (some (overlay [] 0 (Record.created.encode.take laid))) := by
          intro laid
          rw [overlay_zero, List.drop_nil, List.append_nil]
          exact begun laid
        apply (taken.upholds_persist target prefixes).mono
        rintro outcome left last _ ⟨rfl, kept, ⟨rfl, last⟩ | ⟨⟨cause, error, failing, rfl⟩, _, last⟩⟩
        · refine Guarded.upholds_bind (upholds_publish (Guarded.upholds_bind
            (Guarded.upholds_set (Guarded.upholds_emit ?_))))
          refine ⟨.opened rfl rfl ?_ ?_ (fun _ => Or.inl rfl) last, fun _ => last.atRest.contents⟩
          · exact Record.two_le_length_overlay _ _
          · rfl
        · exact ⟨.failed failing (kept.trans cached) rfl last.close, nofun⟩
    · have failing : failures cause := reason.resolve_right nofun
      exact ⟨left.shows_iff.2 empty, .failed failing rfl rfl left, nofun⟩
  · cases impossible
  · rcases either with left | ⟨-, left⟩
    · refine ⟨left.shows_iff.2 (atRest.shows_iff.1 shows), Guarded.upholds_throw ?_⟩
      exact ⟨.failed failing rfl rfl left, nofun⟩
    · refine ⟨left.shows_iff.2 empty, Guarded.upholds_throw ?_⟩
      exact ⟨.failed failing rfl rfl left, nofun⟩

/-- Creating replaces the file by one that holds exactly the record of a new marker.  On the way there
the path shows the file as it was, or nothing, or a beginning of the new record. -/
theorem AtRest.upholds_create (gone : permitted none)
    (begun : ∀ laid, permitted (some (Record.created.encode.take laid)))
    (notOpen : world.lifecycle.state ≠ .opened)
    (atRest : world.storage.AtRest target.path found) :
    target.create.Upholds (Unreliable failures) (Shows target.path permitted) world
      fun outcome after => SetUp failures target found none .created world outcome after ∧
        (outcome = .ok () → after.storage.contents target.path = some Record.created.encode) := by
  rw [Target.create_eq]
  apply Guarded.upholds_script
  refine Guarded.upholds_bind (Guarded.upholds_ensureNotOpen (absurd · notOpen) fun _ => ?_)
  apply Guarded.upholds_bind
  refine (atRest.upholds_clear gone).mono ?_
  rintro outcome left middle _ ⟨rfl, cached, ⟨rfl, cleared, free⟩ | ⟨rfl, locking, file, rfl, owned, here⟩ |
    ⟨⟨cause, error, failing, rfl⟩, now, here⟩⟩
  · apply (cleared.upholds_make begun).mono
    rintro outcome left after _ ⟨setUp, written⟩
    refine ⟨?_, written⟩
    cases setUp with
    | opened published lifecycle long told _ inHand =>
      exact .opened published lifecycle long told free inHand
    | locked held => cases held
    | failed failing kept lifecycle left => exact .failed failing (kept.trans cached) lifecycle left
  · exact ⟨.locked rfl owned locking cached rfl here, nofun⟩
  · exact ⟨.failed failing cached rfl here, nofun⟩

/-! ## Letting go -/

/-- Closing leaves the file of the marker as it is, without the lock, however it ends. -/
theorem InHand.upholds_closeMarker (holds : world.lifecycle.handle = some handle)
    (inHand : world.storage.InHand target.path handle file) :
    target.closeMarker.Upholds (Unreliable failures) (Shows target.path permitted) world
      fun outcome after => after.cached = world.cached ∧
        after.lifecycle = ⟨.closed, none, false, world.lifecycle.associated⟩ ∧
        after.storage.AtRest target.path (some (Memory.released handle file)) ∧
        (outcome = .ok () ∨ Fails failures outcome) := by
  unfold Target.closeMarker
  apply Guarded.upholds_script
  apply Guarded.upholds_bind
  apply Guarded.upholds_get
  simp only [holds]
  apply Guarded.upholds_bind
  apply Guarded.upholds_set
  apply Guarded.upholds_bind
  apply (inHand.upholds_letGo world.lifecycle.locked).mono
  rintro outcome left after _ ⟨rfl, cached, atRest, rfl | ⟨cause, error, failing, rfl⟩⟩
  · exact Guarded.upholds_emit ⟨cached, rfl, atRest, Or.inl rfl⟩
  · exact ⟨cached, rfl, atRest, Or.inr (Fails.intro failing _)⟩

/-- Once nothing is open any more, deleting removes the file. -/
theorem AtRest.upholds_discard (atRest : world.storage.AtRest target.path found) :
    (do modify fun lifecycle => { lifecycle with state := .deleted }
        Guarded.require target.removeUntilGone
        Guarded.emit (.deleted target.path) : Guarded Unit).Upholds (Unreliable failures)
      (Shows target.path fun _ => True) lifecycle world fun outcome left after =>
        left = { lifecycle with state := .deleted } ∧ after.cached = world.cached ∧
        (outcome = .ok () ∧ after.storage.AtRest target.path none ∨
          (∃ cause, failures cause) ∧ ∃ now, after.storage.AtRest target.path now) := by
  apply Guarded.upholds_bind
  apply Guarded.upholds_modify
  apply Guarded.upholds_bind
  apply Guarded.upholds_require
  apply (atRest.upholds_removeUntilGone target).mono
  rintro outcome after _ ⟨cached, ⟨rfl, gone⟩ | failed⟩
  · exact Guarded.upholds_emit ⟨rfl, cached, Or.inl ⟨rfl, gone⟩⟩
  · cases outcome with
    | ok done => exact Guarded.upholds_emit ⟨rfl, cached, Or.inr failed⟩
    | error error => exact ⟨rfl, cached, Or.inr failed⟩

/-- Deleting a marker that is not open removes its file. -/
theorem AtRest.upholds_delete
    (concerned : world.lifecycle.state ≠ .unopened ∨ world.lifecycle.associated)
    (letGo : world.lifecycle.handle = none) (atRest : world.storage.AtRest target.path found) :
    target.delete.Upholds (Unreliable failures) (Shows target.path fun _ => True) world fun outcome after =>
      after.cached = world.cached ∧
      after.lifecycle = { world.lifecycle with state := .deleted } ∧
      (outcome = .ok () ∧ after.storage.AtRest target.path none ∨
        (∃ cause, failures cause) ∧ ∃ now, after.storage.AtRest target.path now) := by
  unfold Target.delete
  apply Guarded.upholds_script
  apply Guarded.upholds_bind
  apply Guarded.upholds_get
  have goesOn : (decide (world.lifecycle.state = .unopened) && !world.lifecycle.associated) =
      false := by
    rcases concerned with state | associated
    · simp [state]
    · simp [associated]
  simp only [goesOn, letGo]
  apply (atRest.upholds_discard).mono
  rintro outcome left after _ ⟨rfl, cached, told⟩
  exact ⟨cached, by rw [letGo], told⟩

/-- Deleting an open marker lets go of it first. -/
theorem InHand.upholds_delete (opened : world.lifecycle.state = .opened)
    (holds : world.lifecycle.handle = some handle)
    (inHand : world.storage.InHand target.path handle file) :
    target.delete.Upholds (Unreliable failures) (Shows target.path fun _ => True) world fun outcome after =>
      after.cached = world.cached ∧
      (outcome = .ok () ∧ after.storage.AtRest target.path none ∧
        after.lifecycle = ⟨.deleted, none, false, world.lifecycle.associated⟩ ∨
        (∃ cause, failures cause) ∧ ∃ now, after.storage.AtRest target.path now) := by
  unfold Target.delete
  apply Guarded.upholds_script
  apply Guarded.upholds_bind
  apply Guarded.upholds_get
  simp only [opened, holds]
  apply Guarded.upholds_bind
  apply Guarded.upholds_set
  apply Guarded.upholds_bind
  apply (inHand.upholds_letGo world.lifecycle.locked).mono
  rintro outcome left middle _ ⟨rfl, cached, atRest, rfl | ⟨cause, error, failing, rfl⟩⟩
  · apply (atRest.upholds_discard).mono
    rintro outcome left after _ ⟨rfl, kept, ⟨rfl, gone⟩ | failed⟩
    · exact ⟨kept.trans cached, Or.inl ⟨rfl, gone, rfl⟩⟩
    · exact ⟨kept.trans cached, Or.inr failed⟩
  · exact ⟨cached, Or.inr ⟨⟨cause, failing⟩, _, atRest⟩⟩

/-! ## Changing a flag -/

/-- A transition writes the cached record with its flag changed, and only then changes the flag.  When
it fails a part of that record may have been written. -/
theorem InHand.upholds_transition {flag : Flag} {value : Bool}
    (changes : world.cached.get flag ≠ value) (holds : world.lifecycle.handle = some handle)
    (inHand : world.storage.InHand target.path handle file) :
    (target.transition flag value).Upholds (Unreliable failures) (Shows target.path fun _ => True)
      world fun outcome after => after.lifecycle = world.lifecycle ∧
        ((outcome = .ok () ∧ after.cached = world.cached.set flag value ∧
          after.storage.InHand target.path handle { file with
            bytes := overlay file.bytes 0 (world.cached.set flag value).encode }) ∨
        Fails failures outcome ∧ after.cached = world.cached ∧ ∃ bytes,
          after.storage.InHand target.path handle { file with bytes }) := by
  unfold Target.transition
  apply Script.upholds_bind
  apply Script.upholds_load
  rw [if_neg changes]
  apply Guarded.upholds_script
  apply Guarded.upholds_bind
  apply Guarded.upholds_lift
  apply Script.upholds_load
  simp only [if_neg changes]
  apply Guarded.upholds_bind
  apply Guarded.upholds_get
  simp only [holds]
  apply Guarded.upholds_bind
  apply Guarded.upholds_lift
  apply Script.upholds_load
  apply Guarded.upholds_bind
  apply Guarded.upholds_lift
  apply Script.upholds_load
  apply Guarded.upholds_bind
  apply (inHand.upholds_persist target fun _ => trivial).mono
  rintro outcome left after _ ⟨rfl, cached, ⟨rfl, there⟩ | ⟨⟨cause, error, failing, rfl⟩, _,
    there⟩⟩
  · apply Guarded.upholds_bind
    apply Guarded.upholds_lift
    apply Script.upholds_store
    refine Guarded.upholds_emit ⟨rfl, Or.inl ⟨rfl, ?_, there⟩⟩
    rw [cached]
  · exact ⟨rfl, Or.inr ⟨Fails.intro failing _, cached, _, there⟩⟩

/-- Whatever file an open store has in hand, while it changes a flag its path shows nothing but what
is permitted, if the record with that flag changed may be written. -/
theorem upholds_transition_anywhere {path : Path} {flag : Flag} {value : Bool}
    (safe : SafeToWrite permitted (world.cached.set flag value).encode) :
    (target.transition flag value).Upholds (Unreliable failures) (Shows path permitted) world
      fun _ _ => True := by
  unfold Target.transition
  apply Script.upholds_bind
  apply Script.upholds_load
  split
  · exact Script.upholds_done trivial
  · apply Guarded.upholds_script
    apply Guarded.upholds_bind
    apply Guarded.upholds_lift
    apply Script.upholds_load
    simp only
    split
    · exact Guarded.upholds_pure trivial
    · apply Guarded.upholds_bind
      apply Guarded.upholds_get
      simp only
      split
      · exact Guarded.upholds_throw trivial
      · apply Guarded.upholds_bind
        apply Guarded.upholds_lift
        apply Script.upholds_load
        apply Guarded.upholds_bind
        apply Guarded.upholds_lift
        apply Script.upholds_load
        apply Guarded.upholds_bind
        apply (upholds_persist target safe).mono
        rintro outcome left after _ -
        cases outcome with
        | error error => trivial
        | ok done =>
          apply Guarded.upholds_bind
          apply Guarded.upholds_lift
          apply Script.upholds_store
          exact Guarded.upholds_emit trivial

end Memory

/-! ## Operations that leave everything as it is -/

section Refused

variable {σ : Type} [Storage σ] {conduct : Conduct σ} {always : σ → Prop} {world : World σ}

/-- A store that is open refuses to create, before it has done anything. -/
theorem upholds_create_refused (opened : world.lifecycle.state = .opened) :
    target.create.Upholds conduct always world fun outcome after =>
      outcome = .error (.alreadyOpen "create") ∧ after = world := by
  rw [Target.create_eq]
  apply Guarded.upholds_script
  apply Guarded.upholds_bind
  exact Guarded.upholds_ensureNotOpen (fun _ => ⟨rfl, rfl⟩) (absurd opened ·)

theorem upholds_openMarker_refused (opened : world.lifecycle.state = .opened) :
    target.openMarker.Upholds conduct always world fun outcome after =>
      outcome = .error (.alreadyOpen "open") ∧ after = world := by
  unfold Target.openMarker
  apply Guarded.upholds_script
  apply Guarded.upholds_bind
  exact Guarded.upholds_ensureNotOpen (fun _ => ⟨rfl, rfl⟩) (absurd opened ·)

/-- Closing a store with nothing in hand does nothing. -/
theorem upholds_closeMarker_idle (letGo : world.lifecycle.handle = none) :
    target.closeMarker.Upholds conduct always world fun outcome after =>
      outcome = .ok () ∧ after = world := by
  unfold Target.closeMarker
  apply Guarded.upholds_script
  apply Guarded.upholds_bind
  apply Guarded.upholds_get
  simp only [letGo]
  exact Guarded.upholds_pure ⟨rfl, rfl⟩

/-- Deleting does nothing for a store that never had to do with a file. -/
theorem upholds_delete_idle (unopened : world.lifecycle.state = .unopened)
    (unconcerned : world.lifecycle.associated = false) :
    target.delete.Upholds conduct always world fun outcome after =>
      outcome = .ok () ∧ after = world := by
  unfold Target.delete
  apply Guarded.upholds_script
  apply Guarded.upholds_bind
  apply Guarded.upholds_get
  simp only [unopened, unconcerned]
  exact Guarded.upholds_pure ⟨rfl, rfl⟩

/-- A transition to the value that is cached does not even look at the state of the store. -/
theorem upholds_transition_idle {flag : Flag} {value : Bool}
    (same : world.cached.get flag = value) :
    (target.transition flag value).Upholds conduct always world fun outcome after =>
      outcome = .ok () ∧ after = world := by
  unfold Target.transition
  apply Script.upholds_bind
  apply Script.upholds_load
  rw [if_pos same]
  exact Script.upholds_done ⟨rfl, rfl⟩

/-- A store with nothing in hand refuses to change a flag. -/
theorem upholds_transition_refused {flag : Flag} {value : Bool}
    (changes : world.cached.get flag ≠ value) (letGo : world.lifecycle.handle = none) :
    (target.transition flag value).Upholds conduct always world fun outcome after =>
      outcome = .error .closed ∧ after = world := by
  unfold Target.transition
  apply Script.upholds_bind
  apply Script.upholds_load
  rw [if_neg changes]
  apply Guarded.upholds_script
  apply Guarded.upholds_bind
  apply Guarded.upholds_lift
  apply Script.upholds_load
  simp only [if_neg changes]
  apply Guarded.upholds_bind
  apply Guarded.upholds_get
  simp only [letGo]
  exact Guarded.upholds_throw ⟨rfl, rfl⟩

end Refused

end CrashMarker
