/-
Module: CrashMarker.Proofs.Durability
Purpose: Flags are cached only after the marker has been given them, or has been read.
Main exports: Episode.Accountable, Operation.accountable, Career.saved_before_published
-/
import CrashMarker.Proofs.Careers
import CrashMarker.Proofs.Traces.Operations
import CrashMarker.Proofs.Memory.Unreliable

namespace CrashMarker

section Evidence

variable {config : Config} {handle : Handle} {record : Record} {taken : List Taken}

/-- Since no bytes move after flags have been published, all that was ever written is what was saved
before. -/
theorem Publishes.saved (publishes : Publishes (Saved config handle record) taken) :
    Saved config handle record taken := by
  obtain ⟨early, late, rfl, -, saved, unwritten, -⟩ := publishes
  exact saved.followed unwritten.accepted

/-- The evidence of having read the flags is still there at the end. -/
theorem Publishes.readBack (publishes : Publishes (ReadBack handle record) taken) :
    ReadBack handle record taken := by
  obtain ⟨early, late, rfl, -, readBack, unwritten, unread⟩ := publishes
  refine ⟨(unwritten_append _ _).2 ⟨readBack.unwritten, unwritten⟩, ?_, ?_⟩
  · obtain ⟨size, room, told⟩ := readBack.sized
    exact ⟨size, room, List.mem_append_left _ told⟩
  · obtain ⟨bytes, two, stands, same⟩ := readBack.read
    exact ⟨bytes, two, stands, by rw [received_append, same, unread, List.append_nil]⟩

end Evidence

/-- What an operation has to show for the flags that it leaves cached. -/
structure Episode.Accountable (config : Config) (episode : Episode) : Prop where
  /-- An operation that fails leaves the cached flags alone. -/
  failed : ∀ error, episode.outcome = .error error → episode.next.cached = episode.before.cached
  /-- Where the cached flags change, the operation has succeeded with a handle in hand.  That handle
  has accepted the bytes of the new flags, each at its place and nothing else, and they have been synced
  since if they were to be; or the marker was opened, and the flags were read from it and nothing was
  written.  All this came before the flags changed. -/
  changed : episode.next.cached ≠ episode.before.cached →
    episode.outcome = .ok () ∧ ∃ handle, episode.next.lifecycle.handle = some handle ∧
      (Saved config handle episode.next.cached episode.taken ∧
          Publishes (Saved config handle episode.next.cached) episode.taken ∨
        episode.operation = .openMarker ∧ ReadBack handle episode.next.cached episode.taken ∧
          Publishes (ReadBack handle episode.next.cached) episode.taken)
  unsynced : config.syncOnWrite = false → Unsynced episode.taken

variable {σ : Type} {conduct : Conduct σ} {target : Target}

/-- Flags that were published when a marker was set up were saved, or shown otherwise. -/
theorem Attempts.accountable {name : String} {evidence : Handle → Record → List Taken → Prop}
    {operation : Operation} {store : Store} {storage : σ} {taken : List Taken}
    {outcome : Except StoreError Unit} {world : World σ}
    (attempts : Attempts target name evidence (store.world storage) taken outcome world)
    (shown : ∀ handle, Publishes (evidence handle world.cached) taken →
      Publishes (Saved target.config handle world.cached) taken ∨
        operation = .openMarker ∧ Publishes (ReadBack handle world.cached) taken) :
    Episode.Accountable target.config ⟨operation, store, taken, outcome, store.after world⟩ := by
  unfold Attempts at attempts
  split at attempts
  · obtain ⟨rfl, rfl, passive⟩ := attempts
    exact ⟨fun _ _ => rfl, (absurd rfl ·), fun _ => passive.plain.unsynced⟩
  · generalize left : world.lifecycle = lifecycle at attempts
    cases attempts with
    | failed _ _ cached _ unsynced => exact ⟨fun _ _ => cached, (absurd cached ·), unsynced⟩
    | opened _ publishes unsynced =>
      refine ⟨nofun, fun _ => ⟨rfl, _, congrArg Lifecycle.handle left, ?_⟩, unsynced⟩
      rcases shown _ publishes with saved | ⟨isOpen, readBack⟩
      · exact Or.inl ⟨saved.saved, saved⟩
      · exact Or.inr ⟨isOpen, readBack.readBack, readBack⟩

/-- A transition publishes only what it has saved. -/
theorem Transits.accountable {flag : Flag} {value : Bool} {store : Store} {storage : σ}
    {taken : List Taken} {outcome : Except StoreError Unit} {world : World σ}
    (transits : Transits target flag value (store.world storage) taken outcome world)
    (kept : world.lifecycle = store.lifecycle) :
    Episode.Accountable target.config
      ⟨.transition flag value, store, taken, outcome, store.after world⟩ := by
  cases transits with
  | idle _ cached passive => exact ⟨nofun, (absurd cached ·), fun _ => passive.plain.unsynced⟩
  | refused _ _ cached passive =>
    exact ⟨fun _ _ => cached, (absurd cached ·), fun _ => passive.plain.unsynced⟩
  | changed _ holds _ publishes unsynced =>
    refine ⟨nofun, fun _ => ⟨rfl, _, ?_, Or.inl ⟨publishes.saved, publishes⟩⟩, unsynced⟩
    exact (congrArg Lifecycle.handle kept).trans holds
  | failed _ _ _ steady =>
    exact ⟨fun _ _ => steady.cached, (absurd steady.cached ·), steady.unsynced⟩

variable [Storage σ]

/-- Every operation accounts for the flags that it leaves cached, whatever its calls come to. -/
theorem Operation.accountable (measured : conduct.Measured) {operation : Operation} {store : Store}
    {storage : σ} {taken : List Taken} {outcome : Except StoreError Unit} {world : World σ}
    (ended : (operation.script target).Ends conduct (store.world storage) taken outcome world) :
    Episode.Accountable target.config ⟨operation, store, taken, outcome, store.after world⟩ := by
  have unchanged : Plain taken → world.cached = store.cached → Episode.Accountable target.config
      ⟨operation, store, taken, outcome, store.after world⟩ := fun plain cached =>
    ⟨fun _ _ => cached, (absurd cached ·), fun _ => plain.unsynced⟩
  cases operation with
  | create => exact ((tells_create target).of_ends ended).accountable fun _ => Or.inl
  | openMarker =>
    refine ((tells_openMarker target).of_ends ended).accountable fun handle publishes => ?_
    obtain ⟨early, late, cut, unpublished, shown, unwritten, unread⟩ := publishes
    rcases shown measured with saved | readBack
    · exact Or.inl ⟨early, late, cut, unpublished, saved, unwritten, unread⟩
    · exact Or.inr ⟨rfl, early, late, cut, unpublished, readBack, unwritten, unread⟩
  | closeMarker =>
    obtain ⟨cached, plain, -⟩ := (tells_closeMarker target).of_ends ended
    exact unchanged plain cached
  | delete =>
    obtain ⟨cached, plain, -⟩ := (tells_delete target).of_ends ended
    exact unchanged plain cached
  | transition flag value =>
    obtain ⟨kept, transits⟩ := (tells_transition target flag value).of_ends ended
    exact transits.accountable kept

/-- In every run of operations, each accounts for the flags that it leaves cached: they change only
after the marker has been given them for good, or has been read. -/
theorem Career.saved_before_published (measured : conduct.Measured) {episodes : List Episode}
    {store : Store} (career : Career conduct target episodes store) :
    ∀ episode ∈ episodes, episode.Accountable target.config :=
  career.forall_mem fun _ _ _ _ _ _ _ ended => Operation.accountable measured ended

/-- Reads from a memory are measured. -/
theorem Memory.measured : (Conduct.honest Memory).Measured := by
  intro handle offset count before after bytes answered
  change before.readAt handle offset count = (.ok bytes, after) at answered
  unfold Memory.readAt Memory.withObject at answered
  split at answered
  · cases answered
  split at answered
  · cases answered
  split at answered
  · cases answered
  · cases answered
    rw [List.length_take]
    exact Nat.le_trans (Nat.min_le_left _ _) (transferLength_le _ _)

/-- A new store opens a marker that says dirty, and is asked to mark it clean. -/
def cleaningLife : List Episode × Store × Memory :=
  ((Store.fresh { path := ⟨"marker"⟩ }).live 40 [.openMarker, .transition .dirty false]
    (Memory.holding ⟨"marker"⟩ (some [1, 0]))).get (by decide)

/-- Both operations change the cached flags: opening has read them, and the transition has saved
them. -/
theorem saved_before_published_cleaning :
    cleaningLife.1.map (fun episode => (episode.before.cached, episode.next.cached)) =
        [(.clean, .created), (.created, .clean)] ∧
      ∀ episode ∈ cleaningLife.1, episode.outcome = .ok () ∧ ∃ handle,
        (Saved .standard handle episode.next.cached episode.taken ∨
          ReadBack handle episode.next.cached episode.taken) := by
  have lived : (Store.fresh { path := ⟨"marker"⟩ }).live 40 [.openMarker, .transition .dirty false]
      (Memory.holding ⟨"marker"⟩ (some [1, 0])) = some cleaningLife := (Option.some_get _).symm
  have changing : ∀ episode ∈ cleaningLife.1, episode.next.cached ≠ episode.before.cached := by
    decide
  refine ⟨by decide, fun episode member => ?_⟩
  have accountable := (career_of_live lived).saved_before_published Memory.measured episode member
  obtain ⟨succeeded, handle, -, evidence⟩ := accountable.changed (changing episode member)
  exact ⟨succeeded, handle, evidence.imp And.left fun shown => shown.2.1⟩

end CrashMarker
