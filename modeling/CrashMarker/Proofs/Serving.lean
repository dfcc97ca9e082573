/-
Module: CrashMarker.Proofs.Serving
Purpose: What transfers and records come to on every storage that serves a handle.
Main exports:
  Fails, Serves, Laid, Serves.upholds_writeFull, Serves.upholds_readFull, Serves.upholds_persist,
  Serves.upholds_load, Serves.upholds_normalize
-/
import CrashMarker.Proofs.Overlay
import CrashMarker.Proofs.Upholds

namespace CrashMarker

/-!
Reading and writing a record goes through one handle, and all that matters of the storage is how it
answers calls on that handle.  A storage serves a handle if it moves some bytes at a time, to and from
where they belong, unless a call fails.  What is said of transfers and records here holds of every
storage that does, be it a whole memory or what one store sees of it.
-/

/-- An outcome is an error, and there was a failure to cause it. -/
def Fails {α : Type} (failures : StorageError → Prop) (outcome : Except StoreError α) : Prop :=
  ∃ cause error, failures cause ∧ outcome = .error error

theorem Fails.intro {α : Type} {failures : StorageError → Prop} {cause : StorageError}
    (failing : failures cause) (error : StoreError) :
    Fails failures (.error error : Except StoreError α) :=
  ⟨cause, error, failing, rfl⟩

variable {σ : Type}

/-- How a storage that has some bytes behind a handle answers calls on it.  A write is promised to be
answered well only if it leads to permitted bytes, however many of its bytes it moves. -/
structure Serves (conduct : Conduct σ) (always : σ → Prop) (handle : Handle)
    (failures : StorageError → Prop) (holds : List UInt8 → σ → Prop)
    (permitted : List UInt8 → Prop) : Prop where
  shows : ∀ {bytes storage}, holds bytes storage → permitted bytes → always storage
  size : ∀ {bytes before answer after}, holds bytes before →
    conduct (.size handle) before answer after →
    holds bytes after ∧
      (answer = .ok bytes.length ∨ ∃ cause, failures cause ∧ answer = .error cause)
  sync : ∀ {bytes before answer after}, holds bytes before →
    conduct (.sync handle) before answer after →
    holds bytes after ∧ (answer = .ok () ∨ ∃ cause, failures cause ∧ answer = .error cause)
  readAt : ∀ {bytes offset count before answer after}, 0 < count → holds bytes before →
    conduct (.readAt handle offset count) before answer after →
    holds bytes after ∧
      ((∃ moved, 0 < moved ∧ moved ≤ count ∧ answer = .ok ((bytes.drop offset).take moved)) ∨
        ∃ cause, (failures cause ∨ cause.isInterrupted) ∧ answer = .error cause)
  writeAt : ∀ {bytes offset chunk before answer after}, 0 < chunk.length → holds bytes before →
    permitted bytes →
    (∀ moved, moved ≤ chunk.length → permitted (overlay bytes offset (chunk.take moved))) →
    conduct (.writeAt handle offset chunk) before answer after →
    (∃ moved, 0 < moved ∧ moved ≤ chunk.length ∧ answer = .ok moved ∧
      holds (overlay bytes offset (chunk.take moved)) after) ∨
      ∃ cause, (failures cause ∨ cause.isInterrupted) ∧ answer = .error cause ∧
        (holds bytes after ∨ ∃ moved, moved ≤ chunk.length ∧
          holds (overlay bytes offset (chunk.take moved)) after)

/-- The start of a buffer lies over some bytes, as far as is known and perhaps further: a write that
fails unseen has laid more than the operation knows of. -/
def Laid (holds : List UInt8 → σ → Prop) (bytes chunk : List UInt8) (written : Nat) (storage : σ) :
    Prop :=
  ∃ laid, written ≤ laid ∧ laid ≤ chunk.length ∧ holds (overlay bytes 0 (chunk.take laid)) storage

variable {conduct : Conduct σ} {always : σ → Prop} {handle : Handle}
  {failures : StorageError → Prop} {holds : List UInt8 → σ → Prop} {permitted : List UInt8 → Prop}
  {bytes chunk : List UInt8} {storage : σ}

/-! ## Writing -/

/-- Nothing has been laid at first. -/
theorem laid_zero (held : holds bytes storage) (chunk : List UInt8) :
    Laid holds bytes chunk 0 storage := by
  refine ⟨0, Nat.le_refl _, Nat.zero_le _, ?_⟩
  simpa only [List.take_zero, overlay_zero, List.nil_append, List.length_nil, List.drop_zero] using held

/-- Having laid the whole counts as having laid any beginning of it. -/
theorem laid_of_whole (held : holds (overlay bytes 0 chunk) storage) :
    Laid holds bytes chunk 0 storage := by
  refine ⟨chunk.length, Nat.zero_le _, Nat.le_refl _, ?_⟩
  simpa only [List.take_length] using held

/-- Once the whole chunk is laid, the file is known. -/
theorem Laid.whole (laid : Laid holds bytes chunk chunk.length storage) :
    holds (overlay bytes 0 chunk) storage := by
  obtain ⟨count, whole, within, held⟩ := laid
  simpa only [List.take_of_length_le whole] using held

/-- One write carries on from what has been laid, unless it fails, and either way what has been laid is
permitted. -/
theorem Serves.writeAt_laid {written : Nat}
    (serves : Serves conduct always handle failures holds permitted)
    (prefixes : ∀ laid, permitted (overlay bytes 0 (chunk.take laid)))
    (short : written < chunk.length) (laid : Laid holds bytes chunk written storage) {after : σ}
    {answer : (Request.writeAt handle (0 + written) (chunk.drop written)).Answer}
    (answered : conduct (.writeAt handle (0 + written) (chunk.drop written)) storage answer after) :
    always after ∧
      ((∃ moved, 0 < moved ∧ written + moved ≤ chunk.length ∧ answer = .ok moved ∧
        Laid holds bytes chunk (written + moved) after) ∨
      ∃ cause, (failures cause ∨ cause.isInterrupted) ∧ answer = .error cause ∧
        Laid holds bytes chunk written after) := by
  obtain ⟨count, behind, within, held⟩ := laid
  have rest : (chunk.drop written).length = chunk.length - written := List.length_drop
  have onward : ∀ moved, moved ≤ (chunk.drop written).length →
      overlay (overlay bytes 0 (chunk.take count)) (0 + written) ((chunk.drop written).take moved) =
        overlay bytes 0 (chunk.take (max count (written + moved))) := by
    intro moved bound
    rw [Nat.zero_add, overlay_onward bytes behind within (by omega)]
  have safe : ∀ moved, moved ≤ (chunk.drop written).length → permitted
      (overlay (overlay bytes 0 (chunk.take count)) (0 + written)
        ((chunk.drop written).take moved)) := by
    intro moved bound
    rw [onward moved bound]
    exact prefixes _
  rcases serves.writeAt (by omega) held (prefixes _) safe answered with
    ⟨moved, positive, bound, rfl, there⟩ | ⟨cause, reason, rfl, either⟩
  · constructor
    · exact serves.shows there (safe moved bound)
    · rw [onward moved bound] at there
      exact Or.inl ⟨moved, positive, by omega, rfl, _, Nat.le_max_right _ _, by omega, there⟩
  · rcases either with there | ⟨moved, bound, there⟩
    · constructor
      · exact serves.shows there (prefixes _)
      · exact Or.inr ⟨cause, reason, rfl, count, behind, within, there⟩
    · constructor
      · exact serves.shows there (safe moved bound)
      · rw [onward moved bound] at there
        exact Or.inr ⟨cause, reason, rfl, _, by omega, by omega, there⟩

/-- What a write that has moved some bytes decides. -/
theorem writeTurn_ok {total written moved : Nat} (some : 0 < moved) :
    writeTurn total written (.ok moved) =
      if written + moved < total then .again (written + moved) else .stop (.ok ()) := by
  cases moved with
  | zero => cases some
  | succ moved => rfl

variable [Storage σ] {world : World σ} {lifecycle : Lifecycle}

/-- Writing a whole buffer lays it over the start of the bytes.  When that fails, a part of it has
been laid, from its start on. -/
theorem Serves.upholds_writeFull (serves : Serves conduct always handle failures holds permitted)
    (prefixes : ∀ laid, permitted (overlay bytes 0 (chunk.take laid)))
    (held : holds bytes world.storage) :
    (writeFull handle 0 chunk).Upholds conduct always world fun outcome after =>
      after.cached = world.cached ∧
        ((outcome = .ok () ∧ holds (overlay bytes 0 chunk) after.storage) ∨
          Fails failures outcome ∧ Laid holds bytes chunk 0 after.storage) := by
  have start := laid_zero held chunk
  unfold writeFull
  split
  next empty =>
    have none : chunk = [] := List.length_eq_zero_iff.1 empty
    subst none
    exact Script.upholds_done ⟨rfl, Or.inl ⟨rfl, start.whole⟩⟩
  next some =>
    apply Script.upholds_cycle (fun written after => after.cached = world.cached ∧
      written < chunk.length ∧ Laid holds bytes chunk written after.storage)
    · exact ⟨rfl, Nat.pos_of_ne_zero some, start⟩
    · rintro written before ⟨cached, short, laid⟩
      apply Script.upholds_act
      rintro answer after ⟨storage, answered, rfl⟩
      obtain ⟨kept, told⟩ := serves.writeAt_laid prefixes short laid answered
      refine ⟨kept, Script.upholds_done ?_⟩
      rcases told with ⟨moved, positive, bound, rfl, there⟩ | ⟨cause, reason, rfl, there⟩
      · rw [writeTurn_ok positive]
        by_cases further : written + moved < chunk.length
        · rw [if_pos further]
          exact ⟨cached, further, there⟩
        · rw [if_neg further]
          have whole : written + moved = chunk.length := by omega
          rw [whole] at there
          exact Script.upholds_done ⟨cached, Or.inl ⟨rfl, there.whole⟩⟩
      · unfold writeTurn
        by_cases interrupted : cause.isInterrupted
        · simp only [interrupted, if_true]
          exact ⟨cached, short, there⟩
        · simp only [interrupted]
          obtain ⟨count, -, within, there⟩ := there
          have failing := reason.resolve_right interrupted
          exact Script.upholds_done ⟨cached, Or.inr ⟨Fails.intro failing _, count,
            Nat.zero_le _, within, there⟩⟩

/-! ## Reading -/

/-- What a read that has told some bytes decides. -/
theorem readTurn_ok {count : Nat} {sofar bytes : List UInt8} (some : 0 < bytes.length) :
    readTurn count sofar (.ok bytes) =
      if (sofar ++ bytes).length < count then .again (sofar ++ bytes)
      else .stop ⟨sofar ++ bytes, .ok ()⟩ := by
  cases bytes with
  | nil => cases some
  | cons byte rest => rfl

/-- Reading no more than there is tells exactly what stands there, unless a read fails. -/
theorem Serves.upholds_readFull {count : Nat}
    (serves : Serves conduct always handle failures holds permitted) (fits : permitted bytes)
    (enough : count ≤ bytes.length) (held : holds bytes world.storage) :
    (readFull handle 0 count).Upholds conduct always world fun filled after =>
      after.cached = world.cached ∧ holds bytes after.storage ∧
        (filled = ⟨bytes.take count, .ok ()⟩ ∨ Fails failures filled.outcome) := by
  unfold readFull
  split
  next none =>
    subst none
    exact Script.upholds_done ⟨rfl, held, Or.inl rfl⟩
  next some =>
    apply Script.upholds_cycle (fun sofar after => after.cached = world.cached ∧
      holds bytes after.storage ∧ sofar.length < count ∧ sofar = bytes.take sofar.length)
    · exact ⟨rfl, held, Nat.pos_of_ne_zero some, rfl⟩
    · rintro sofar before ⟨cached, here, short, same⟩
      apply Script.upholds_act
      rintro answer after ⟨storage, answered, rfl⟩
      obtain ⟨there, told⟩ := serves.readAt (by omega) here answered
      refine ⟨serves.shows there fits, Script.upholds_done ?_⟩
      rw [Nat.zero_add] at told
      rcases told with ⟨moved, positive, bound, rfl⟩ | ⟨cause, reason, rfl⟩
      · have length : ((bytes.drop sofar.length).take moved).length = moved := by
          rw [List.length_take_of_le]
          rw [List.length_drop]
          omega
        have onward : sofar ++ (bytes.drop sofar.length).take moved =
            bytes.take (sofar.length + moved) := by
          rw [List.take_add, ← same]
        rw [readTurn_ok (by omega), onward, List.length_take_of_le (by omega)]
        by_cases further : sofar.length + moved < count
        · rw [if_pos further]
          refine ⟨cached, there, ?_, ?_⟩
          · rw [List.length_take_of_le (by omega)]
            exact further
          · rw [List.length_take_of_le (by omega)]
        · rw [if_neg further]
          have whole : sofar.length + moved = count := by omega
          rw [whole]
          exact Script.upholds_done ⟨cached, there, Or.inl rfl⟩
      · unfold readTurn
        by_cases interrupted : cause.isInterrupted
        · simp only [interrupted, if_true]
          exact ⟨cached, there, short, same⟩
        · simp only [interrupted]
          have failing := reason.resolve_right interrupted
          exact Script.upholds_done ⟨cached, there, Or.inr (Fails.intro failing _)⟩

/-! ## Records -/

/-- A record that has been persisted stands at the start of the bytes.  When that fails, a part of it
may stand there. -/
theorem Serves.upholds_persist {record : Record} (target : Target)
    (serves : Serves conduct always handle failures holds permitted)
    (prefixes : ∀ laid, permitted (overlay bytes 0 (record.encode.take laid)))
    (held : holds bytes world.storage) :
    (target.persist handle record).Upholds conduct always lifecycle world fun outcome left after =>
      left = lifecycle ∧ after.cached = world.cached ∧
        ((outcome = .ok () ∧ holds (overlay bytes 0 record.encode) after.storage) ∨
          Fails failures outcome ∧ Laid holds bytes record.encode 0 after.storage) := by
  have whole : permitted (overlay bytes 0 record.encode) := prefixes record.encode.length
  unfold Target.persist
  apply Guarded.upholds_bind
  apply Guarded.upholds_require
  apply (serves.upholds_writeFull prefixes held).mono
  rintro outcome middle _ ⟨cached, ⟨rfl, here⟩ | ⟨⟨cause, error, failing, rfl⟩, laid⟩⟩
  · simp only
    split
    · apply Guarded.upholds_call
      intro answer storage answered
      obtain ⟨there, told⟩ := serves.sync here answered
      refine ⟨serves.shows there whole, rfl, cached, ?_⟩
      rcases told with rfl | ⟨cause, failing, rfl⟩
      · exact Or.inl ⟨rfl, there⟩
      · exact Or.inr ⟨Fails.intro failing _, laid_of_whole there⟩
    · exact Guarded.upholds_pure ⟨rfl, cached, Or.inl ⟨rfl, here⟩⟩
  · exact ⟨rfl, cached, Or.inr ⟨Fails.intro failing _, laid⟩⟩

/-- Reading a marker tells its layout and what its bytes say, although it reads two of them at most. -/
theorem Serves.upholds_load (serves : Serves conduct always handle failures holds permitted)
    (fits : permitted bytes) (held : holds bytes world.storage) :
    (Target.load handle).Upholds conduct always world fun outcome after =>
      after.cached = world.cached ∧ holds bytes after.storage ∧
        (outcome = .ok (Layout.ofSize bytes.length, Record.decode? bytes) ∨
          Fails failures outcome) := by
  unfold Target.load
  apply Script.upholds_bind
  apply Script.upholds_ask
  intro answer storage answered
  obtain ⟨here, told⟩ := serves.size held answered
  refine ⟨serves.shows here fits, ?_⟩
  rcases told with rfl | ⟨cause, failing, rfl⟩
  · have enough : (Layout.ofSize bytes.length).readLength ≤ bytes.length := by
      rw [Layout.readLength_ofSize]
      exact Nat.min_le_right _ _
    apply Script.upholds_bind
    apply (serves.upholds_readFull fits enough here).mono
    rintro filled after _ ⟨cached, there, rfl | ⟨cause, error, failing, outcome⟩⟩
    · refine Script.upholds_done ⟨cached, there, Or.inl ?_⟩
      rw [Record.decode?_take]
    · simp only [outcome]
      exact Script.upholds_done ⟨cached, there, Or.inr (Fails.intro failing _)⟩
  · exact Script.upholds_done ⟨rfl, here, Or.inr (Fails.intro failing _)⟩

/-- An opened marker gets both flags and keeps its record. -/
theorem Serves.upholds_normalize {record : Record} (target : Target)
    (serves : Serves conduct always handle failures holds
      fun bytes => Record.loaded (some bytes) = record)
    (same : Record.loaded (some bytes) = record) (held : holds bytes world.storage) :
    (target.normalize handle).Upholds conduct always lifecycle world fun outcome left after =>
      left = lifecycle ∧ after.cached = world.cached ∧
        ∃ now, holds now after.storage ∧
          (outcome = .ok record ∧ 2 ≤ now.length ∨ Fails failures outcome) := by
  unfold Target.normalize
  apply Guarded.upholds_bind
  apply Guarded.upholds_require
  apply (serves.upholds_load same held).mono
  rintro outcome after _ ⟨cached, here, rfl | ⟨cause, error, failing, rfl⟩⟩
  · have persisted : (target.persist handle record).Upholds conduct always lifecycle after
        fun outcome left last => left = lifecycle ∧ last.cached = world.cached ∧
          ∃ now, holds now last.storage ∧
            (outcome = .ok () ∧ 2 ≤ now.length ∨ Fails failures outcome) := by
      have prefixes := (safeToWrite_loaded record).prefixes same
      apply (serves.upholds_persist target prefixes here).mono
      rintro outcome left last _ ⟨rfl, same, ⟨rfl, there⟩ | ⟨fails, count, -, -, there⟩⟩
      · exact ⟨rfl, same.trans cached, _, there, Or.inl ⟨rfl, Record.two_le_length_overlay _ _⟩⟩
      · exact ⟨rfl, same.trans cached, _, there, Or.inr fails⟩
    match layout : bytes with
    | [] =>
      subst same
      apply Guarded.upholds_bind
      apply persisted.mono
      rintro outcome left last _ ⟨rfl, cached, now, there, ⟨rfl, long⟩ | ⟨cause, error, failing,
        rfl⟩⟩
      · exact Guarded.upholds_pure ⟨rfl, cached, now, there, Or.inl ⟨rfl, long⟩⟩
      · exact ⟨rfl, cached, now, there, Or.inr (Fails.intro failing _)⟩
    | [dirty] =>
      subst same
      apply Guarded.upholds_bind
      apply persisted.mono
      rintro outcome left last _ ⟨rfl, cached, now, there, ⟨rfl, long⟩ | ⟨cause, error, failing,
        rfl⟩⟩
      · apply Guarded.upholds_bind
        apply Guarded.upholds_emit
        apply Guarded.upholds_pure
        exact ⟨rfl, cached, now, there, Or.inl ⟨rfl, long⟩⟩
      · exact ⟨rfl, cached, now, there, Or.inr (Fails.intro failing _)⟩
    | dirty :: rebuild :: rest =>
      subst same
      refine Guarded.upholds_pure ⟨rfl, cached, _, here, Or.inl ⟨rfl, ?_⟩⟩
      simp
  · exact ⟨rfl, cached, bytes, here, Or.inr (Fails.intro failing _)⟩

end CrashMarker
