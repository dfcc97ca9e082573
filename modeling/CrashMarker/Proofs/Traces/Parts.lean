/-
Module: CrashMarker.Proofs.Traces.Parts
Purpose: What the parts of operations have done by the time they end, whatever their storage does.
Main exports: Written, ReadBack, tells_persist, tells_normalize, tells_acquireLock, tells_probeLock,
  tells_letGo
-/
import CrashMarker.Proofs.Operations
import CrashMarker.Proofs.Traces.Evidence

namespace CrashMarker

/-- The error says that the store is in no state for what was asked of it. -/
def StoreError.isRefusal : StoreError → Bool
  | .closed => true
  | .invalidOperation _ => true
  | _ => false

/-- If there is an error, the state of the store is not the reason. -/
def Unrefused {α : Type} (outcome : Except StoreError α) : Prop :=
  ∀ error, outcome = .error error → error.isRefusal = false

variable {σ : Type} [Storage σ] {conduct : Conduct σ} {world : World σ} {lifecycle : Lifecycle}
  {handle : Handle} {α : Type}

theorem unrefused_ok (value : α) : Unrefused (.ok value) := nofun

theorem unrefused_error {error : StoreError} (other : error.isRefusal = false) :
    Unrefused (.error error : Except StoreError α) := by
  rintro _ ⟨⟩
  exact other

/-! ## Transfers -/

/-- What one write adds to the bytes accepted, as the loop counts them. -/
theorem accepted_writeTurn (handle : Handle) {bytes : List UInt8} {written : Nat}
    (within : written ≤ bytes.length)
    (answer : (Request.writeAt handle (0 + written) (bytes.drop written)).Answer) :
    match writeTurn bytes.length written answer with
    | .again following => following ≤ bytes.length ∧
        laid handle 0 (bytes.take written) ++
          Taken.accepted ⟨.ask (.writeAt handle (0 + written) (bytes.drop written)), answer⟩ =
            laid handle 0 (bytes.take following)
    | .stop outcome => Unrefused outcome ∧ (outcome = .ok () →
        laid handle 0 (bytes.take written) ++
          Taken.accepted ⟨.ask (.writeAt handle (0 + written) (bytes.drop written)), answer⟩ =
            laid handle 0 bytes) := by
  -- The bytes of one write come right after the bytes written before.
  have adds : ∀ moved, laid handle 0 (bytes.take written) ++
      laid handle (0 + written) ((bytes.drop written).take moved) =
        laid handle 0 (bytes.take (written + moved)) := by
    intro moved
    rw [List.take_add, laid_append, List.length_take, Nat.min_eq_left within]
  cases answer with
  | error cause =>
    simp only [writeTurn, Taken.accepted, List.append_nil]
    by_cases interrupted : cause.isInterrupted
    · simp only [interrupted, if_true]
      exact ⟨within, trivial⟩
    · simp only [interrupted, if_false, Bool.false_eq_true]
      exact ⟨unrefused_error rfl, nofun⟩
  | ok moved =>
    simp only [Taken.accepted, adds]
    cases moved with
    | zero => exact ⟨unrefused_error rfl, nofun⟩
    | succ moved =>
      simp only [writeTurn]
      by_cases more : written + (moved + 1) < bytes.length
      · simp only [more, if_true]
        exact ⟨Nat.le_of_lt more, trivial⟩
      · simp only [more, if_false]
        refine ⟨unrefused_ok _, fun _ => ?_⟩
        rw [List.take_of_length_le (Nat.le_of_not_lt more)]

/-- A write that succeeds has had all of its bytes accepted, byte after byte. -/
theorem tells_writeFull (config : Config) (bytes : List UInt8) :
    (writeFull handle 0 bytes).Tells conduct world fun taken outcome after =>
      Steady config world taken after ∧ Unrefused outcome ∧
        (outcome = .ok () → accepted taken = laid handle 0 bytes) := by
  unfold writeFull
  split
  next empty =>
    rw [List.length_eq_zero_iff.1 empty]
    exact Script.tells_done ⟨.refl _, unrefused_ok _, fun _ => rfl⟩
  next nonempty =>
    apply Script.tells_cycle fun sofar written after => Steady config world sofar after ∧
      written ≤ bytes.length ∧ accepted sofar = laid handle 0 (bytes.take written)
    · exact ⟨.refl _, Nat.zero_le _, rfl⟩
    rintro sofar written before ⟨steady, within, same⟩
    apply Script.tells_act
    rintro answer after ⟨storage, answered, rfl⟩
    apply Script.tells_done
    have further : Steady config world (sofar ++
        [⟨.ask (.writeAt handle (0 + written) (bytes.drop written)), answer⟩])
          { before with storage } := steady.trans ⟨rfl, rfl, fun _ => rfl, fun _ => by simp [Taken.syncs]⟩
    have turn := accepted_writeTurn handle within answer
    cases decided : writeTurn bytes.length written answer with
    | again following =>
      rw [decided] at turn
      refine ⟨further, turn.1, ?_⟩
      simpa [same] using turn.2
    | stop outcome =>
      rw [decided] at turn
      apply Script.tells_done
      rw [List.append_nil]
      refine ⟨further, turn.1, fun done => ?_⟩
      simpa [same] using turn.2 done

/-- What one read adds to the bytes received, as the loop gathers them. -/
theorem received_readTurn {count : Nat} {sofar : List UInt8} (within : sofar.length < count)
    (answer : (Request.readAt handle (0 + sofar.length) (count - sofar.length)).Answer) :
    match readTurn count sofar answer with
    | .again following => following.length < count ∧
        laid handle 0 sofar ++
          Taken.received ⟨.ask (.readAt handle (0 + sofar.length) (count - sofar.length)), answer⟩ =
            laid handle 0 following
    | .stop filled => Unrefused filled.outcome ∧ (filled.outcome = .ok () →
        ((∀ bytes, answer = .ok bytes → bytes.length ≤ count - sofar.length) →
          filled.bytes.length = count) ∧ laid handle 0 sofar ++
          Taken.received ⟨.ask (.readAt handle (0 + sofar.length) (count - sofar.length)), answer⟩ =
            laid handle 0 filled.bytes) := by
  cases answer with
  | error cause =>
    simp only [readTurn, Taken.received, List.append_nil]
    by_cases interrupted : cause.isInterrupted
    · simp only [interrupted, if_true]
      exact ⟨within, trivial⟩
    · simp only [interrupted, if_false, Bool.false_eq_true]
      exact ⟨unrefused_error rfl, nofun⟩
  | ok bytes =>
    simp only [Taken.received, ← laid_append]
    cases bytes with
    | nil => exact ⟨unrefused_error rfl, nofun⟩
    | cons byte bytes =>
      simp only [readTurn]
      by_cases more : (sofar ++ byte :: bytes).length < count
      · simp only [more, if_true]
        exact ⟨trivial, trivial⟩
      · simp only [more, if_false]
        refine ⟨unrefused_ok _, fun _ => ⟨fun measured => ?_, trivial⟩⟩
        have fits := measured _ rfl
        rw [List.length_append] at more ⊢
        omega

/-- A read that succeeds has received all of its bytes, byte after byte, and no more if no read yields
more than it was asked for. -/
theorem tells_readFull (config : Config) (count : Nat) :
    (readFull handle 0 count).Tells conduct world fun taken filled after =>
      Steady config world taken after ∧ Unwritten taken ∧ accepted taken = [] ∧
        Unrefused filled.outcome ∧ (filled.outcome = .ok () →
          (conduct.Measured → filled.bytes.length = count) ∧
            received taken = laid handle 0 filled.bytes) := by
  unfold readFull
  split
  next empty =>
    exact Script.tells_done
      ⟨.refl _, unwritten_nil, rfl, unrefused_ok _, fun _ => ⟨fun _ => empty.symm, rfl⟩⟩
  next nonempty =>
    apply Script.tells_cycle fun taken sofar after => Steady config world taken after ∧
      Unwritten taken ∧ accepted taken = [] ∧ sofar.length < count ∧
        received taken = laid handle 0 sofar
    · exact ⟨.refl _, unwritten_nil, rfl, Nat.pos_of_ne_zero nonempty, rfl⟩
    rintro taken sofar before ⟨steady, unwritten, unaccepted, within, same⟩
    apply Script.tells_act
    rintro answer after ⟨storage, answered, rfl⟩
    apply Script.tells_done
    have further : Steady config world (taken ++
        [⟨.ask (.readAt handle (0 + sofar.length) (count - sofar.length)), answer⟩])
          { before with storage } := steady.trans ⟨rfl, rfl, fun _ => rfl, fun _ => by simp [Taken.syncs]⟩
    have unwritten : Unwritten (taken ++
        [⟨.ask (.readAt handle (0 + sofar.length) (count - sofar.length)), answer⟩]) := by
      simpa [Taken.writes] using unwritten
    have turn := received_readTurn within answer
    cases decided : readTurn count sofar answer with
    | again following =>
      rw [decided] at turn
      refine ⟨further, unwritten, by rw [accepted_append, unaccepted]; rfl, turn.1, ?_⟩
      simpa [same] using turn.2
    | stop filled =>
      rw [decided] at turn
      apply Script.tells_done
      rw [List.append_nil]
      refine ⟨further, unwritten, by rw [accepted_append, unaccepted]; rfl, turn.1,
        fun done => ⟨fun measured => (turn.2 done).1 fun bytes read => measured (read ▸ answered), ?_⟩⟩
      simpa [same] using (turn.2 done).2

/-! ## Records -/

/-- By the end of the actions taken, the handle has accepted exactly the bytes of the record, and they
have been synced since if they were to be. -/
structure Saved (config : Config) (handle : Handle) (record : Record) (taken : List Taken) :
    Prop where
  accepted : accepted taken = laid handle 0 record.encode
  durable : config.syncOnWrite = true → ∃ early late,
    taken = early ++ ⟨.ask (.sync handle), .ok ()⟩ :: late ∧ CrashMarker.accepted late = []

/-- By the end of the actions taken, the handle has told a size with room for a record and yielded
two bytes that stand for it, and nothing has been written. -/
structure ReadBack (handle : Handle) (record : Record) (taken : List Taken) : Prop where
  unwritten : Unwritten taken
  sized : ∃ size, 2 ≤ size ∧ ⟨.ask (.size handle), .ok size⟩ ∈ taken
  read : ∃ bytes, bytes.length = 2 ∧ Record.decode? bytes = some record ∧
    received taken = laid handle 0 bytes

section Around

variable {config : Config} {record : Record} {early late : List Taken}

/-- What comes before a record is saved does not matter if it writes nothing. -/
theorem Saved.preceded (saved : Saved config handle record late)
    (nothing : CrashMarker.accepted early = []) : Saved config handle record (early ++ late) where
  accepted := by rw [accepted_append, nothing, List.nil_append, saved.accepted]
  durable syncing := by
    obtain ⟨before, since, rfl, none⟩ := saved.durable syncing
    exact ⟨early ++ before, since, (List.append_assoc _ _ _).symm, none⟩

/-- Flags that have been saved stay saved while nothing more is accepted. -/
theorem Saved.followed (saved : Saved config handle record early)
    (nothing : CrashMarker.accepted late = []) : Saved config handle record (early ++ late) where
  accepted := by rw [accepted_append, nothing, List.append_nil, saved.accepted]
  durable syncing := by
    obtain ⟨before, since, rfl, none⟩ := saved.durable syncing
    refine ⟨before, since ++ late, by simp, ?_⟩
    rw [accepted_append, none, nothing, List.append_nil]

/-- Actions before the reading do not touch what was read. -/
theorem ReadBack.preceded (readBack : ReadBack handle record late) (plain : Plain early) :
    ReadBack handle record (early ++ late) where
  unwritten := (unwritten_append _ _).2 ⟨plain.unwritten, readBack.unwritten⟩
  sized := by
    obtain ⟨size, room, told⟩ := readBack.sized
    exact ⟨size, room, List.mem_append_right _ told⟩
  read := by
    obtain ⟨bytes, two, stands, same⟩ := readBack.read
    exact ⟨bytes, two, stands, by rw [received_append, plain.received, List.nil_append, same]⟩

end Around

/-- A record that has been persisted is saved. -/
theorem tells_persist (target : Target) (record : Record) :
    (target.persist handle record).Tells conduct lifecycle world fun taken outcome left after =>
      left = lifecycle ∧ Steady target.config world taken after ∧ Unrefused outcome ∧
        (outcome = .ok () → Saved target.config handle record taken) := by
  unfold Target.persist
  apply Guarded.tells_bind
  apply Guarded.tells_require
  apply (tells_writeFull target.config record.encode).mono
  rintro early (error | _) middle ⟨steady, unrefused, all⟩
  · exact ⟨rfl, steady, unrefused_error (unrefused _ rfl), nofun⟩
  · cases syncing : target.config.syncOnWrite with
    | false =>
      apply Guarded.tells_pure
      rw [List.append_nil]
      refine ⟨rfl, steady, unrefused_ok _, fun _ => ⟨all rfl, ?_⟩⟩
      rw [syncing]
      nofun
    | true =>
      apply Guarded.tells_call
      intro answer storage answered
      have further : Steady target.config world (early ++ [⟨.ask (.sync handle), answer⟩])
          { middle with storage } := steady.trans ⟨rfl, rfl, fun _ => rfl, by rw [syncing]; nofun⟩
      cases answer with
      | error cause => exact ⟨rfl, further, unrefused_error rfl, nofun⟩
      | ok done =>
        refine ⟨rfl, further, unrefused_ok _, fun _ => ⟨?_, fun _ => ⟨early, [], rfl, rfl⟩⟩⟩
        rw [accepted_append, all rfl]
        rfl

/-- Preparing a record by saving it. -/
theorem tells_saving (target : Target) (record : Record) :
    (do Target.persist target handle record; return record : Guarded Record).Tells conduct lifecycle
      world fun taken outcome left after => left = lifecycle ∧
        Steady target.config world taken after ∧ Unrefused outcome ∧
        ∀ other, outcome = .ok other → Saved target.config handle other taken := by
  apply Guarded.tells_bind
  apply (tells_persist target record).mono
  rintro taken (error | _) left after ⟨rfl, steady, unrefused, saved⟩
  · exact ⟨rfl, steady, unrefused_error (unrefused _ rfl), nofun⟩
  · apply Guarded.tells_pure
    rw [List.append_nil]
    refine ⟨rfl, steady, unrefused_ok _, ?_⟩
    rintro other ⟨⟩
    exact saved rfl

/-- What is loaded is what the bytes received stand for, as many as the layout of the size has. -/
theorem tells_load (config : Config) :
    (Target.load handle).Tells conduct world fun taken outcome after =>
      Steady config world taken after ∧ Unwritten taken ∧ accepted taken = [] ∧
        Unrefused outcome ∧ ∀ loaded, outcome = .ok loaded → ∃ size bytes,
          loaded = (Layout.ofSize size, Record.decode? bytes) ∧
          (conduct.Measured → bytes.length = min 2 size) ∧
          ⟨.ask (.size handle), .ok size⟩ ∈ taken ∧ received taken = laid handle 0 bytes := by
  unfold Target.load
  apply Script.tells_bind
  apply Script.tells_ask
  intro answer storage answered
  have sized : Steady config world [⟨.ask (.size handle), answer⟩] { world with storage } :=
    .of_plain rfl (by simp [Taken.plain]) fun _ => rfl
  cases answer with
  | error cause =>
    exact Script.tells_done ⟨sized, by simp [Taken.writes], rfl, unrefused_error rfl, nofun⟩
  | ok size =>
    apply Script.tells_bind
    apply (tells_readFull config (Layout.ofSize size).readLength).mono
    rintro taken filled middle ⟨steady, unwritten, unaccepted, unrefused, all⟩
    have further := sized.trans steady
    have unwritten : Unwritten (⟨.ask (.size handle), .ok size⟩ :: taken) := by
      simpa [Taken.writes] using unwritten
    split
    next error failed =>
      apply Script.tells_done
      rw [List.append_nil]
      exact ⟨further, unwritten, unaccepted, unrefused_error (unrefused _ failed), nofun⟩
    next done =>
      apply Script.tells_done
      rw [List.append_nil]
      refine ⟨further, unwritten, unaccepted, unrefused_ok _, ?_⟩
      rintro loaded ⟨⟩
      obtain ⟨long, same⟩ := all done
      rw [Layout.readLength_ofSize] at long
      exact ⟨size, filled.bytes, rfl, long, List.mem_cons_self, same⟩

/-- A record of another layout than the legacy one takes two bytes. -/
theorem two_le_of_decode? {size : Nat} {bytes : List UInt8} {record : Record}
    (long : bytes.length = min 2 size) (found : Record.decode? bytes = some record)
    (notLegacy : Layout.ofSize size ≠ .legacy) : 2 ≤ size := by
  match size, bytes, long with
  | 0, [], _ => cases found
  | 1, [_], _ => exact absurd rfl notLegacy
  | size + 2, _, _ => exact Nat.le_add_left 2 size

/-- The evidence for the flags that opening publishes: they have been saved, or they were read. -/
def Shown (config : Config) (handle : Handle) (record : Record) (taken : List Taken) : Prop :=
  Saved config handle record taken ∨ ReadBack handle record taken

/-- The record that an opened marker is given has been saved, or it stands in the bytes of the
marker. -/
theorem tells_normalize (target : Target) :
    (target.normalize handle).Tells conduct lifecycle world fun taken outcome left after =>
      left = lifecycle ∧ Steady target.config world taken after ∧ Unrefused outcome ∧
        ∀ record, outcome = .ok record →
          conduct.Measured → Shown target.config handle record taken := by
  unfold Target.normalize
  apply Guarded.tells_bind
  apply Guarded.tells_require
  apply (tells_load target.config).mono
  rintro early (error | loaded) middle ⟨steady, unwritten, unaccepted, unrefused, told⟩
  · exact ⟨rfl, steady, unrefused_error (unrefused _ rfl), fun _ ended => nomatch ended⟩
  obtain ⟨size, bytes, rfl, long, sized, read⟩ := told _ rfl
  simp only
  split
  next layout found =>
    apply (tells_saving target .clean).mono
    rintro late outcome left after ⟨rfl, saving, unrefused, saved⟩
    refine ⟨rfl, steady.trans saving, unrefused, fun record ended _ => ?_⟩
    exact Or.inl ((saved record ended).preceded unaccepted)
  next record found =>
    apply Guarded.tells_bind
    apply (tells_persist target record).mono
    rintro late (error | _) left after ⟨rfl, saving, unrefused, saved⟩
    · exact ⟨rfl, steady.trans saving, unrefused_error (unrefused _ rfl), fun _ ended => nomatch ended⟩
    · apply Guarded.tells_bind
      apply Guarded.tells_emit
      apply Guarded.tells_pure
      refine ⟨rfl, steady.trans (saving.trans (.of_plain rfl ?_ fun _ => rfl)), unrefused_ok _, ?_⟩
      · simp [Taken.plain]
      · rintro other ⟨⟩ -
        exact Or.inl (((saved rfl).followed rfl).preceded unaccepted)
  next layout record notLegacy found =>
    obtain ⟨rfl, decoded⟩ := Prod.mk.inj found
    apply Guarded.tells_pure
    rw [List.append_nil]
    refine ⟨rfl, steady, unrefused_ok _, ?_⟩
    rintro other ⟨⟩ measured
    have room := two_le_of_decode? (long measured) decoded notLegacy
    refine Or.inr ⟨unwritten, ⟨size, room, sized⟩, bytes, ?_, decoded, read⟩
    rw [long measured, Nat.min_eq_left room]

/-! ## The lock -/

/-- The lock is taken only if it is to be, and then the hand knows. -/
theorem tells_acquireLock (target : Target) :
    (target.acquireLock handle).Tells conduct lifecycle world fun taken outcome left after =>
      left = lifecycle ∧ after.cached = world.cached ∧ Plain taken ∧ Unrefused outcome ∧
        (∀ locked, outcome = .ok locked → (locked = true → target.config.fileLock = true) ∧
          (Grip.on handle (some false)).along taken = .on handle (some locked)) ∧
        ∃ known, (Grip.on handle (some false)).along taken = .on handle known := by
  unfold Target.acquireLock
  cases target.config.fileLock with
  | false =>
    refine Guarded.tells_pure ⟨rfl, rfl, plain_nil, unrefused_ok _, ?_, _, rfl⟩
    rintro locked ⟨⟩
    exact ⟨nofun, rfl⟩
  | true =>
    apply Guarded.tells_bind
    apply Guarded.tells_call
    intro answer storage answered
    match answer with
    | .error cause =>
      exact ⟨rfl, rfl, by simp [Taken.plain], unrefused_error rfl, nofun, none, by
        simp [Grip.step, Grip.known]⟩
    | .ok true =>
      refine Guarded.tells_pure ⟨rfl, rfl, by simp [Taken.plain], unrefused_ok _, ?_, some true, by
        simp [Grip.step, Grip.known]⟩
      rintro locked ⟨⟩
      exact ⟨fun _ => rfl, by simp [Grip.step, Grip.known]⟩
    | .ok false =>
      apply Guarded.tells_bind
      apply Guarded.tells_emit
      exact Guarded.tells_throw ⟨rfl, rfl, by simp [Taken.plain], unrefused_error rfl, nofun,
        some false, by simp [Grip.step, Grip.known]⟩

/-- Probing opens a handle of its own and has closed it again by the end, whatever becomes of the
lock. -/
theorem tells_probeLock (target : Target) :
    target.probeLock.Tells conduct lifecycle world fun taken outcome left after =>
      left = lifecycle ∧ after.cached = world.cached ∧ Plain taken ∧ Unrefused outcome ∧
        Grip.nothing.along taken = .nothing := by
  unfold Target.probeLock
  apply Guarded.tells_bind
  apply Guarded.tells_ask
  intro answer storage answered
  cases answer with
  | error cause =>
    exact Guarded.tells_emit ⟨rfl, rfl, by simp [Taken.plain], unrefused_ok _, rfl⟩
  | ok handle =>
    simp only
    apply Guarded.tells_bind
    apply Guarded.tells_closingOnFailure
    apply Guarded.tells_bind
    apply Guarded.tells_ask
    intro locked storage answered
    match locked with
    | .error cause =>
      apply Guarded.tells_emit
      apply Guarded.tells_lift
      apply Script.tells_close
      exact ⟨rfl, rfl, by simp [Taken.plain], unrefused_ok _, by simp [Grip.step, Grip.known]⟩
    | .ok false =>
      apply Guarded.tells_bind
      apply Guarded.tells_emit
      apply Guarded.tells_throw
      exact ⟨rfl, rfl, by simp [Taken.plain], unrefused_error rfl, by simp [Grip.step, Grip.known]⟩
    | .ok true =>
      apply Guarded.tells_bind
      apply Guarded.tells_ask
      intro unlocked storage answered
      cases unlocked with
      | ok done =>
        apply Guarded.tells_pure
        apply Guarded.tells_lift
        apply Script.tells_close
        exact ⟨rfl, rfl, by simp [Taken.plain], unrefused_ok _, by simp [Grip.step, Grip.known]⟩
      | error cause =>
        apply Guarded.tells_emit
        apply Guarded.tells_lift
        apply Script.tells_close
        exact ⟨rfl, rfl, by simp [Taken.plain], unrefused_ok _, by simp [Grip.step, Grip.known]⟩

/-- Letting go leaves the hand empty, and it fails exactly if the lock was not given up. -/
theorem tells_letGo (locked : Bool) :
    (Target.letGo handle locked).Tells conduct lifecycle world fun taken outcome left after =>
      left = lifecycle ∧ after.cached = world.cached ∧ Plain taken ∧ Unrefused outcome ∧
        (outcome = .ok () ↔ unlockRefused taken = false) ∧
        ∀ known, (Grip.on handle known).along taken = .nothing := by
  unfold Target.letGo
  apply Guarded.tells_bind
  apply Guarded.tells_closingOnFailure
  cases locked with
  | false =>
    apply Guarded.tells_pure
    apply Guarded.tells_lift
    apply Script.tells_close
    exact ⟨rfl, rfl, by simp [Taken.plain], unrefused_ok _, by simp [Taken.unlockRefused],
      fun _ => by simp [Grip.step]⟩
  | true =>
    apply Guarded.tells_call
    intro answer storage answered
    cases answer with
    | error cause =>
      exact ⟨rfl, rfl, by simp [Taken.plain], unrefused_error rfl, by simp [Taken.unlockRefused],
        fun _ => by simp [Grip.step, Grip.known]⟩
    | ok done =>
      apply Guarded.tells_lift
      apply Script.tells_close
      exact ⟨rfl, rfl, by simp [Taken.plain], unrefused_ok _, by simp [Taken.unlockRefused],
        fun _ => by simp [Grip.step, Grip.known]⟩

/-! ## The file at the path -/

/-- The store may learn that it has made a file, and nothing else. -/
theorem tells_ensurePresent (target : Target) :
    target.ensurePresent.Tells conduct lifecycle world fun taken outcome left after =>
      left = { lifecycle with associated := left.associated } ∧ after.cached = world.cached ∧
        Passive taken ∧ Unrefused outcome := by
  unfold Target.ensurePresent
  apply Guarded.tells_bind
  apply Guarded.tells_call
  intro answer storage answered
  match answer with
  | .error cause => exact ⟨rfl, rfl, by simp [Taken.passive], unrefused_error rfl⟩
  | .ok true => exact Guarded.tells_pure ⟨rfl, rfl, by simp [Taken.passive], unrefused_ok _⟩
  | .ok false =>
    apply Guarded.tells_bind
    apply Guarded.tells_ask
    intro answer storage answered
    cases answer with
    | ok made => exact Guarded.tells_modify ⟨rfl, rfl, by simp [Taken.passive], unrefused_ok _⟩
    | error cause =>
      cases cause with
      | alreadyExists other =>
        exact Guarded.tells_pure ⟨rfl, rfl, by simp [Taken.passive], unrefused_ok _⟩
      | _ => exact Guarded.tells_throw ⟨rfl, rfl, by simp [Taken.passive], unrefused_error rfl⟩

/-- Removing the old file concerns its name only. -/
theorem tells_removeOld (target : Target) :
    target.removeOld.Tells conduct lifecycle world fun taken outcome left after =>
      left = lifecycle ∧ after.cached = world.cached ∧ Passive taken ∧ Unrefused outcome := by
  unfold Target.removeOld
  apply Guarded.tells_bind
  apply Guarded.tells_ask
  intro answer storage answered
  cases answer with
  | ok removed => exact Guarded.tells_pure ⟨rfl, rfl, by simp [Taken.passive], unrefused_ok _⟩
  | error cause =>
    exact Guarded.tells_throw ⟨rfl, rfl, by simp [Taken.passive], unrefused_error rfl⟩

/-- Making way for a new marker leaves the hand empty as it was. -/
theorem tells_clear (target : Target) :
    target.clear.Tells conduct lifecycle world fun taken outcome left after =>
      left = lifecycle ∧ after.cached = world.cached ∧ Plain taken ∧ Unrefused outcome ∧
        Grip.nothing.along taken = .nothing := by
  unfold Target.clear
  apply Guarded.tells_bind
  apply Guarded.tells_call
  intro answer storage answered
  match answer with
  | .error cause => exact ⟨rfl, rfl, by simp [Taken.plain], unrefused_error rfl, rfl⟩
  | .ok false => exact Guarded.tells_pure ⟨rfl, rfl, by simp [Taken.plain], unrefused_ok _, rfl⟩
  | .ok true =>
    cases target.config.fileLock with
    | false =>
      apply (tells_removeOld target).mono
      rintro taken outcome left after ⟨rfl, cached, passive, unrefused⟩
      exact ⟨rfl, cached, by simp [Taken.plain, passive.plain], unrefused, passive.handsOff _⟩
    | true =>
      apply Guarded.tells_bind
      apply (tells_probeLock target).mono
      rintro early (error | _) left middle ⟨rfl, cached, plain, unrefused, hand⟩
      · exact ⟨rfl, cached, by simp [Taken.plain, plain], unrefused_error (unrefused _ rfl), hand⟩
      · apply (tells_removeOld target).mono
        rintro late outcome left after ⟨rfl, same, passive, unrefused⟩
        refine ⟨rfl, same.trans cached, by simp [Taken.plain, plain, passive.plain], unrefused, ?_⟩
        simp [Grip.step, hand, passive.handsOff _]

/-- Removing touches nothing but the name of the file. -/
theorem tells_removeUntilGone (target : Target) :
    target.removeUntilGone.Tells conduct world fun taken outcome after =>
      after.cached = world.cached ∧ Passive taken ∧ Unrefused outcome := by
  unfold Target.removeUntilGone
  apply Script.tells_cycle fun sofar _ after => after.cached = world.cached ∧ Passive sofar
  · exact ⟨rfl, passive_nil⟩
  rintro sofar warned before ⟨cached, passive⟩
  apply Script.tells_act
  rintro answer after ⟨storage, answered, rfl⟩
  cases answer with
  | ok removed =>
    exact Script.tells_done (Script.tells_done ⟨cached, by simp [Taken.passive, passive], unrefused_ok _⟩)
  | error cause =>
    cases cause
    case notFound other =>
      exact Script.tells_done (Script.tells_done ⟨cached, by simp [Taken.passive, passive],
        unrefused_ok _⟩)
    all_goals
      apply Script.tells_bind
      apply Script.tells_ask
      intro found storage answered
      match found with
      | .error failure =>
        exact Script.tells_done (Script.tells_done ⟨cached, by simp [Taken.passive, passive],
          unrefused_error rfl⟩)
      | .ok false =>
        exact Script.tells_done (Script.tells_done ⟨cached, by simp [Taken.passive, passive],
          unrefused_ok _⟩)
      | .ok true =>
        cases warned with
        | true => exact Script.tells_done ⟨cached, by simp [Taken.passive, passive]⟩
        | false =>
          apply Script.tells_bind
          apply Script.tells_emit
          exact Script.tells_done ⟨cached, by simp [Taken.passive, passive]⟩

end CrashMarker
