/-
Module: CrashMarker.Proofs.Traces.Writes
Purpose: How many writes the operations on a store have made by the time they end.
Main exports:
  writesMade, Conduct.MovesUpTo, lacksFlags, tells_normalize_writes, tells_create_writes,
  tells_transition_writes, tells_transition_idle
-/
import CrashMarker.Proofs.Memory.Sighted
import CrashMarker.Proofs.Traces.Operations

namespace CrashMarker

/-!
A write that moves bytes counts, whatever becomes of the operation.  Where every transfer moves as much
as it may, a record takes a fixed number of writes, and an operation that ends well has written one
record or none.
-/

open Memory (writesFor)

/-! ## Counting -/

/-- Whether the action is a write that has moved bytes. -/
def Taken.moves : Taken → Bool
  | ⟨.ask (.writeAt _ _ _), .ok moved⟩ => moved != 0
  | _ => false

/-- How many writes have moved bytes. -/
def writesMade (taken : List Taken) : Nat := taken.countP Taken.moves

@[simp] theorem writesMade_nil : writesMade [] = 0 := rfl

@[simp] theorem writesMade_cons (step : Taken) (taken : List Taken) :
    writesMade (step :: taken) = writesMade taken + if step.moves then 1 else 0 :=
  List.countP_cons

@[simp] theorem writesMade_append (early late : List Taken) :
    writesMade (early ++ late) = writesMade early + writesMade late := List.countP_append

/-- Where no write was asked for, none was made. -/
theorem Unwritten.writesMade {taken : List Taken} (unwritten : Unwritten taken) :
    writesMade taken = 0 := by
  apply List.countP_eq_zero.2
  intro step isTaken moves
  have asked := unwritten step isTaken
  obtain ⟨action, answer⟩ := step
  cases action with
  | ask request =>
    cases request with
    | writeAt => cases asked
    | _ => cases moves
  | _ => cases moves

theorem Plain.writesMade {taken : List Taken} (plain : Plain taken) : writesMade taken = 0 :=
  plain.unwritten.writesMade

/-- Every write that is accepted moves as many bytes as it may.  Zero means no limit. -/
def Conduct.MovesUpTo {σ : Type} (cap : Nat) (conduct : Conduct σ) : Prop :=
  ∀ {handle : Handle} {offset : Nat} {bytes : List UInt8} {before after : σ} {moved : Nat},
    conduct (.writeAt handle offset bytes) before (.ok moved) after →
      moved = if cap = 0 then bytes.length else min bytes.length cap

/-- One write that moves as much as it may leaves as many to be made as it leaves bytes to be moved. -/
theorem writesFor_onward {cap count moved : Nat} (some : 0 < count)
    (same : moved = if cap = 0 then count else min count cap) :
    writesFor cap count = 1 + writesFor cap (count - moved) := by
  rw [same]
  exact ({ maxTransfer := cap } : Memory).writesFor_transferLength some

/-! ## What is known of a script in two ways -/

section Both

variable {σ : Type} [Storage σ] {conduct other : Conduct σ} {always : σ → Prop} {α : Type}
  {world : World σ}

/-- What a script upholds on a conduct that allows more is also told where it ends. -/
theorem Script.Upholds.tells {script : Script α} {ends : α → World σ → Prop}
    (upholds : script.Upholds other always world ends) (start : always world.storage)
    (more : ∀ request before answer after,
      conduct request before answer after → other request before answer after) :
    script.Tells conduct world fun _ => ends :=
  ⟨fun ended => upholds.of_ends start (Passes.mono more ended)⟩

/-- What is upheld along the way may be told at the end. -/
theorem Guarded.Upholds.tells {body : Guarded α} {lifecycle : Lifecycle}
    {ends : Except StoreError α → Lifecycle → World σ → Prop}
    (upholds : body.Upholds other always lifecycle world ends) (start : always world.storage)
    (more : ∀ request before answer after,
      conduct request before answer after → other request before answer after) :
    body.Tells conduct lifecycle world fun _ => ends :=
  Script.Upholds.tells upholds start more

/-- Two accounts of the same script may be told together. -/
theorem Script.Tells.and {script : Script α} {one two : List Taken → α → World σ → Prop}
    (first : script.Tells conduct world one) (second : script.Tells conduct world two) :
    script.Tells conduct world fun taken result after =>
      one taken result after ∧ two taken result after :=
  ⟨fun ended => ⟨first.of_ends ended, second.of_ends ended⟩⟩

theorem Guarded.Tells.and {body : Guarded α} {lifecycle : Lifecycle}
    {one two : List Taken → Except StoreError α → Lifecycle → World σ → Prop}
    (first : body.Tells conduct lifecycle world one)
    (second : body.Tells conduct lifecycle world two) :
    body.Tells conduct lifecycle world fun taken outcome left after =>
      one taken outcome left after ∧ two taken outcome left after :=
  Script.Tells.and first second

end Both

/-! ## Records -/

variable {σ : Type} [Storage σ] {conduct : Conduct σ} {world : World σ} {lifecycle : Lifecycle}
  {handle : Handle} {cap : Nat}

/-- What one write adds to the writes made, as the loop goes on. -/
theorem moves_writeTurn {total written offset : Nat} {chunk : List UInt8}
    (length : chunk.length = total - written) (short : written < total)
    (answer : (Request.writeAt handle offset chunk).Answer)
    (capped : ∀ moved, answer = .ok moved →
      moved = if cap = 0 then chunk.length else min chunk.length cap) :
    match writeTurn total written answer with
    | .again following => following < total ∧
        (if Taken.moves ⟨.ask (.writeAt handle offset chunk), answer⟩ then 1 else 0) +
          writesFor cap (total - following) = writesFor cap (total - written)
    | .stop outcome => outcome = .ok () →
        (if Taken.moves ⟨.ask (.writeAt handle offset chunk), answer⟩ then 1 else 0) =
          writesFor cap (total - written) := by
  cases answer with
  | error cause =>
    simp only [writeTurn, Taken.moves]
    by_cases interrupted : cause.isInterrupted
    · simpa [interrupted] using short
    · simp [interrupted]
  | ok moved =>
    have taken := capped moved rfl
    rw [length] at taken
    have onward := writesFor_onward (Nat.sub_pos_of_lt short) taken
    cases moved with
    | zero => simp [writeTurn]
    | succ moved =>
      have one : Taken.moves ⟨.ask (.writeAt handle offset chunk), .ok (moved + 1)⟩ = true := rfl
      simp only [writeTurn, one, if_true]
      by_cases more : written + (moved + 1) < total
      · simp only [more, if_true]
        refine ⟨trivial, ?_⟩
        rw [onward, Nat.sub_sub]
      · simp only [more, if_false]
        intro _
        have nothing : total - written - (moved + 1) = 0 := by omega
        rw [onward, nothing, Memory.writesFor_zero]

/-- Writing in whole makes as few writes as can move the bytes. -/
theorem tells_writeFull_writes (capped : conduct.MovesUpTo cap) (bytes : List UInt8) :
    (writeFull handle 0 bytes).Tells conduct world fun taken outcome _ =>
      outcome = .ok () → writesMade taken = writesFor cap bytes.length := by
  unfold writeFull
  split
  next empty =>
    apply Script.tells_done
    intro _
    rw [empty, Memory.writesFor_zero]
    rfl
  next nonempty =>
    -- What has been made and what is yet to be made come to the same all along.
    apply Script.tells_cycle fun sofar written _ => written < bytes.length ∧
      writesMade sofar + writesFor cap (bytes.length - written) = writesFor cap bytes.length
    · exact ⟨Nat.pos_of_ne_zero nonempty, Nat.zero_add _⟩
    intro sofar written before invariant
    obtain ⟨short, counted⟩ := invariant
    apply Script.tells_act
    intro answer after allowed
    obtain ⟨storage, answered, -⟩ := allowed
    apply Script.tells_done
    have turn := moves_writeTurn (List.length_drop) short answer
      fun moved same => capped (same ▸ answered)
    cases decided : writeTurn bytes.length written answer with
    | again following =>
      rw [decided] at turn
      obtain ⟨further, onward⟩ := turn
      refine ⟨further, ?_⟩
      simp only [writesMade_append, writesMade_cons, writesMade_nil]
      omega
    | stop outcome =>
      rw [decided] at turn
      apply Script.tells_done
      intro done
      have last := turn done
      simp only [writesMade_append, writesMade_cons, writesMade_nil]
      omega

/-- A record that was saved took as many writes as the limit on transfers makes of its two bytes. -/
theorem tells_persist_writes (capped : conduct.MovesUpTo cap) (target : Target) (record : Record) :
    (target.persist handle record).Tells conduct lifecycle world fun taken outcome _ _ =>
      outcome = .ok () → writesMade taken = writesFor cap 2 := by
  unfold Target.persist
  apply Guarded.tells_bind
  apply Guarded.tells_require
  apply (tells_writeFull_writes capped record.encode).mono
  intro early outcome middle counted
  cases outcome with
  | error error =>
    intro failed
    cases failed
  | ok done =>
    have written : writesMade early = writesFor cap 2 := counted rfl
    simp only
    split
    · apply Guarded.tells_call
      intro answer storage answered _
      simp [written, Taken.moves]
    · apply Guarded.tells_pure
      intro _
      simpa using written

/-- Saving a record writes it once. -/
theorem tells_saving_writes (capped : conduct.MovesUpTo cap) (target : Target) (record : Record) :
    (do Target.persist target handle record; return record : Guarded Record).Tells conduct lifecycle
      world fun taken outcome _ _ => ∀ other, outcome = .ok other →
        writesMade taken = writesFor cap 2 := by
  apply Guarded.tells_bind
  apply (tells_persist_writes capped target record).mono
  intro taken outcome left after counted
  cases outcome with
  | error error =>
    intro other failed
    cases failed
  | ok saved =>
    apply Guarded.tells_pure
    intro other _
    rw [List.append_nil]
    exact counted rfl

/-- Whether what is at a path lacks a flag: there is no file, or it is empty, or it has one byte. -/
def lacksFlags (content : Option (List UInt8)) : Bool := decide ((content.getD []).length < 2)

/-- An opened marker that lacked a flag is written, and any other is left as it is. -/
theorem tells_normalize_writes {bytes : List UInt8} (capped : conduct.MovesUpTo cap) (target : Target)
    (loads : (Target.load handle).Tells conduct world fun _ outcome _ =>
      ∀ loaded, outcome = .ok loaded →
        loaded = (Layout.ofSize bytes.length, Record.decode? bytes)) :
    (target.normalize handle).Tells conduct lifecycle world fun taken outcome _ _ =>
      ∀ record, outcome = .ok record →
        writesMade taken = if lacksFlags (some bytes) then writesFor cap 2 else 0 := by
  unfold Target.normalize
  apply Guarded.tells_bind
  apply Guarded.tells_require
  apply ((tells_load target.config).and loads).mono
  intro early outcome middle told
  obtain ⟨⟨-, unwritten, -⟩, loaded⟩ := told
  cases outcome with
  | error error =>
    intro record failed
    cases failed
  | ok found =>
    have standing := loaded found rfl
    subst standing
    match bytes with
    | [] =>
      apply (tells_saving_writes capped target .clean).mono
      intro late outcome left after counted record done
      simp [unwritten.writesMade, counted record done, lacksFlags]
    | [dirty] =>
      apply Guarded.tells_bind
      apply (tells_persist_writes capped target _).mono
      intro late outcome left after counted
      cases outcome with
      | error error =>
        intro record failed
        cases failed
      | ok saved =>
        apply Guarded.tells_bind
        apply Guarded.tells_emit
        apply Guarded.tells_pure
        intro record _
        simp [unwritten.writesMade, counted rfl, lacksFlags, Taken.moves]
    | dirty :: rebuild :: rest =>
      apply Guarded.tells_pure
      intro record _
      have long : lacksFlags (some (dirty :: rebuild :: rest)) = false := by
        simp [lacksFlags]
      rw [long, List.append_nil, unwritten.writesMade]
      rfl

/-! ## Operations -/

/-- Taking an open marker over makes the writes of preparing its record. -/
theorem tells_takeOver_writes {target : Target} {prepare : Guarded Record}
    {event : Record → Bool → Event} {ready : World σ → Prop} {count : Nat}
    (locks : (target.acquireLock handle).Tells conduct lifecycle world fun _ outcome _ after =>
      ∀ locked, outcome = .ok locked → ready after)
    (prepares : ∀ {current middle}, ready middle →
      prepare.Tells conduct current middle fun taken outcome _ _ =>
        ∀ record, outcome = .ok record → writesMade taken = count) :
    (Guarded.closingOnFailure handle do
      let locked ← Target.acquireLock target handle
      let record ← prepare
      Target.publish record
      Target.adopt handle locked
      Guarded.emit (event record locked)).Tells conduct lifecycle world fun taken outcome _ _ =>
        outcome = .ok () → writesMade taken = count := by
  apply Guarded.tells_closingOnFailure
  apply Guarded.tells_bind
  apply ((tells_acquireLock target).and locks).mono
  intro locking outcome left middle told
  obtain ⟨⟨-, -, plain, -⟩, taken⟩ := told
  cases outcome with
  | error error =>
    intro failed
    cases failed
  | ok locked =>
    apply Guarded.tells_bind
    apply (prepares (taken locked rfl)).mono
    intro preparing outcome left last counted
    cases outcome with
    | error error =>
      intro failed
      cases failed
    | ok record =>
      apply (tells_settle record locked (event record locked)).mono
      intro settling outcome left after told
      obtain ⟨rfl, -, -, unwritten, -⟩ := told
      intro _
      simp [plain.writesMade, counted record rfl, unwritten.writesMade]

/-- Creating a marker writes its first record and nothing else. -/
theorem tells_create_writes (capped : conduct.MovesUpTo cap) (target : Target) :
    target.create.Tells conduct world fun taken outcome _ =>
      outcome = .ok () → writesMade taken = writesFor cap 2 := by
  rw [Target.create_eq]
  apply Guarded.tells_script
  apply Guarded.tells_bind
  apply Guarded.tells_ensureNotOpen
  · intro opened failed
    cases failed
  intro notOpen
  apply Guarded.tells_bind
  apply (tells_clear target).mono
  intro clearing outcome left cleared told
  obtain ⟨-, -, cleaned, -⟩ := told
  cases outcome with
  | error error =>
    intro failed
    cases failed
  | ok done =>
    unfold Target.make
    apply Guarded.tells_bind
    apply Guarded.tells_ask
    intro answer storage answered
    cases answer with
    | error cause =>
      apply Guarded.tells_throw
      intro failed
      cases failed
    | ok made =>
      apply Guarded.tells_bind
      apply Guarded.tells_modify
      apply Guarded.tells_bind
      apply Guarded.tells_call
      intro answer storage answered
      cases answer with
      | error cause =>
        intro failed
        cases failed
      | ok handle =>
        simp only [takeOver_saving]
        have locks : ∀ {current} {before : World σ}, (target.acquireLock handle).Tells conduct current
            before fun _ outcome _ _ => ∀ locked, outcome = .ok locked → True :=
          (tells_acquireLock target).mono fun _ _ _ _ _ _ _ => trivial
        apply (tells_takeOver_writes locks fun _ => tells_saving_writes capped target .created).mono
        intro taking outcome left after counted done
        simp [cleaned.writesMade, counted done, Taken.moves]

/-- Letting go of a marker writes nothing. -/
theorem tells_closeMarker_writes (target : Target) :
    target.closeMarker.Tells conduct world fun taken _ _ => writesMade taken = 0 := by
  apply (tells_closeMarker target).mono
  intro taken outcome after told
  exact told.2.1.writesMade

theorem tells_delete_writes (target : Target) :
    target.delete.Tells conduct world fun taken _ _ => writesMade taken = 0 := by
  apply (tells_delete target).mono
  intro taken outcome after told
  exact told.2.1.writesMade

/-- A transition that changes its flag writes the changed record and nothing else. -/
theorem tells_transition_writes (capped : conduct.MovesUpTo cap) (target : Target) (flag : Flag)
    (value : Bool) (changes : world.cached.get flag ≠ value) :
    (target.transition flag value).Tells conduct world fun taken outcome _ =>
      outcome = .ok () → writesMade taken = writesFor cap 2 := by
  unfold Target.transition
  apply Script.tells_bind
  apply Script.tells_load
  rw [if_neg changes]
  apply Guarded.tells_script
  apply Guarded.tells_bind
  apply Guarded.tells_lift
  apply Script.tells_load
  simp only [if_neg changes]
  apply Guarded.tells_bind
  apply Guarded.tells_get
  cases held : world.lifecycle.handle with
  | none =>
    simp only [held]
    apply Guarded.tells_throw
    intro failed
    cases failed
  | some handle =>
    simp only [held]
    apply Guarded.tells_bind
    apply Guarded.tells_lift
    apply Script.tells_load
    apply Guarded.tells_bind
    apply Guarded.tells_lift
    apply Script.tells_load
    apply Guarded.tells_bind
    apply (tells_persist_writes capped target (world.cached.set flag value)).mono
    intro saving outcome left middle counted
    cases outcome with
    | error error =>
      intro failed
      cases failed
    | ok saved =>
      have written := counted rfl
      apply Guarded.tells_bind
      apply Guarded.tells_lift
      apply Script.tells_store
      apply Guarded.tells_emit
      intro _
      simp [written, Taken.moves]

/-- A transition whose flag has its value already looks at the flag and does nothing else, whatever state
the store is in: it makes no call at all. -/
theorem tells_transition_idle (target : Target) {flag : Flag} {value : Bool}
    (same : world.cached.get flag = value) :
    (target.transition flag value).Tells conduct world fun taken outcome after =>
      taken = [⟨.load flag, value⟩] ∧ outcome = .ok () ∧ after = world := by
  unfold Target.transition
  apply Script.tells_bind
  apply Script.tells_load
  rw [if_pos same]
  apply Script.tells_done
  subst same
  exact ⟨rfl, rfl, rfl⟩

end CrashMarker
