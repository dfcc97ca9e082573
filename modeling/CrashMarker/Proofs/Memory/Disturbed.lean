/-
Module: CrashMarker.Proofs.Memory.Disturbed
Purpose: A memory whose transfers are limited and interrupted anew at any moment, but never fail.
Main exports: Memory.Calm, Disturbed, Disturbed.views, Disturbed.patient, Memory.patient
-/
import CrashMarker.Proofs.Conducts
import CrashMarker.Proofs.Patience

namespace CrashMarker

namespace Memory

/-- The unreliable memory on which no call fails: transfers are limited and interrupted at will. -/
abbrev Calm : Conduct Memory := Unreliable fun _ => False

/-- A memory that answers as it does is calm in particular. -/
theorem views_calm : Views (Conduct.honest Memory) (fun _ => True) id Calm where
  answers _ answered := ⟨trivial, unreliable_of_honest _ _ _ _ _ answered⟩
  closes _ _ _ := ⟨trivial, rfl⟩

/-! ## How often a memory makes an operation try again -/

variable {memory after : Memory}

theorem patience_withObject {α : Type} {handle : Handle} {answer : Except StorageError α}
    {body : ObjectId → FileObject → Except StorageError α × Memory}
    (kept : ∀ object file, (body object file).2.patience ≤ memory.patience)
    (answered : memory.withObject handle body = (answer, after)) :
    after.patience ≤ memory.patience := by
  unfold withObject at answered
  split at answered
  · cases answered
    exact Nat.le_refl _
  · split at answered
    · cases answered
      exact Nat.le_refl _
    next object _ _ file _ =>
      have less := kept object file
      rw [answered] at less
      exact less

/-- An answer that says interrupted comes from where the interruptions are counted. -/
theorem interrupted_withObject {α : Type} {handle : Handle} {cause : StorageError}
    {body : ObjectId → FileObject → Except StorageError α × Memory}
    (counted : ∀ object file, body object file = (.error cause, after) →
      after.patience < memory.patience)
    (answered : memory.withObject handle body = (.error cause, after))
    (interrupted : cause.isInterrupted) : after.patience < memory.patience := by
  unfold withObject at answered
  split at answered
  · cases answered
    cases interrupted
  · split at answered
    · cases answered
      cases interrupted
    · exact counted _ _ answered

/-- A removal that fails, except for want of a file, uses up some patience. -/
theorem patience_remove {path : Path} {answer : Except StorageError Unit}
    (answered : memory.remove path = (answer, after)) :
    after.patience ≤ memory.patience ∧ ∀ cause, answer = .error cause →
      (∀ missing, cause ≠ .notFound missing) → after.patience < memory.patience := by
  unfold remove at answered
  split at answered
  next races count =>
    cases answered
    have less : Memory.patience { memory.unlink path with racingRemoves := races } <
        memory.patience := by
      simp only [patience, unlink, count]
      omega
    exact ⟨Nat.le_of_lt less, fun _ _ _ => less⟩
  next none =>
    split at answered
    · cases answered
      exact ⟨Nat.le_refl _, fun cause same other => absurd (Except.error.inj same.symm) (other _)⟩
    · split at answered
      next failures count =>
        cases answered
        have less : Memory.patience { memory with failingRemoves := failures } <
            memory.patience := by
          simp only [patience, count]
          omega
        exact ⟨Nat.le_of_lt less, fun _ _ _ => less⟩
      next =>
        cases answered
        refine ⟨Nat.le_refl _, ?_⟩
        intro cause impossible
        cases impossible

/-- Interruptions and refused removals are all that a memory makes an operation try again for. -/
theorem patient : Patient (Conduct.honest Memory) patience where
  calls := by
    intro request before answer after answered
    change before.answer request = _ at answered
    cases request with
    | present path =>
      cases answered
      exact Nat.le_refl _
    | createNew path =>
      simp only [Memory.answer, createNew] at answered
      split at answered <;> cases answered <;> exact Nat.le_refl _
    | remove path => exact (patience_remove answered).1
    | openFile path =>
      simp only [Memory.answer, openFile] at answered
      split at answered
      · cases answered
        exact Nat.le_refl _
      · split at answered <;> cases answered <;> exact Nat.le_refl _
    | readAt handle offset count =>
      refine patience_withObject (fun object file => ?_) answered
      split
      next interrupts count =>
        simp only [patience, count]
        omega
      next => exact Nat.le_refl _
    | writeAt handle offset bytes =>
      refine patience_withObject (fun object file => ?_) answered
      split
      · exact Nat.le_refl _
      · split
        next interrupts count =>
          simp only [patience, count]
          omega
        next => exact Nat.le_refl _
    | size handle => exact patience_withObject (fun _ _ => Nat.le_refl _) answered
    | sync handle => exact patience_withObject (fun _ _ => Nat.le_refl _) answered
    | tryLock handle =>
      refine patience_withObject (fun object file => ?_) answered
      cases file.owner <;> exact Nat.le_refl _
    | unlock handle => exact patience_withObject (fun _ _ => Nat.le_refl _) answered
  closes := by
    intro handle memory
    change (memory.close handle).patience ≤ _
    unfold close
    split <;> exact Nat.le_refl _
  reads := by
    intro handle offset count before cause after answered interrupted
    refine interrupted_withObject (fun object file answered => ?_) answered interrupted
    split at answered
    next interrupts count =>
      cases answered
      simp only [patience, count]
      omega
    next => cases answered
  writes := by
    intro handle offset bytes before cause after answered interrupted
    refine interrupted_withObject (fun object file answered => ?_) answered interrupted
    split at answered
    · cases answered
    · split at answered
      next interrupts count =>
        cases answered
        simp only [patience, count]
        omega
      next => cases answered
  removes := by
    intro path before cause after answered other
    exact (patience_remove answered).2 cause rfl other

end Memory

/-! ## Interruptions that come at any moment -/

/-- What somebody makes of the transfers to come. -/
structure Pace where
  maxTransfer : Nat
  interrupts : Nat
deriving Repr, DecidableEq, Inhabited

/-- A memory together with what happens to its pace before each of the next calls, if anything
does. -/
structure Disturbed where
  memory : Memory
  schedule : List (Option Pace) := []
deriving Repr, DecidableEq, Inhabited

namespace Disturbed

/-- The memory as the next call finds it. -/
def found (disturbed : Disturbed) : Memory :=
  match disturbed.schedule with
  | some pace :: _ => disturbed.memory.paced pace.maxTransfer pace.interrupts
  | _ => disturbed.memory

instance : Storage Disturbed where
  answer request disturbed :=
    let (answer, memory) := disturbed.found.answer request
    (answer, { memory, schedule := disturbed.schedule.tail })
  close handle disturbed := { disturbed with memory := disturbed.memory.close handle }

/-- How many interruptions are still to be asked for. -/
def upcoming : List (Option Pace) → Nat
  | [] => 0
  | none :: rest => upcoming rest
  | some pace :: rest => pace.interrupts + upcoming rest

/-- The most calls that can be answered with an error that makes an operation try again. -/
def patience (disturbed : Disturbed) : Nat :=
  disturbed.memory.patience + upcoming disturbed.schedule

/-- Disturbances change nothing about a memory but its pace. -/
theorem exists_paced (disturbed : Disturbed) :
    ∃ amount interrupts, disturbed.found = disturbed.memory.paced amount interrupts := by
  unfold found
  split
  next pace rest same => exact ⟨pace.maxTransfer, pace.interrupts, rfl⟩
  next => exact ⟨disturbed.memory.maxTransfer, disturbed.memory.interrupts, rfl⟩

/-- A call on a disturbed memory is a call on the memory as it finds it. -/
theorem honest_found {request : Request} {before after : Disturbed} {answer : request.Answer}
    (answered : Conduct.honest Disturbed request before answer after) :
    Conduct.honest Memory request before.found answer after.memory ∧
      after.schedule = before.schedule.tail := by
  cases answered
  exact ⟨rfl, rfl⟩

/-- A disturbed memory is seen as a calm one. -/
theorem views_calm :
    Views (Conduct.honest Disturbed) (fun _ => True) Disturbed.memory Memory.Calm where
  answers := by
    intro request before answer after _ answered
    obtain ⟨amount, interrupts, same⟩ := before.exists_paced
    have told := (honest_found answered).1
    rw [same] at told
    exact ⟨trivial, .served amount interrupts told⟩
  closes _ _ _ := ⟨trivial, rfl⟩

/-- What the next disturbance asks for has been reckoned with. -/
theorem patience_found (disturbed : Disturbed) :
    disturbed.found.patience + upcoming disturbed.schedule.tail ≤ disturbed.patience := by
  unfold found patience
  match disturbed.schedule with
  | [] => exact Nat.le_refl _
  | none :: rest => exact Nat.le_refl _
  | some pace :: rest =>
    simp only [Memory.patience, Memory.paced, upcoming, List.tail_cons]
    omega

/-- Interruptions that are asked for only so many times run out. -/
theorem patient : Patient (Conduct.honest Disturbed) patience where
  calls := by
    intro request before answer after answered
    obtain ⟨told, onward⟩ := honest_found answered
    have kept := Memory.patient.calls told
    have whole := before.patience_found
    rw [patience, onward]
    omega
  closes := by
    intro handle storage
    exact Nat.add_le_add_right Memory.patient.closes _
  reads := by
    intro handle offset count before cause after answered interrupted
    obtain ⟨told, onward⟩ := honest_found answered
    have less := Memory.patient.reads told interrupted
    have whole := before.patience_found
    rw [patience, onward]
    omega
  writes := by
    intro handle offset bytes before cause after answered interrupted
    obtain ⟨told, onward⟩ := honest_found answered
    have less := Memory.patient.writes told interrupted
    have whole := before.patience_found
    rw [patience, onward]
    omega
  removes := by
    intro path before cause after answered other
    obtain ⟨told, onward⟩ := honest_found answered
    have less := Memory.patient.removes told other
    have whole := before.patience_found
    rw [patience, onward]
    omega

end Disturbed

end CrashMarker
