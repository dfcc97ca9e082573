/-
Module: CrashMarker.Proofs.Memory.Faulted
Purpose: A memory under observation, whose calls are made to fail, behaves as an unreliable one.
Main exports: Fault.Failing, Monitored.Failing, Monitored.views_unreliable
-/
import CrashMarker.Proofs.Conducts
import CrashMarker.Storage.Monitored

namespace CrashMarker

variable {failures : StorageError → Prop}

/-- A fault that lets a call through, or makes it fail with one of the given errors, be it before or
after it has taken effect.  A feigned answer is neither. -/
def Fault.Failing (failures : StorageError → Prop) : Fault → Prop
  | .none => True
  | .fail error _ => ∀ path, failures (error.at path)
  | .feign _ => False

namespace Monitored

/-- Every fault in store makes calls fail in one of the given ways. -/
def Failing (failures : StorageError → Prop) {σ : Type} (monitored : Monitored σ) : Prop :=
  ∀ name, ∀ fault ∈ (monitored.faults.get? name).getD [], fault.Failing failures

theorem failing_without_faults {σ : Type} (storage : σ) :
    ({ storage } : Monitored σ).Failing failures :=
  fun _ _ member => absurd member List.not_mem_nil

theorem Failing.set {σ : Type} {monitored : Monitored σ} (failing : monitored.Failing failures)
    (name : CallName) {faults : List Fault} (each : ∀ fault ∈ faults, fault.Failing failures) :
    ({ monitored with faults := monitored.faults.set name faults } : Monitored σ).Failing
      failures := by
  intro other fault member
  simp only [Table.get?_set] at member
  split at member
  · exact each fault member
  · exact failing other fault member

theorem storage_nextFault {σ : Type} (monitored : Monitored σ) (name : CallName) :
    (monitored.nextFault name).2.storage = monitored.storage := by
  unfold nextFault
  split <;> rfl

/-- The next fault is one of those in store, if it is one at all, and the others are left. -/
theorem Failing.nextFault {σ : Type} {monitored : Monitored σ}
    (failing : monitored.Failing failures) (name : CallName) :
    (monitored.nextFault name).1.Failing failures ∧
      (monitored.nextFault name).2.Failing failures := by
  unfold Monitored.nextFault
  split
  next fault faults found =>
    have each : ∀ other ∈ fault :: faults, other.Failing failures := by
      intro other member
      apply failing name
      rw [found]
      exact member
    exact ⟨each fault List.mem_cons_self,
      failing.set name fun other member => each other (List.mem_cons_of_mem _ member)⟩
  next => exact ⟨trivial, failing⟩

/-- An answer that is kept from the caller leaves what an unseen answer leaves. -/
theorem forwardUnseen_eq (monitored : Monitored Memory) (request : Request) :
    (monitored.forwardUnseen request).2 = { monitored with
      storage := (monitored.storage.answer request).2.disowned request
        (monitored.storage.answer request).1 } := by
  unfold forwardUnseen forward
  cases request with
  | openFile path =>
    simp only [Storage.answer]
    cases monitored.storage.answer (.openFile path) with
    | mk answer after => cases answer <;> rfl
  | _ => rfl

/-- Under such a fault a call is answered as an unreliable memory may answer it. -/
theorem underFault_unreliable (monitored : Monitored Memory) (request : Request) {fault : Fault}
    (failing : fault.Failing failures) :
    Memory.Unreliable failures request monitored.storage
        (monitored.underFault request fault).1
        (monitored.underFault request fault).2.2.storage ∧
      (monitored.underFault request fault).2.2.faults = monitored.faults := by
  cases fault with
  | none => exact ⟨Memory.unreliable_of_honest failures _ _ _ _ rfl, rfl⟩
  | fail error afterwards =>
    cases afterwards with
    | false => exact ⟨.refused (failing request.path), rfl⟩
    | true =>
      have left := monitored.forwardUnseen_eq request
      constructor
      · change Memory.Unreliable failures request monitored.storage
          (.error (error.at request.path)) (monitored.forwardUnseen request).2.storage
        rw [left]
        exact .unseen monitored.storage.maxTransfer monitored.storage.interrupts rfl
          (failing request.path)
      · change (monitored.forwardUnseen request).2.faults = _
        rw [left]
  | feign value => exact failing.elim

/-- A memory with failing faults in store is seen as an unreliable one. -/
theorem views_unreliable : Views (Conduct.honest (Monitored Memory)) (Failing failures)
    Monitored.storage (Memory.Unreliable failures) where
  answers := by
    intro request before answer after failing answered
    cases answered
    obtain ⟨one, others⟩ := failing.nextFault request.name
    obtain ⟨allowed, kept⟩ :=
      (before.nextFault request.name).2.underFault_unreliable request one
    rw [storage_nextFault] at allowed
    refine ⟨?_, allowed⟩
    intro name fault member
    apply others name
    rw [← kept]
    exact member
  closes _ _ failing := ⟨failing, rfl⟩

end Monitored

end CrashMarker
