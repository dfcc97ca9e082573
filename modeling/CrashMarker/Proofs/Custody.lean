/-
Module: CrashMarker.Proofs.Custody
Purpose: Between operations, a lock is owned by the stores that know of it and by nobody else.
Main exports: Grip.TrueOf, Memory.Held, Memory.Held.passes, Fleet.Arises, Fleet.locks_known
-/
import Mathlib.Logic.Function.Basic
import CrashMarker.Proofs.Exclusion
import CrashMarker.Proofs.Memory.Faulted
import CrashMarker.Proofs.Memory.Locks
import CrashMarker.Proofs.Usability

namespace CrashMarker

/-!
Everyone who uses a memory has a hand on it.  The hands of all together account for every lock, and each
is on a handle of its own.  One action changes the hand of whoever takes it as the answer tells, and
leaves all others as they are, although calls may fail after they have taken effect: what a failed call
has done to a lock is unknown to the hand, and a handle that was opened in vain is closed at once.
-/

/-! ## Hands -/

namespace Grip

/-- What a hand knows is true of the memory. -/
def TrueOf (memory : Memory) : Grip → Prop
  | nothing => True
  | on handle known => ∃ object, memory.handles.get? handle = some object ∧
    ∀ locked, known = some locked → (memory.owner object = some handle ↔ locked = true)
  | astray => False

/-- The hand when nothing is known of the lock any more. -/
def forget : Grip → Grip
  | nothing => nothing
  | on handle _ => on handle none
  | astray => astray

variable {grip : Grip}

/-- A hand that has gone astray is lost for good. -/
theorem step_astray (step : Taken) : astray.step step = astray := by
  unfold Grip.step
  split <;> rfl

/-- Whoever has gone astray does not come back. -/
theorem along_astray (taken : List Taken) : astray.along taken = astray := by
  induction taken with
  | nil => rfl
  | cons step taken inductionHypothesis => rw [along_cons, step_astray, inductionHypothesis]

theorem step_ne_astray {step : Taken} {taken : List Taken}
    (straight : grip.along (step :: taken) ≠ astray) : grip.step step ≠ astray := by
  intro lost
  rw [along_cons, lost, along_astray] at straight
  exact straight rfl

/-- Only calls that are about locks change a hand. -/
theorem step_of_other {request : Request} (other : request.aboutLocks = false)
    (answer : request.Answer) : grip.step ⟨.ask request, answer⟩ = grip := by
  cases request with
  | openFile => cases other
  | tryLock => cases other
  | unlock => cases other
  | _ => rfl

/-- To know nothing of the lock is what is left when the knowledge is forgotten. -/
theorem known_none {handle : Handle} (locked : Option Bool) :
    grip.known handle none = (grip.known handle locked).forget := by
  cases grip with
  | nothing => rfl
  | astray => rfl
  | on own known => by_cases same : handle = own <;> simp [Grip.known, Grip.forget, same]

/-- A hand that did not go astray is on the handle that the action was about. -/
theorem known_of_ne_astray {handle : Handle} {locked : Option Bool}
    (straight : grip.known handle locked ≠ astray) :
    (∃ known, grip = on handle known) ∧ grip.known handle locked = on handle locked := by
  cases grip with
  | nothing => exact absurd rfl straight
  | astray => exact absurd rfl straight
  | on own known =>
    unfold Grip.known at straight ⊢
    by_cases same : handle = own
    · subst same
      simp
    · simp [same] at straight

/-- Whoever closes a handle and does not go astray has had it in hand. -/
theorem on_of_close {handle : Handle} (straight : grip.step ⟨.close handle, ()⟩ ≠ astray) :
    ∃ known, grip = on handle known := by
  cases grip with
  | nothing => exact absurd rfl straight
  | astray => exact absurd rfl straight
  | on own known =>
    by_cases same : handle = own
    · exact ⟨known, by rw [same]⟩
    · simp [Grip.step, same] at straight

/-- A call that has failed leaves the hand as it is, but for what is known of the lock. -/
theorem step_of_error {request : Request} {cause : StorageError}
    (straight : grip.step ⟨.ask request, .error cause⟩ ≠ astray) :
    grip.step ⟨.ask request, .error cause⟩ = grip ∨
      grip.step ⟨.ask request, .error cause⟩ = grip.forget := by
  have known : ∀ {handle}, grip.known handle none ≠ astray →
      grip.known handle none = grip.forget := by
    intro handle straight
    obtain ⟨⟨known, rfl⟩, same⟩ := known_of_ne_astray straight
    exact same
  cases request with
  | tryLock handle => exact Or.inr (known straight)
  | unlock handle => exact Or.inr (known straight)
  | _ => exact Or.inl rfl

end Grip

/-! ## The memory under all hands -/

namespace Memory

/-- Other handles than the given one are open on the same files, and own the same locks. -/
structure Spares (memory : Memory) (handle : Handle) (after : Memory) : Prop where
  handles : ∀ other, other ≠ handle → after.handles.get? other = memory.handles.get? other
  owners : ∀ other, other ≠ handle → ∀ object,
    after.owner object = some other ↔ memory.owner object = some other

/-- Each hand knows the truth, no two hands are on one handle, and every owner of a lock is in some
hand. -/
structure Held {ι : Type} (hands : ι → Grip) (memory : Memory) : Prop where
  sound : memory.Sound
  known : ∀ index, (hands index).TrueOf memory
  apart : ∀ {one other handle known alsoKnown}, hands one = .on handle known →
    hands other = .on handle alsoKnown → one = other
  owned : ∀ {object handle}, memory.owner object = some handle →
    ∃ index known, hands index = .on handle known

variable {ι : Type} {hands : ι → Grip} {index : ι} {memory after : Memory} {handle : Handle}
  {request : Request}

theorem Spares.of_same (handles : after.handles = memory.handles)
    (owners : after.owner = memory.owner) : memory.Spares handle after :=
  ⟨fun _ _ => by rw [handles], fun _ _ _ => by rw [owners]⟩

/-- Only locks change hands that the handle has owned or has got. -/
theorem Spares.of_owners
    (handles : ∀ other, other ≠ handle → after.handles.get? other = memory.handles.get? other)
    (owners : ∀ object, after.owner object ≠ memory.owner object →
      (∀ own, after.owner object = some own → own = handle) ∧
        ∀ own, memory.owner object = some own → own = handle) :
    memory.Spares handle after := by
  refine ⟨handles, fun other different object => ?_⟩
  by_cases same : after.owner object = memory.owner object
  · rw [same]
  · obtain ⟨now, before⟩ := owners object same
    exact iff_of_false (fun owns => different (now other owns)) fun owned =>
      different (before other owned)

/-- What a hand knows stays true when another handle is used. -/
theorem Spares.trueOf {grip : Grip} (spares : memory.Spares handle after)
    (other : ∀ known, grip ≠ .on handle known) (trueOf : grip.TrueOf memory) :
    grip.TrueOf after := by
  cases grip with
  | nothing => trivial
  | astray => exact trueOf
  | on own known =>
    have different : own ≠ handle := by
      rintro rfl
      exact other known rfl
    obtain ⟨object, bound, owns⟩ := trueOf
    exact ⟨object, by rw [spares.handles own different, bound], fun locked isKnown =>
      (spares.owners own different object).trans (owns locked isKnown)⟩

namespace Held

/-- A change that nobody notices. -/
theorem same (held : memory.Held hands) (sound : after.Sound)
    (handles : ∀ handle, after.handles.get? handle = memory.handles.get? handle)
    (owners : ∀ object, after.owner object = memory.owner object) : after.Held hands where
  sound := sound
  known index := by
    have known := held.known index
    generalize hands index = grip at known ⊢
    cases grip with
    | nothing => trivial
    | astray => exact known
    | on handle known => simpa only [Grip.TrueOf, handles, owners] using known
  apart := held.apart
  owned owns := held.owned (by rw [← owners, owns])

theorem paced (held : memory.Held hands) (amount interrupts : Nat) :
    (memory.paced amount interrupts).Held hands :=
  held.same (held.sound.of_tables rfl rfl rfl rfl rfl) (fun _ => rfl) (fun _ => rfl)

variable [DecidableEq ι]

/-- A change about one handle, which is in the hand of whoever makes it or is not open yet. -/
theorem update {grip : Grip} (held : memory.Held hands) (sound : after.Sound)
    (spares : memory.Spares handle after)
    (mine : ∀ other known, hands other = .on handle known → other = index)
    (only : ∀ own known, hands index = .on own known → own = handle)
    (trueOf : grip.TrueOf after) (still : ∀ own known, grip = .on own known → own = handle)
    (kept : ∀ object, after.owner object = some handle → ∃ known, grip = .on handle known) :
    after.Held (Function.update hands index grip) := by
  have others : ∀ {other own known}, Function.update hands index grip other = .on own known →
      other = index ∧ own = handle ∨ other ≠ index ∧ own ≠ handle ∧ hands other = .on own known := by
    intro other own known inHand
    by_cases actor : other = index
    · rw [actor, Function.update_self] at inHand
      exact Or.inl ⟨actor, still own known inHand⟩
    · rw [Function.update_of_ne actor] at inHand
      refine Or.inr ⟨actor, ?_, inHand⟩
      rintro rfl
      exact actor (mine other known inHand)
  constructor
  · exact sound
  · intro other
    by_cases actor : other = index
    · rw [actor, Function.update_self]
      exact trueOf
    · rw [Function.update_of_ne actor]
      exact spares.trueOf (fun known inHand => actor (mine other known inHand)) (held.known other)
  · intro one other own known alsoKnown inHand alsoInHand
    rcases others inHand with ⟨rfl, rfl⟩ | ⟨-, different, first⟩
    · rcases others alsoInHand with ⟨rfl, -⟩ | ⟨-, impossible, -⟩
      · rfl
      · exact absurd rfl impossible
    · rcases others alsoInHand with ⟨-, impossible⟩ | ⟨-, -, second⟩
      · exact absurd impossible different
      · exact held.apart first second
  · intro object owner owns
    by_cases own : owner = handle
    · subst own
      obtain ⟨known, inHand⟩ := kept object owns
      exact ⟨index, known, by rw [Function.update_self, inHand]⟩
    · obtain ⟨other, known, inHand⟩ := held.owned ((spares.owners owner own object).1 owns)
      have different : other ≠ index := by
        rintro rfl
        exact own (only owner known inHand)
      exact ⟨other, known, by rw [Function.update_of_ne different, inHand]⟩

/-- The same for a handle that stays in the hand it is in. -/
theorem update_own {known later : Option Bool} {object : ObjectId} (held : memory.Held hands)
    (inHand : hands index = .on handle known) (sound : after.Sound)
    (spares : memory.Spares handle after) (bound : after.handles.get? handle = some object)
    (owns : ∀ locked, later = some locked → (after.owner object = some handle ↔ locked = true)) :
    after.Held (Function.update hands index (.on handle later)) := by
  refine held.update sound spares (fun other known isOn => held.apart isOn inHand) ?_
    ⟨object, bound, owns⟩ ?_ (fun _ _ => ⟨later, rfl⟩)
  · intro own known isOn
    rw [inHand] at isOn
    cases isOn
    rfl
  · rintro own known ⟨⟩
    rfl

/-- A hand may forget what it knows of its lock. -/
theorem forget (held : memory.Held hands) (index : ι) :
    memory.Held (Function.update hands index (hands index).forget) := by
  cases inHand : hands index with
  | nothing => rwa [Grip.forget, ← inHand, Function.update_eq_self]
  | astray => rwa [Grip.forget, ← inHand, Function.update_eq_self]
  | on handle known =>
    have trueOf := held.known index
    rw [inHand] at trueOf
    obtain ⟨object, bound, -⟩ := trueOf
    change memory.Held (Function.update hands index (.on handle none))
    exact held.update_own inHand held.sound (.of_same rfl rfl) bound nofun

/-- A call that has failed, with effect or without, leaves a hand that does not know about its lock. -/
theorem failed {cause : StorageError} (held : memory.Held hands)
    (straight : (hands index).step ⟨.ask request, .error cause⟩ ≠ .astray) :
    memory.Held (Function.update hands index ((hands index).step ⟨.ask request, .error cause⟩)) := by
  rcases Grip.step_of_error straight with same | forgot
  · rwa [same, Function.update_eq_self]
  · rw [forgot]
    exact held.forget index

/-- A handle that was not open yet comes into an empty hand. -/
theorem opened {object : ObjectId} (held : memory.Held hands) (empty : hands index = .nothing)
    (fresh : memory.handles.get? handle = none) (sound : after.Sound)
    (handles : after.handles = memory.handles.set handle object)
    (owners : after.owner = memory.owner) :
    after.Held (Function.update hands index (.on handle (some false))) := by
  -- What is in a hand is open, and what owns a lock is open, but the new handle was not.
  have unowned : ∀ other, memory.owner other ≠ some handle := by
    intro other owns
    rw [held.sound.bound_of_owner owns] at fresh
    cases fresh
  have unheld : ∀ other known, hands other ≠ .on handle known := by
    intro other known isOn
    have trueOf := held.known other
    rw [isOn] at trueOf
    obtain ⟨object, bound, -⟩ := trueOf
    rw [bound] at fresh
    cases fresh
  have spares : memory.Spares handle after := by
    refine ⟨fun other different => ?_, fun _ _ _ => by rw [owners]⟩
    rw [handles, Table.get?_set_of_ne _ _ different]
  refine held.update sound spares (fun other known isOn => absurd isOn (unheld other known)) ?_
    ⟨object, ?_, ?_⟩ ?_ ?_
  · intro own known isOn
    rw [empty] at isOn
    cases isOn
  · rw [handles, Table.get?_set_self]
  · rintro locked ⟨⟩
    rw [owners]
    exact iff_of_false (unowned object) (by simp)
  · rintro own known ⟨⟩
    rfl
  · intro other owns
    rw [owners] at owns
    exact absurd owns (unowned other)

/-- Something becomes known of the lock of the handle in hand. -/
theorem learns {later : Option Bool} {object : ObjectId} (held : memory.Held hands)
    (straight : (hands index).known handle later ≠ .astray) (sound : after.Sound)
    (spares : memory.Spares handle after) (bound : after.handles.get? handle = some object)
    (owns : ∀ locked, later = some locked → (after.owner object = some handle ↔ locked = true)) :
    after.Held (Function.update hands index ((hands index).known handle later)) := by
  obtain ⟨⟨known, inHand⟩, same⟩ := Grip.known_of_ne_astray straight
  rw [same]
  exact held.update_own inHand sound spares bound owns

/-- Closing the handle in hand empties the hand. -/
theorem close (held : memory.Held hands)
    (straight : (hands index).step ⟨.close handle, ()⟩ ≠ .astray) :
    (memory.close handle).Held
      (Function.update hands index ((hands index).step ⟨.close handle, ()⟩)) := by
  obtain ⟨known, inHand⟩ := Grip.on_of_close straight
  have empty : (Grip.on handle known).step ⟨.close handle, ()⟩ = .nothing := by simp [Grip.step]
  rw [inHand, empty]
  have spares : memory.Spares handle (memory.close handle) := by
    refine .of_owners (fun other different => ?_) fun object changed => ?_
    · rw [handles_close, if_neg different]
    · rw [owner_close held.sound] at changed ⊢
      by_cases owns : memory.owner object = some handle
      · rw [if_pos owns, owns]
        simp
      · rw [if_neg owns] at changed
        exact absurd rfl changed
  refine held.update (held.sound.close handle) spares
    (fun other known isOn => held.apart isOn inHand) ?_ trivial (by simp) ?_
  · intro other known isOn
    rw [inHand] at isOn
    cases isOn
    rfl
  · intro object owns
    rw [owner_close held.sound] at owns
    split at owns
    next => cases owns
    next other => exact absurd owns other

/-- An answer that is seen changes the hand as it tells. -/
theorem served {answer : request.Answer} (held : memory.Held hands)
    (locking : memory.Locking request answer after) (sound : after.Sound)
    (straight : (hands index).step ⟨.ask request, answer⟩ ≠ .astray) :
    after.Held (Function.update hands index ((hands index).step ⟨.ask request, answer⟩)) := by
  cases locking with
  | neutral other handles owners =>
    rw [Grip.step_of_other other, Function.update_eq_self]
    exact held.same sound (fun _ => by rw [handles]) (fun _ => by rw [owners])
  | failed handles owners =>
    exact (held.same sound (fun _ => by rw [handles]) fun _ => by rw [owners]).failed straight
  | opened fresh handles owners =>
    cases inHand : hands index with
    | on own known =>
      rw [inHand] at straight
      exact absurd rfl straight
    | astray =>
      rw [inHand] at straight
      exact absurd rfl straight
    | nothing => exact held.opened inHand fresh sound handles owners
  | @locked own object _ bound free handles owners =>
    have spares : memory.Spares own after := by
      refine .of_owners (fun _ _ => by rw [handles]) fun other changed => ?_
      rw [owners] at changed ⊢
      split at changed
      next here => simp [here, free]
      next => exact absurd rfl changed
    refine held.learns straight sound spares (by rw [handles, bound]) ?_
    rintro locked ⟨⟩
    simp [owners]
  | contended bound owned handles owners =>
    refine held.learns straight sound (.of_same handles owners) (by rw [handles, bound]) ?_
    rintro locked ⟨⟩
    simp [owners, owned]
  | @unlocked own object _ bound handles owners =>
    have spares : memory.Spares own after := by
      refine .of_owners (fun _ _ => by rw [handles]) fun other changed => ?_
      rw [owners] at changed ⊢
      split at changed
      next here => simp [here.1, here.2]
      next => exact absurd rfl changed
    refine held.learns straight sound spares (by rw [handles, bound]) ?_
    rintro locked ⟨⟩
    simp [owners]

/-- An answer that tells about a lock is forgotten where it is not seen. -/
theorem forgotten {answer : request.Answer} {cause : StorageError} (held : memory.Held hands)
    (locking : memory.Locking request answer after) (sound : after.Sound)
    (straight : (hands index).step ⟨.ask request, .error cause⟩ ≠ .astray)
    (forgets : (hands index).step ⟨.ask request, .error cause⟩ =
      ((hands index).step ⟨.ask request, answer⟩).forget) :
    after.Held (Function.update hands index ((hands index).step ⟨.ask request, .error cause⟩)) := by
  have seen : (hands index).step ⟨.ask request, answer⟩ ≠ .astray := by
    intro lost
    rw [forgets, lost] at straight
    exact straight rfl
  have forgot := (held.served locking sound seen).forget index
  rwa [Function.update_self, Function.update_idem, ← forgets] at forgot

/-- An answer that nobody sees changes the hand as a failure does. -/
theorem unseen {answer : request.Answer} {cause : StorageError} (held : memory.Held hands)
    (locking : memory.Locking request answer after) (sound : after.Sound)
    (straight : (hands index).step ⟨.ask request, .error cause⟩ ≠ .astray) :
    (after.disowned request answer).Held
      (Function.update hands index ((hands index).step ⟨.ask request, .error cause⟩)) := by
  cases locking with
  | neutral other handles owners =>
    have left : after.disowned request answer = after := by
      cases request with
      | openFile => cases other
      | _ => rfl
    rw [left, Grip.step_of_other other, Function.update_eq_self]
    exact held.same sound (fun _ => by rw [handles]) (fun _ => by rw [owners])
  | @failed _ hidden _ handles owners =>
    have left : after.disowned request (.error hidden) = after := by
      cases request <;> rfl
    rw [left]
    exact (held.same sound (fun _ => by rw [handles]) fun _ => by rw [owners]).failed straight
  | @opened path handle object _ fresh handles owners =>
    have closed : (after.close handle).Held hands := by
      refine held.same (sound.close handle) (fun other => ?_) fun other => ?_
      · rw [handles_close, handles]
        split
        next new => rw [new, fresh]
        next old => exact Table.get?_set_of_ne _ _ old
      · rw [owner_close sound, owners]
        split
        next owns =>
          rw [held.sound.bound_of_owner owns] at fresh
          cases fresh
        next => rfl
    exact closed.failed straight
  | locked bound free handles owners =>
    exact held.forgotten (.locked bound free handles owners) sound straight (Grip.known_none _)
  | contended bound owned handles owners =>
    exact held.forgotten (.contended bound owned handles owners) sound straight (Grip.known_none _)
  | unlocked bound handles owners =>
    exact held.forgotten (.unlocked bound handles owners) sound straight (Grip.known_none _)

/-- What an action of an unreliable memory does to the hand of whoever takes it. -/
theorem action {failures : StorageError → Prop} {world next : World Memory} {action : Action}
    {answer : action.Answer} (held : world.storage.Held hands)
    (allowed : action.Allowed (Unreliable failures) world answer next)
    (straight : (hands index).step ⟨action, answer⟩ ≠ .astray) :
    next.storage.Held (Function.update hands index ((hands index).step ⟨action, answer⟩)) := by
  cases action with
  | ask request =>
    obtain ⟨storage, answered, rfl⟩ := allowed
    cases answered with
    | served amount interrupts answered =>
      have paced := held.paced amount interrupts
      obtain ⟨sound, locking⟩ := locking_of_answer paced.sound answered
      exact paced.served locking sound straight
    | refused => exact held.failed straight
    | unseen amount interrupts answered =>
      have paced := held.paced amount interrupts
      obtain ⟨sound, locking⟩ := locking_of_answer paced.sound answered
      exact paced.unseen locking sound straight
  | close handle =>
    cases allowed
    exact held.close straight
  | _ =>
    cases allowed
    exact (Function.update_eq_self index hands).symm ▸ held

/-- What whoever takes a number of actions has in hand is what the actions tell. -/
theorem passes {α : Type} {failures : StorageError → Prop} {script last : Script α}
    {world next : World Memory} {taken : List Taken} (held : world.storage.Held hands)
    (passes : script.Passes (Unreliable failures) world taken last next)
    (straight : (hands index).along taken ≠ .astray) :
    next.storage.Held (Function.update hands index ((hands index).along taken)) := by
  induction passes generalizing hands with
  | here => exact (Function.update_eq_self index hands).symm ▸ held
  | step acting allowed _ inductionHypothesis =>
    have first := held.action allowed (Grip.step_ne_astray straight)
    have rest := inductionHypothesis first (by rwa [Function.update_self])
    rwa [Function.update_self, Function.update_idem] at rest

end Held

end Memory

/-! ## Whole operations -/

section Operations

variable {σ : Type} {conduct : Conduct σ} {target : Target} {before : Bool}

/-- An attempt to set a marker up ends with the hand as the store knows it. -/
theorem Attempts.hand {name : String} {evidence : Handle → Record → List Taken → Prop}
    {world after : World σ} {taken : List Taken} {outcome : Except StoreError Unit}
    (fits : world.lifecycle.Fits target.config before)
    (attempts : Attempts target name evidence world taken outcome after) :
    (Grip.ofLifecycle world.lifecycle).along taken = Grip.ofLifecycle after.lifecycle := by
  unfold Attempts at attempts
  split at attempts
  · obtain ⟨-, rfl, passive⟩ := attempts
    exact passive.handsOff _
  next notOpen =>
    have letGo := (fits.of_notOpen notOpen).1
    rw [Grip.ofLifecycle_of_letGo letGo]
    generalize after.lifecycle = left at attempts ⊢
    cases attempts with
    | opened _ _ _ hand => exact hand
    | failed _ kept _ _ _ hand =>
      rw [hand, kept]
      exact (Grip.ofLifecycle_of_letGo letGo).symm

/-- A transition leaves the hand alone. -/
theorem Transits.handsOff {flag : Flag} {value : Bool} {world after : World σ} {taken : List Taken}
    {outcome : Except StoreError Unit}
    (transits : Transits target flag value world taken outcome after) : HandsOff taken := by
  cases transits with
  | idle _ _ passive => exact passive.handsOff
  | refused _ _ _ passive => exact passive.handsOff
  | changed _ _ _ _ _ handsOff => exact handsOff
  | failed _ _ _ steady => exact steady.handsOff

variable [Storage σ]

/-- Every operation leaves the store with what it knows to have in hand. -/
theorem Operation.hand {operation : Operation} {store : Store} {storage : σ} {taken : List Taken}
    {outcome : Except StoreError Unit} {world : World σ}
    (fits : store.lifecycle.Fits target.config before)
    (ended : (operation.script target).Ends conduct (store.world storage) taken outcome world) :
    (Grip.ofLifecycle store.lifecycle).along taken = Grip.ofLifecycle world.lifecycle := by
  cases operation with
  | create => exact ((tells_create target).of_ends ended).hand fits
  | openMarker => exact ((tells_openMarker target).of_ends ended).hand fits
  | closeMarker =>
    obtain ⟨-, -, -, -, hand⟩ := (tells_closeMarker target).of_ends ended
    exact hand
  | delete =>
    obtain ⟨-, -, -, -, -, hand⟩ := (tells_delete target).of_ends ended
    exact hand
  | transition flag value =>
    obtain ⟨kept, transits⟩ := (tells_transition target flag value).of_ends ended
    rw [kept]
    exact transits.handsOff _

/-- Looking at an open marker leaves the hand alone. -/
theorem tells_inspectHandle (handle : Handle) (world : World σ) :
    (inspectHandle handle).Tells conduct world fun taken _ _ => HandsOff taken := by
  unfold inspectHandle
  apply Script.tells_bind
  apply Script.tells_ask
  intro size storage answered
  have sized : HandsOff [⟨.ask (.size handle), size⟩] := fun _ => rfl
  cases size with
  | error cause => exact Script.tells_done sized
  | ok size =>
    apply Script.tells_bind
    apply (tells_load .standard).mono
    rintro taken loaded after ⟨steady, -⟩
    have whole := sized.append steady.handsOff
    cases loaded with
    | error error => exact Script.tells_done (by simpa using whole)
    | ok loaded => exact Script.tells_done (by simpa using whole)

/-- Looking at a marker begins and ends with nothing in hand. -/
theorem tells_inspect (path : Path) (world : World σ) :
    (inspect path).Tells conduct world fun taken _ _ => Grip.nothing.along taken = .nothing := by
  unfold inspect
  apply Script.tells_bind
  apply Script.tells_ask
  intro answer storage answered
  match answer with
  | .error cause => exact Script.tells_done rfl
  | .ok false => exact Script.tells_done rfl
  | .ok true =>
    apply Script.tells_bind
    apply Script.tells_ask
    intro answer storage answered
    match answer with
    | .error (.notFound _) => exact Script.tells_done rfl
    | .error (.alreadyExists _) => exact Script.tells_done rfl
    | .error (.io _) => exact Script.tells_done rfl
    | .ok handle =>
      apply Script.tells_bind
      apply (tells_inspectHandle handle _).mono
      intro taken outcome after handsOff
      apply Script.tells_bind
      apply Script.tells_close
      apply Script.tells_done
      simp [Grip.step, handsOff _]

end Operations

/-! ## Stores that share a memory -/

namespace Fleet

variable {ι : Type} [DecidableEq ι] {failures : StorageError → Prop} {fleet : Fleet ι} {index : ι}

/-- What may become of new stores with any targets over one memory whose calls may fail: one after the
other carries out an operation, vanishes and is replaced by a new store, or somebody looks at a marker. -/
inductive Arises (failures : StorageError → Prop) : Fleet ι → Prop where
  | start {targets : ι → Target} {memory : Memory} (sound : memory.Sound)
      (unlocked : ∀ object, memory.owner object = none) :
      Arises failures ⟨fun index => .fresh (targets index), memory⟩
  | operate {fleet : Fleet ι} {index : ι} {operation : Operation}
      {outcome : Except StoreError Unit} {next : Store} {after : Memory}
      (arises : Arises failures fleet)
      (performs : (fleet.stores index).Performs (Memory.Unreliable failures) operation fleet.memory
        outcome next after) :
      Arises failures (fleet.put index ⟨some outcome, next, after⟩)
  | vanish {fleet : Fleet ι} {index : ι} (target : Target) (arises : Arises failures fleet) :
      Arises failures
        (fleet.put index ⟨none, .fresh target, (fleet.stores index).crash fleet.memory⟩)
  | look {fleet : Fleet ι} {path : Path} {taken : List Taken}
      {outcome : Except StoreError Snapshot} {world : World Memory} (arises : Arises failures fleet)
      (ended : (inspect path).Ends (Memory.Unreliable failures) { storage := fleet.memory } taken
        outcome world) :
      Arises failures ⟨fleet.stores, world.storage⟩

/-- The hands of all stores, and that of whoever only looks at a marker. -/
def hands (fleet : Fleet ι) : Option ι → Grip
  | none => .nothing
  | some index => .ofLifecycle (fleet.stores index).lifecycle

/-- The stores know themselves, and their hands account for every lock. -/
structure Orderly (fleet : Fleet ι) : Prop where
  fits : ∀ index, ∃ stranded,
    (fleet.stores index).lifecycle.Fits (fleet.stores index).target.config stranded
  held : fleet.memory.Held fleet.hands

theorem hands_put (obeyed : Obeyed Memory) :
    (fleet.put index obeyed).hands =
      Function.update fleet.hands (some index) (.ofLifecycle obeyed.store.lifecycle) := by
  funext other
  cases other with
  | none => rw [Function.update_of_ne (Option.some_ne_none index).symm]; rfl
  | some other =>
    by_cases same : other = index
    · rw [same, Function.update_self, hands, put_self]
    · rw [Function.update_of_ne fun equal => same (Option.some.inj equal), hands, put_of_ne same]
      rfl

omit [DecidableEq ι] in
/-- New stores hold nothing, and nothing is locked. -/
theorem Orderly.start {targets : ι → Target} {memory : Memory} (sound : memory.Sound)
    (unlocked : ∀ object, memory.owner object = none) :
    Orderly ⟨fun index => .fresh (targets index), memory⟩ where
  fits _ := ⟨false, Lifecycle.fits_fresh⟩
  held := by
    have empty : ∀ index, hands ⟨fun index => Store.fresh (targets index), memory⟩ index = .nothing := by
      intro index
      cases index <;> rfl
    refine ⟨sound, fun index => ?_, fun {one} _ _ _ _ inHand => ?_, fun {object} _ owns => ?_⟩
    · rw [empty]
      trivial
    · rw [empty] at inHand
      cases inHand
    · rw [unlocked] at owns
      cases owns

/-- An operation leaves the hands of all stores accounting for all locks. -/
theorem Orderly.operate {operation : Operation} {outcome : Except StoreError Unit} {next : Store}
    {after : Memory} (orderly : fleet.Orderly)
    (performs : (fleet.stores index).Performs (Memory.Unreliable failures) operation fleet.memory
      outcome next after) :
    (fleet.put index ⟨some outcome, next, after⟩).Orderly := by
  obtain ⟨taken, world, ended, rfl, rfl⟩ := performs
  obtain ⟨before, fits⟩ := orderly.fits index
  have hand := Operation.hand fits ended
  constructor
  · intro other
    by_cases same : other = index
    · rw [same, put_self]
      exact ⟨_, fits.after ended⟩
    · rw [put_of_ne same]
      exact orderly.fits other
  · have straight : (fleet.hands (some index)).along taken ≠ .astray := by
      change (Grip.ofLifecycle (fleet.stores index).lifecycle).along taken ≠ .astray
      rw [hand, Grip.ofLifecycle]
      split <;> simp
    have held := orderly.held.passes ended straight
    rw [hands_put]
    change world.storage.Held (Function.update fleet.hands (some index)
      ((Grip.ofLifecycle (fleet.stores index).lifecycle).along taken)) at held
    rwa [hand] at held

/-- A store that vanishes drops what it has in hand. -/
theorem Orderly.vanish (orderly : fleet.Orderly) (target : Target) :
    (fleet.put index ⟨none, .fresh target, (fleet.stores index).crash fleet.memory⟩).Orderly := by
  constructor
  · intro other
    by_cases same : other = index
    · rw [same, put_self]
      exact ⟨false, Lifecycle.fits_fresh⟩
    · rw [put_of_ne same]
      exact orderly.fits other
  · rw [hands_put]
    change ((fleet.stores index).crash fleet.memory).Held
      (Function.update fleet.hands (some index) .nothing)
    cases holds : (fleet.stores index).lifecycle.handle with
    | none =>
      have empty : fleet.hands (some index) = .nothing := Grip.ofLifecycle_of_letGo holds
      rw [Store.crash_of_letGo holds, ← empty, Function.update_eq_self]
      exact orderly.held
    | some handle =>
      have inHand : fleet.hands (some index) =
          .on handle (some (fleet.stores index).lifecycle.locked) := Grip.ofLifecycle_of_handle holds
      have empty : (fleet.hands (some index)).step ⟨.close handle, ()⟩ = .nothing := by
        simp [inHand, Grip.step]
      rw [Store.crash_of_handle holds, ← empty]
      exact orderly.held.close (by simp [empty])

/-- Whoever looks at a marker lets go of it again. -/
theorem Orderly.look {path : Path} {taken : List Taken} {outcome : Except StoreError Snapshot}
    {world : World Memory} (orderly : fleet.Orderly)
    (ended : (inspect path).Ends (Memory.Unreliable failures) { storage := fleet.memory } taken
      outcome world) : Orderly ⟨fleet.stores, world.storage⟩ where
  fits := orderly.fits
  held := by
    have empty : (fleet.hands none).along taken = .nothing :=
      (tells_inspect path _).of_ends ended
    have straight : (fleet.hands none).along taken ≠ .astray := by simp [empty]
    have held := orderly.held.passes ended straight
    rw [empty] at held
    exact (Function.update_eq_self none fleet.hands) ▸ held

/-- The hands account for all locks in every fleet that arises. -/
theorem Arises.orderly (arises : fleet.Arises failures) : fleet.Orderly := by
  induction arises with
  | start sound unlocked => exact .start sound unlocked
  | operate _ performs inductionHypothesis => exact inductionHypothesis.operate performs
  | vanish target _ inductionHypothesis => exact inductionHypothesis.vanish target
  | look _ ended inductionHypothesis => exact inductionHypothesis.look ended

/-- A lock is owned by a handle exactly if a store has that handle open on the very file and knows that
it has the lock.  Whether a store knows of a lock is whether its handle owns one. -/
theorem locks_known (arises : fleet.Arises failures) :
    (∀ object handle, fleet.memory.owner object = some handle ↔
      ∃ index, (fleet.stores index).lifecycle.handle = some handle ∧
        (fleet.stores index).lifecycle.locked = true ∧
        fleet.memory.handles.get? handle = some object) ∧
    ∀ index, (fleet.stores index).lifecycle.locked = true ↔
      ∃ object handle, (fleet.stores index).lifecycle.handle = some handle ∧
        fleet.memory.owner object = some handle := by
  have orderly := arises.orderly
  -- A handle that a store holds is open on one file, and owns its lock if the store says so.
  have truth : ∀ {index handle}, (fleet.stores index).lifecycle.handle = some handle →
      ∃ object, fleet.memory.handles.get? handle = some object ∧
        (fleet.memory.owner object = some handle ↔ (fleet.stores index).lifecycle.locked = true) := by
    intro index handle holds
    have known := orderly.held.known (some index)
    rw [hands, Grip.ofLifecycle_of_handle holds] at known
    obtain ⟨object, bound, owns⟩ := known
    exact ⟨object, bound, owns _ rfl⟩
  have ofOwner : ∀ {object handle index}, fleet.memory.owner object = some handle →
      (fleet.stores index).lifecycle.handle = some handle →
      (fleet.stores index).lifecycle.locked = true ∧
        fleet.memory.handles.get? handle = some object := by
    intro object handle index owns holds
    have bound := orderly.held.sound.bound_of_owner owns
    obtain ⟨other, alsoBound, told⟩ := truth holds
    rw [bound] at alsoBound
    cases alsoBound
    exact ⟨told.1 owns, bound⟩
  refine ⟨fun object handle => ⟨fun owns => ?_, ?_⟩, fun index => ⟨fun locked => ?_, ?_⟩⟩
  · obtain ⟨index, known, inHand⟩ := orderly.held.owned owns
    cases index with
    | none => cases inHand
    | some index =>
      have holds : (fleet.stores index).lifecycle.handle = some handle := by
        rw [hands, Grip.ofLifecycle] at inHand
        split at inHand
        next => cases inHand
        next own holds =>
          cases inHand
          exact holds
      exact ⟨index, holds, ofOwner owns holds⟩
  · rintro ⟨index, holds, locked, bound⟩
    obtain ⟨other, alsoBound, told⟩ := truth holds
    rw [bound] at alsoBound
    cases alsoBound
    exact told.2 locked
  · obtain ⟨stranded, fits⟩ := orderly.fits index
    obtain ⟨handle, holds⟩ := Option.isSome_iff_exists.1 (fits.locked locked).1
    obtain ⟨object, -, told⟩ := truth holds
    exact ⟨object, handle, holds, told.2 locked⟩
  · rintro ⟨object, handle, holds, owns⟩
    exact (ofOwner owns holds).1

/-! ## A lock that is taken by a call that fails -/

/-- A memory with a marker, where the next attempt to take a lock succeeds and is told to have failed. -/
def hiddenLock : Monitored Memory where
  storage := .slow ⟨"marker"⟩ [1]
  faults := Table.empty.set .tryLock [.fail (.io (.bare .other)) true]

/-- The first of two stores is to open the marker, and cannot tell that it has the lock. -/
def unlucky : Obeyed (Monitored Memory) :=
  ((pair.stores true).obey 40 hiddenLock (.operate .openMarker)).get (by decide)

/-- The two stores after that. -/
def tried : Fleet Bool :=
  pair.put true ⟨unlucky.outcome, unlucky.store, unlucky.storage.storage⟩

/-- Then the other one is to open the marker. -/
def lucky : Obeyed (Monitored Memory) :=
  ((tried.stores false).obey 40 unlucky.storage (.operate .openMarker)).get (by decide)

/-- What an operation comes to on a memory whose calls are made to fail is one of the things that may
arise. -/
theorem Arises.obey {budget : Nat} {operation : Operation} {monitored : Monitored Memory}
    {obeyed : Obeyed (Monitored Memory)} (arises : fleet.Arises failures)
    (memory : monitored.storage = fleet.memory) (failing : monitored.Failing failures)
    (same : (fleet.stores index).obey budget monitored (.operate operation) = some obeyed) :
    obeyed.storage.Failing failures ∧
      (fleet.put index ⟨obeyed.outcome, obeyed.store, obeyed.storage.storage⟩).Arises failures := by
  obtain ⟨outcome, told, performed⟩ := Store.performs_of_obey same
  obtain ⟨left, performs⟩ := performed.viewed Monitored.views_unreliable failing
  rw [memory] at performs
  rw [told]
  exact ⟨left, arises.operate performs⟩

/-- The lock that the first store has taken is given up again, so that the second one gets it. -/
theorem locks_known_hidden :
    unlucky.outcome = some (.error (.storage (.io (.bare .other)))) ∧
      (∀ object, tried.memory.owner object = none) ∧ lucky.outcome = some (.ok ()) ∧
      ∃ object handle, lucky.store.lifecycle.handle = some handle ∧
        lucky.storage.storage.owner object = some handle := by
  have failing : hiddenLock.Failing fun _ => True := by
    refine (Monitored.failing_without_faults _).set .tryLock fun fault member => ?_
    cases List.mem_singleton.1 member
    exact fun _ => trivial
  have begun : pair.Arises fun _ => True := by
    refine .start (Memory.atRest_slow _ _).sound fun object => ?_
    exact congrFun (Memory.owner_put Memory.Sound.empty ⟨"marker"⟩ [1]) object
  have first : (pair.stores true).obey 40 hiddenLock (.operate .openMarker) = some unlucky :=
    (Option.some_get _).symm
  have second : (tried.stores false).obey 40 unlucky.storage (.operate .openMarker) = some lucky :=
    (Option.some_get _).symm
  obtain ⟨left, middle⟩ := begun.obey rfl failing first
  change tried.Arises _ at middle
  obtain ⟨-, opened⟩ := middle.obey rfl left second
  refine ⟨rfl, fun object => ?_, rfl, ?_⟩
  · -- No store knows of a lock then, so that there is none.
    obtain ⟨owners, -⟩ := locks_known middle
    refine Option.eq_none_iff_forall_ne_some.2 fun handle owns => ?_
    obtain ⟨index, -, locked, -⟩ := (owners object handle).1 owns
    have ignorant : ∀ index, (tried.stores index).lifecycle.locked = false := by decide
    rw [ignorant index] at locked
    cases locked
  · obtain ⟨-, knows⟩ := locks_known opened
    exact (knows false).1 (by decide)

end Fleet

end CrashMarker
