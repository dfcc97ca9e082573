/-
Module: CrashMarker.Proofs.Traces.Evidence
Purpose: What the actions that an operation has taken say about the bytes it has moved, the flags it
  has published, and the handle it is left with.
Main exports:
  Moved, accepted, received, published, Plain, Grip, Grip.along, unlockRefused, Steady,
  Conduct.Measured
-/
import CrashMarker.Proofs.Traces.Tells

namespace CrashMarker

/-! ## Bytes moved and flags published -/

/-- One byte that went through a handle, and where in the file. -/
structure Moved where
  handle : Handle
  offset : Nat
  byte : UInt8
deriving Repr, DecidableEq

/-- Bytes that went through a handle one after the other from an offset on. -/
def laid (handle : Handle) : Nat → List UInt8 → List Moved
  | _, [] => []
  | offset, byte :: bytes => ⟨handle, offset, byte⟩ :: laid handle (offset + 1) bytes

/-- Bytes laid one part after the other are laid at once. -/
theorem laid_append (handle : Handle) (offset : Nat) (early late : List UInt8) :
    laid handle offset (early ++ late) =
      laid handle offset early ++ laid handle (offset + early.length) late := by
  induction early generalizing offset with
  | nil => rfl
  | cons byte bytes inductionHypothesis =>
    simp only [List.cons_append, laid, inductionHypothesis, List.length_cons]
    rw [Nat.add_assoc, Nat.add_comm 1]

/-- One entry is made for each byte. -/
theorem length_laid (handle : Handle) (offset : Nat) (bytes : List UInt8) :
    (laid handle offset bytes).length = bytes.length := by
  induction bytes generalizing offset with
  | nil => rfl
  | cons byte rest inductionHypothesis =>
    rw [laid, List.length_cons, inductionHypothesis, List.length_cons]

namespace Taken

/-- The bytes that a handle accepted with the action. -/
def accepted : Taken → List Moved
  | ⟨.ask (.writeAt handle offset bytes), .ok moved⟩ => laid handle offset (bytes.take moved)
  | _ => []

/-- The bytes that a handle yielded with the action. -/
def received : Taken → List Moved
  | ⟨.ask (.readAt handle offset _), .ok bytes⟩ => laid handle offset bytes
  | _ => []

/-- The change of a cached flag that the action is. -/
def published : Taken → List (Flag × Bool)
  | ⟨.store flag value, _⟩ => [(flag, value)]
  | _ => []

/-- Whether the action asks for a write, however it was answered. -/
def writes : Taken → Bool
  | ⟨.ask (.writeAt _ _ _), _⟩ => true
  | _ => false

/-- Whether the action asks for a sync, however it was answered. -/
def syncs : Taken → Bool
  | ⟨.ask (.sync _), _⟩ => true
  | _ => false

/-- Whether the action moves no bytes, makes none durable and publishes no flag. -/
def plain : Taken → Bool
  | ⟨.ask (.readAt _ _ _), _⟩ => false
  | ⟨.ask (.writeAt _ _ _), _⟩ => false
  | ⟨.ask (.sync _), _⟩ => false
  | ⟨.store _ _, _⟩ => false
  | _ => true

end Taken

/-- All bytes that handles accepted, in order. -/
def accepted (taken : List Taken) : List Moved := taken.flatMap Taken.accepted

/-- All bytes that handles yielded, in order. -/
def received (taken : List Taken) : List Moved := taken.flatMap Taken.received

/-- All changes of cached flags, in order. -/
def published (taken : List Taken) : List (Flag × Bool) := taken.flatMap Taken.published

def Unwritten (taken : List Taken) : Prop := ∀ step ∈ taken, step.writes = false

def Unsynced (taken : List Taken) : Prop := ∀ step ∈ taken, step.syncs = false

/-- No bytes were moved, none made durable and no flag published. -/
def Plain (taken : List Taken) : Prop := ∀ step ∈ taken, step.plain = true

section Append

variable (step : Taken) (early late taken : List Taken)

@[simp] theorem accepted_nil : accepted [] = [] := rfl

@[simp] theorem received_nil : received [] = [] := rfl

@[simp] theorem published_nil : published [] = [] := rfl

@[simp] theorem accepted_cons : accepted (step :: taken) = step.accepted ++ accepted taken := rfl

@[simp] theorem received_cons : received (step :: taken) = step.received ++ received taken := rfl

@[simp] theorem published_cons : published (step :: taken) = step.published ++ published taken := rfl

@[simp] theorem accepted_append : accepted (early ++ late) = accepted early ++ accepted late :=
  List.flatMap_append

@[simp] theorem received_append : received (early ++ late) = received early ++ received late :=
  List.flatMap_append

@[simp] theorem published_append : published (early ++ late) = published early ++ published late :=
  List.flatMap_append

@[simp] theorem unwritten_nil : Unwritten [] := List.forall_mem_nil _

@[simp] theorem unsynced_nil : Unsynced [] := List.forall_mem_nil _

@[simp] theorem plain_nil : Plain [] := List.forall_mem_nil _

@[simp] theorem unwritten_cons :
    Unwritten (step :: taken) ↔ step.writes = false ∧ Unwritten taken := List.forall_mem_cons

@[simp] theorem unsynced_cons :
    Unsynced (step :: taken) ↔ step.syncs = false ∧ Unsynced taken := List.forall_mem_cons

@[simp] theorem plain_cons : Plain (step :: taken) ↔ step.plain = true ∧ Plain taken :=
  List.forall_mem_cons

@[simp] theorem unwritten_append :
    Unwritten (early ++ late) ↔ Unwritten early ∧ Unwritten late := List.forall_mem_append

@[simp] theorem unsynced_append : Unsynced (early ++ late) ↔ Unsynced early ∧ Unsynced late :=
  List.forall_mem_append

@[simp] theorem plain_append : Plain (early ++ late) ↔ Plain early ∧ Plain late :=
  List.forall_mem_append

end Append

/-- A plain action shows up in none of the other accounts. -/
theorem Taken.eq_of_plain {step : Taken} (plain : step.plain = true) :
    step.accepted = [] ∧ step.received = [] ∧ step.published = [] ∧ step.writes = false ∧
      step.syncs = false := by
  obtain ⟨action, answer⟩ := step
  cases action with
  | ask request =>
    cases request with
    | readAt => cases plain
    | writeAt => cases plain
    | sync => cases plain
    | _ => exact ⟨rfl, rfl, rfl, rfl, rfl⟩
  | store => cases plain
  | _ => exact ⟨rfl, rfl, rfl, rfl, rfl⟩

namespace Plain

variable {taken : List Taken}

/-- Plain actions have moved no bytes to a file. -/
theorem accepted (plain : Plain taken) : accepted taken = [] :=
  List.flatMap_eq_nil_iff.2 fun step isTaken => (Taken.eq_of_plain (plain step isTaken)).1

theorem received (plain : Plain taken) : received taken = [] :=
  List.flatMap_eq_nil_iff.2 fun step isTaken => (Taken.eq_of_plain (plain step isTaken)).2.1

theorem published (plain : Plain taken) : published taken = [] :=
  List.flatMap_eq_nil_iff.2 fun step isTaken => (Taken.eq_of_plain (plain step isTaken)).2.2.1

theorem unwritten (plain : Plain taken) : Unwritten taken :=
  fun step isTaken => (Taken.eq_of_plain (plain step isTaken)).2.2.2.1

theorem unsynced (plain : Plain taken) : Unsynced taken :=
  fun step isTaken => (Taken.eq_of_plain (plain step isTaken)).2.2.2.2

end Plain

/-- Where no write was asked for, nothing was accepted. -/
theorem Unwritten.accepted {taken : List Taken} (unwritten : Unwritten taken) :
    accepted taken = [] := by
  refine List.flatMap_eq_nil_iff.2 fun step isTaken => ?_
  obtain ⟨action, answer⟩ := step
  cases action with
  | ask request =>
    cases request with
    | writeAt => cases unwritten _ isTaken
    | _ => rfl
  | _ => rfl

/-! ## The handle in hand -/

/-- What the actions taken leave in the hand of whoever took them: nothing, or an open handle together
with what is known about its lock.  Whoever opens a second file, or meddles with a handle of
another, has gone astray. -/
inductive Grip where
  | nothing
  | on (handle : Handle) (locked : Option Bool)
  | astray
deriving Repr, DecidableEq

namespace Grip

/-- What is known about the lock after an action on a handle, if it is the handle in hand. -/
def known (handle : Handle) (locked : Option Bool) : Grip → Grip
  | on own _ => if handle = own then on own locked else astray
  | _ => astray

/-- What one action makes of the hand.  A call that has failed may have taken effect, so nothing is
known about the lock then. -/
def step (grip : Grip) : Taken → Grip
  | ⟨.ask (.openFile _), .ok handle⟩ =>
    match grip with
    | nothing => on handle (some false)
    | _ => astray
  | ⟨.ask (.tryLock handle), .ok taken⟩ => grip.known handle (some taken)
  | ⟨.ask (.tryLock handle), .error _⟩ => grip.known handle none
  | ⟨.ask (.unlock handle), .ok _⟩ => grip.known handle (some false)
  | ⟨.ask (.unlock handle), .error _⟩ => grip.known handle none
  | ⟨.close handle, _⟩ =>
    match grip with
    | on own _ => if handle = own then nothing else astray
    | _ => astray
  | _ => grip

/-- What a number of actions make of the hand. -/
def along (grip : Grip) (taken : List Taken) : Grip := taken.foldl step grip

@[simp] theorem along_nil (grip : Grip) : grip.along [] = grip := rfl

@[simp] theorem along_cons (grip : Grip) (first : Taken) (taken : List Taken) :
    grip.along (first :: taken) = (grip.step first).along taken := rfl

@[simp] theorem along_append (grip : Grip) (early late : List Taken) :
    grip.along (early ++ late) = (grip.along early).along late := List.foldl_append

/-- The hand of a store between operations. -/
def ofLifecycle (lifecycle : Lifecycle) : Grip :=
  match lifecycle.handle with
  | none => nothing
  | some handle => on handle (some lifecycle.locked)

end Grip

/-- The actions leave every hand as it is. -/
def HandsOff (taken : List Taken) : Prop := ∀ grip : Grip, grip.along taken = grip

@[simp] theorem handsOff_nil : HandsOff [] := fun _ => rfl

/-- What each of two stretches leaves alone, both together leave alone. -/
theorem HandsOff.append {early late : List Taken} (one : HandsOff early) (two : HandsOff late) :
    HandsOff (early ++ late) := by
  intro grip
  rw [Grip.along_append, one, two]

/-- Whether the storage refused to give a lock up. -/
def Taken.unlockRefused : Taken → Bool
  | ⟨.ask (.unlock _), .error _⟩ => true
  | _ => false

/-- Whether any of the actions was a lock that was not given up. -/
def unlockRefused (taken : List Taken) : Bool := taken.any Taken.unlockRefused

@[simp] theorem unlockRefused_nil : unlockRefused [] = false := rfl

@[simp] theorem unlockRefused_cons (step : Taken) (taken : List Taken) :
    unlockRefused (step :: taken) = (step.unlockRefused || unlockRefused taken) := rfl

@[simp] theorem unlockRefused_append (early late : List Taken) :
    unlockRefused (early ++ late) = (unlockRefused early || unlockRefused late) := List.any_append

/-- Whether the action is about the names of files or about the store alone. -/
def Taken.passive : Taken → Bool
  | ⟨.ask (.present _), _⟩ => true
  | ⟨.ask (.createNew _), _⟩ => true
  | ⟨.ask (.remove _), _⟩ => true
  | ⟨.emit _, _⟩ => true
  | ⟨.load _, _⟩ => true
  | ⟨.acquire, _⟩ => true
  | ⟨.release _, _⟩ => true
  | _ => false

/-- Nothing was done to any file in hand. -/
def Passive (taken : List Taken) : Prop := ∀ step ∈ taken, step.passive = true

@[simp] theorem passive_nil : Passive [] := List.forall_mem_nil _

@[simp] theorem passive_cons (step : Taken) (taken : List Taken) :
    Passive (step :: taken) ↔ step.passive = true ∧ Passive taken := List.forall_mem_cons

@[simp] theorem passive_append (early late : List Taken) :
    Passive (early ++ late) ↔ Passive early ∧ Passive late := List.forall_mem_append

/-- A passive action is plain, changes no hand, and gives up no lock. -/
theorem Taken.eq_of_passive {step : Taken} (passive : step.passive = true) :
    step.plain = true ∧ (∀ grip : Grip, grip.step step = grip) ∧ step.unlockRefused = false := by
  obtain ⟨action, answer⟩ := step
  cases action with
  | ask request =>
    cases request with
    | present => exact ⟨rfl, fun _ => rfl, rfl⟩
    | createNew => exact ⟨rfl, fun _ => rfl, rfl⟩
    | remove => exact ⟨rfl, fun _ => rfl, rfl⟩
    | _ => cases passive
  | close => cases passive
  | store => cases passive
  | _ => exact ⟨rfl, fun _ => rfl, rfl⟩

namespace Passive

variable {taken : List Taken}

/-- What is about names only is plain. -/
theorem plain (passive : Passive taken) : Plain taken :=
  fun step isTaken => (Taken.eq_of_passive (passive step isTaken)).1

/-- What is about names only leaves every hand alone. -/
theorem handsOff (passive : Passive taken) : HandsOff taken := by
  intro grip
  induction taken with
  | nil => rfl
  | cons step taken inductionHypothesis =>
    obtain ⟨first, rest⟩ := (passive_cons step taken).1 passive
    rw [Grip.along_cons, (Taken.eq_of_passive first).2.1, inductionHypothesis rest]

theorem unlockRefused (passive : Passive taken) : unlockRefused taken = false :=
  List.any_eq_false.2 fun step isTaken => by
    rw [(Taken.eq_of_passive (passive step isTaken)).2.2]
    nofun

end Passive

/-- The actions taken have left the cached flags and every hand as they were, and synced nothing that
is not to be synced. -/
structure Steady {σ : Type} (config : Config) (before : World σ) (taken : List Taken)
    (after : World σ) : Prop where
  cached : after.cached = before.cached
  unpublished : published taken = []
  handsOff : HandsOff taken
  unsynced : config.syncOnWrite = false → Unsynced taken

namespace Steady

variable {σ : Type} {config : Config} {before middle after : World σ} {taken early late : List Taken}

theorem refl (world : World σ) : Steady config world [] world :=
  ⟨rfl, rfl, handsOff_nil, fun _ => unsynced_nil⟩

/-- Plain actions are steady, as long as flags and hands stay as they are. -/
theorem of_plain (cached : after.cached = before.cached) (plain : Plain taken)
    (handsOff : HandsOff taken) : Steady config before taken after :=
  ⟨cached, plain.published, handsOff, fun _ => plain.unsynced⟩

theorem of_passive (cached : after.cached = before.cached) (passive : Passive taken) :
    Steady config before taken after :=
  .of_plain cached passive.plain passive.handsOff

/-- Steady stretches follow one another. -/
theorem trans (one : Steady config before early middle) (two : Steady config middle late after) :
    Steady config before (early ++ late) after where
  cached := two.cached.trans one.cached
  unpublished := by rw [published_append, one.unpublished, two.unpublished, List.append_nil]
  handsOff := one.handsOff.append two.handsOff
  unsynced off := (unsynced_append _ _).2 ⟨one.unsynced off, two.unsynced off⟩

end Steady

/-- A read never yields more bytes than were asked for. -/
def Conduct.Measured {σ : Type} (conduct : Conduct σ) : Prop :=
  ∀ {handle : Handle} {offset count : Nat} {before after : σ} {bytes : List UInt8},
    conduct (.readAt handle offset count) before (.ok bytes) after → bytes.length ≤ count

end CrashMarker
