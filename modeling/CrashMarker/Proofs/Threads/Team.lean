/-
Module: CrashMarker.Proofs.Threads.Team
Purpose: Threads that make transitions on one store at once, one action after the other.
Main exports: Team, Team.Step, Team.Runs, Team.Inv, Team.Consistent, Team.consistent
-/
import Mathlib.Algebra.BigOperators.Ring.Finset
import Mathlib.Data.Fintype.Basic
import CrashMarker.Proofs.Exclusion
import CrashMarker.Proofs.Threads.Stages

namespace CrashMarker

/-! ## Threads -/

/-- A transition that has returned. -/
structure Return (ι : Type) where
  thread : ι
  flag : Flag
  value : Bool
  /-- How many actions had been taken when it began. -/
  began : Nat
  /-- How many actions had been taken when it returned. -/
  ended : Nat
  outcome : Except StoreError Unit

/-- Threads that share a store.  What has happened so far is kept as well. -/
structure Team (ι : Type) where
  world : World Memory
  /-- The transitions that each thread is still to begin. -/
  ahead : ι → List (Flag × Bool)
  /-- The transition that each thread is in. -/
  running : ι → Option Call := fun _ => none
  /-- The thread that has the mutex. -/
  holder : Option ι := none
  /-- All actions taken, the latest one last. -/
  taken : List Taken := []
  returned : List (Return ι) := []

namespace Team

variable {ι : Type} [DecidableEq ι]

/-- Who has the mutex after an action of a thread. -/
def mutex (index : ι) (holder : Option ι) : Action → Option ι
  | .acquire => some index
  | .release _ => none
  | _ => holder

/-- A thread has the mutex after its action as its own stage says. -/
theorem mutex_self {index : ι} {holder : Option ι} {action : Action} :
    decide (mutex index holder action = some index) =
      action.keepsMutex (decide (holder = some index)) := by
  cases action with
  | acquire => simp [mutex, Action.keepsMutex]
  | release => simp [mutex, Action.keepsMutex]
  | _ => rfl

omit [DecidableEq ι] in
/-- The actions of a thread do not change whether another one has the mutex. -/
theorem mutex_other {index other : ι} {holder : Option ι} {action : Action} (different : other ≠ index)
    (free : action = .acquire → holder = none)
    (gives : ∀ lifecycle, action = .release lifecycle → holder = some index) :
    mutex index holder action = some other ↔ holder = some other := by
  cases action with
  | acquire => simp [mutex, free rfl, Ne.symm different]
  | release lifecycle => simp [mutex, gives lifecycle rfl, Ne.symm different]
  | _ => exact Iff.rfl

/-- One step of a thread: it begins its next transition, takes an action, or returns.  Only the mutex
makes it wait. -/
inductive Step (target : Target) (index : ι) : Team ι → Team ι → Prop where
  | begins {team : Team ι} {flag : Flag} {value : Bool} {later : List (Flag × Bool)}
      (idle : team.running index = none) (next : team.ahead index = (flag, value) :: later) :
      Step target index team { team with
        ahead := Function.update team.ahead index later
        running := Function.update team.running index
          (some ⟨flag, value, team.taken.length, target.transition flag value⟩) }
  | acts {team : Team ι} {call : Call} {action : Action}
      {next : action.Answer → Script (Except StoreError Unit)} {answer : action.Answer}
      {after : World Memory} (runs : team.running index = some call)
      (acting : call.rest.head = .acting action next)
      (free : action = .acquire → team.holder = none)
      (performed : action.perform team.world = (answer, after)) :
      Step target index team { team with
        world := after
        running := Function.update team.running index (some { call with rest := next answer })
        holder := mutex index team.holder action
        taken := team.taken ++ [⟨action, answer⟩] }
  | returns {team : Team ι} {call : Call} {outcome : Except StoreError Unit}
      (runs : team.running index = some call) (finished : call.rest.head = .finished outcome) :
      Step target index team { team with
        running := Function.update team.running index none
        returned := team.returned ++
          [⟨index, call.flag, call.value, call.began, team.taken.length, outcome⟩] }

/-- Where the threads may have got to after so many steps, in whatever order they took them. -/
inductive Runs (target : Target) (start : Team ι) : Nat → Team ι → Prop where
  | here : Runs target start 0 start
  | step {steps : Nat} {team later : Team ι} {index : ι} (runs : Runs target start steps team)
      (step : Step target index team later) : Runs target start (steps + 1) later

/-- The transitions that a thread has returned from, is in, and is still to begin. -/
def plan (team : Team ι) (index : ι) : List (Flag × Bool) :=
  (team.returned.filter (·.thread = index)).map (fun call => (call.flag, call.value)) ++
    (team.running index).toList.map (fun call => (call.flag, call.value)) ++ team.ahead index

/-! ## The invariant -/

/-- How things stand between any two steps.  A thread may be good for a number of further steps, and the
steps taken, those to come, and the writes that may still be interrupted stay within a bound. -/
structure Inv [Fintype ι] (shared : Shared) (start : Team ι) (bound : Nat) (left : ι → Nat)
    (steps : Nat) (team : Team ι) : Prop where
  lifecycle : team.world.lifecycle = shared.lifecycle
  /-- While nobody has the mutex, everything is in order. -/
  free : team.holder = none → Ledger shared team.world team.taken []
  held : ∀ {index}, team.holder = some index → ∃ call, team.running index = some call
  stands : ∀ {index call}, team.running index = some call → call.began ≤ team.taken.length ∧
    Stands shared team.world team.taken call.flag call.value call.began
      (decide (team.holder = some index)) (left index) call.rest
  returned : ∀ call ∈ team.returned, call.outcome = .ok () ∧ call.began ≤ call.ended ∧
    Attained shared.first team.taken call.flag call.value call.began call.ended
  planned : ∀ index, team.plan index = start.plan index
  /-- Only what some thread is to do is done. -/
  meant : ∀ change ∈ published team.taken, ∃ index, change ∈ start.plan index
  spent : steps + ∑ index, (left index + 13 * (team.ahead index).length) +
    team.world.storage.patience ≤ bound

variable [Fintype ι] {shared : Shared} {start team : Team ι} {bound : Nat} {left : ι → Nat} {steps : Nat}
  {index : ι}

omit [DecidableEq ι] in
/-- A sum changes by what one of its terms changes. -/
theorem sum_add_eq (before after : ι → Nat) (index : ι)
    (same : ∀ other, other ≠ index → after other = before other) :
    ∑ other, after other + before index = ∑ other, before other + after index := by
  classical
  have one := Finset.add_sum_erase Finset.univ after (Finset.mem_univ index)
  have two := Finset.add_sum_erase Finset.univ before (Finset.mem_univ index)
  have rest : ∑ other ∈ Finset.univ.erase index, after other =
      ∑ other ∈ Finset.univ.erase index, before other :=
    Finset.sum_congr rfl fun other member => same other (Finset.ne_of_mem_erase member)
  omega

/-- A step is paid for by what its thread is good for. -/
theorem Inv.pay {ahead : ι → List (Flag × Bool)} {patience fewer : Nat}
    (inv : Inv shared start bound left steps team)
    (others : ∀ other, other ≠ index → ahead other = team.ahead other)
    (less : fewer + 13 * (ahead index).length + patience <
      left index + 13 * (team.ahead index).length + team.world.storage.patience) :
    steps + 1 + ∑ other, (Function.update left index fewer other + 13 * (ahead other).length) +
      patience ≤ bound := by
  have change := sum_add_eq (fun other => left other + 13 * (team.ahead other).length)
    (fun other => Function.update left index fewer other + 13 * (ahead other).length) index
    fun other different => by rw [Function.update_of_ne different, others other different]
  simp only [Function.update_self] at change
  have spent := inv.spent
  omega

namespace Inv

/-- Between any two steps, a beginning of at most one record is not accounted for, and only while somebody
has the mutex who needs it. -/
theorem ledger (inv : Inv shared start bound left steps team) :
    ∃ chunk, ∃ record : Record, Ledger shared team.world team.taken chunk ∧ chunk <+: record.encode ∧
      (team.holder = none → chunk = []) ∧
      (chunk ≠ [] → ∃ index call, team.running index = some call ∧
        team.world.cached.get call.flag ≠ call.value) := by
  cases holds : team.holder with
  | none =>
    exact ⟨[], .clean, inv.free holds, List.nil_prefix, fun _ => rfl, fun some => absurd rfl some⟩
  | some index =>
    obtain ⟨call, runs⟩ := inv.held holds
    obtain ⟨-, stands⟩ := inv.stands runs
    rw [holds, decide_eq_true rfl] at stands
    obtain ⟨chunk, ledger, begins, needed⟩ := stands.ledger
    exact ⟨chunk, _, ledger, begins, by simp, fun some => ⟨index, call, runs, needed some⟩⟩

/-- The cached flags are those that all changes so far have made of the first ones. -/
theorem cached (inv : Inv shared start bound left steps team) :
    team.world.cached = shared.first.replay (published team.taken) := by
  obtain ⟨chunk, record, ledger, -⟩ := inv.ledger
  exact ledger.cached

/-- Before the first step nobody is in a transition. -/
theorem here {world : World Memory} {ahead : ι → List (Flag × Bool)}
    (lifecycle : world.lifecycle = shared.lifecycle) (ledger : Ledger shared world [] []) :
    Inv shared { world, ahead } (13 * ∑ index, (ahead index).length + world.storage.patience)
      (fun _ => 0) 0 { world, ahead } where
  lifecycle := lifecycle
  free _ := ledger
  held holds := by cases holds
  stands runs := by cases runs
  returned _ member := by cases member
  planned _ := rfl
  meant _ member := by cases member
  spent := by simp [Finset.mul_sum]

/-- A thread begins its next transition. -/
theorem begins {flag : Flag} {value : Bool} {later : List (Flag × Bool)}
    (inv : Inv shared start bound left steps team) (idle : team.running index = none)
    (next : team.ahead index = (flag, value) :: later) :
    Inv shared start bound (Function.update left index 12) (steps + 1) { team with
      ahead := Function.update team.ahead index later
      running := Function.update team.running index
        (some ⟨flag, value, team.taken.length, shared.target.transition flag value⟩) } := by
  have free : team.holder ≠ some index := by
    intro holds
    obtain ⟨call, runs⟩ := inv.held holds
    rw [idle] at runs
    cases runs
  refine ⟨inv.lifecycle, inv.free, fun {other} holds => ?_, fun {other call} runs => ?_,
    inv.returned, fun other => ?_, inv.meant, inv.pay (fun other different => ?_) ?_⟩
  · have different : other ≠ index := by
      rintro rfl
      exact free holds
    simp only [Function.update_of_ne different]
    exact inv.held holds
  · by_cases actor : other = index
    · subst actor
      simp only [Function.update_self] at runs ⊢
      cases runs
      rw [decide_eq_false free]
      exact ⟨Nat.le_refl _, .begun⟩
    · simp only [Function.update_of_ne actor] at runs ⊢
      exact inv.stands runs
  · rw [← inv.planned other]
    by_cases actor : other = index
    · subst actor
      simp [plan, idle, next]
    · simp [plan, Function.update_of_ne actor]
  · exact Function.update_of_ne different _ _
  · simp only [Function.update_self, next, List.length_cons]
    omega

/-- A thread returns from a transition. -/
theorem returns {call : Call} {outcome : Except StoreError Unit}
    (inv : Inv shared start bound left steps team) (runs : team.running index = some call)
    (finished : call.rest.head = .finished outcome) :
    Inv shared start bound (Function.update left index 0) (steps + 1) { team with
      running := Function.update team.running index none
      returned := team.returned ++
        [⟨index, call.flag, call.value, call.began, team.taken.length, outcome⟩] } := by
  obtain ⟨since, stands⟩ := inv.stands runs
  rcases stands.runs with ⟨ended, outside, attained⟩ | ⟨action, next, acting, -⟩
  case inr =>
    rw [acting] at finished
    cases finished
  rw [ended] at finished
  cases finished
  have free : team.holder ≠ some index := of_decide_eq_false outside
  refine ⟨inv.lifecycle, inv.free, fun {other} holds => ?_, fun {other call} runs => ?_,
    fun entry member => ?_, fun other => ?_, inv.meant, inv.pay (fun _ _ => rfl) ?_⟩
  · have different : other ≠ index := by
      rintro rfl
      exact free holds
    simp only [Function.update_of_ne different]
    exact inv.held holds
  · have different : other ≠ index := by
      rintro rfl
      simp only [Function.update_self] at runs
      cases runs
    simp only [Function.update_of_ne different] at runs ⊢
    exact inv.stands runs
  · rcases List.mem_append.1 member with earlier | last
    · exact inv.returned entry earlier
    · cases List.mem_singleton.1 last
      exact ⟨rfl, since, attained⟩
  · rw [← inv.planned other]
    by_cases actor : other = index
    · subst actor
      simp [plan, runs, List.filter_append]
    · simp [plan, Function.update_of_ne actor, List.filter_append, Ne.symm actor]
  · have positive := stands.left_pos
    dsimp only
    omega

/-- Whatever action a thread takes, what the others rely on is not for it to change. -/
theorem beside {call other : Call} {reader : ι} {step : Taken} {after : World Memory} {fuel : Nat}
    {rest : Script (Except StoreError Unit)} (inv : Inv shared start bound left steps team)
    (onward : Onward shared team.world after team.taken step call.flag call.value call.began
      (decide (team.holder = some index)) fuel rest)
    (different : reader ≠ index) (reads : team.running reader = some other) :
    other.began ≤ (team.taken ++ [step]).length ∧
      Stands shared after (team.taken ++ [step]) other.flag other.value other.began
        (decide (team.holder = some reader)) (left reader) other.rest := by
  obtain ⟨begun, stands⟩ := inv.stands reads
  refine ⟨Nat.le_trans begun (by simp), ?_⟩
  by_cases inside : team.holder = some index
  · -- Only one thread has the mutex, and nobody else relies on anything that it protects.
    have outside : team.holder ≠ some reader := by
      rw [inside]
      exact fun same => different (Option.some.inj same).symm
    rw [decide_eq_false outside] at stands ⊢
    exact stands.beside
  · obtain ⟨rfl, unwritten, unpublished⟩ := onward.aside (decide_eq_false inside)
    exact stands.aside unwritten unpublished

/-- A thread takes an action. -/
theorem acts {call : Call} {action : Action}
    {next : action.Answer → Script (Except StoreError Unit)} {answer : action.Answer}
    {after : World Memory} (inv : Inv shared start bound left steps team)
    (runs : team.running index = some call) (acting : call.rest.head = .acting action next)
    (free : action = .acquire → team.holder = none)
    (performed : action.perform team.world = (answer, after)) :
    ∃ left, Inv shared start bound left (steps + 1) { team with
      world := after
      running := Function.update team.running index (some { call with rest := next answer })
      holder := mutex index team.holder action
      taken := team.taken ++ [⟨action, answer⟩] } := by
  obtain ⟨since, stands⟩ := inv.stands runs
  have onward := stands.act acting performed inv.lifecycle inv.cached since
    fun acquires => inv.free (free acquires)
  obtain ⟨fewer, less, further⟩ := onward.stands
  have gives : ∀ lifecycle, action = .release lifecycle → team.holder = some index :=
    fun lifecycle releases => of_decide_eq_true (onward.gives lifecycle releases)
  refine ⟨Function.update left index fewer, onward.lifecycle, fun nobody => ?_, fun {other} holds => ?_,
    fun {other call} runs => ?_, fun entry member => ?_, fun other => ?_, fun change made => ?_,
    inv.pay (fun _ _ => rfl) (by dsimp only; omega)⟩
  · cases action with
    | acquire => cases nobody
    | release lifecycle => exact onward.given (onward.gives lifecycle rfl) rfl
    | _ =>
      have outside : team.holder ≠ some index := by
        rw [show team.holder = none from nobody]
        simp
      obtain ⟨rfl, unwritten, unpublished⟩ := onward.aside (decide_eq_false outside)
      exact (inv.free nobody).still unwritten unpublished
  · by_cases actor : other = index
    · subst actor
      simp only [Function.update_self]
      exact ⟨_, rfl⟩
    · simp only [Function.update_of_ne actor]
      exact inv.held ((mutex_other actor free gives).1 holds)
  · by_cases actor : other = index
    · subst actor
      simp only [Function.update_self] at runs ⊢
      cases runs
      rw [mutex_self]
      exact ⟨Nat.le_trans since (by simp), further⟩
    · simp only [Function.update_of_ne actor] at runs ⊢
      simp only [mutex_other actor free gives]
      exact inv.beside onward actor runs
  · obtain ⟨succeeded, ordered, attained⟩ := inv.returned entry member
    exact ⟨succeeded, ordered, attained.later _ (Nat.le_refl _)⟩
  · rw [← inv.planned other]
    by_cases actor : other = index
    · subst actor
      simp [plan, runs]
    · simp [plan, Function.update_of_ne actor]
  · rw [published_append, List.mem_append] at made
    rcases made with earlier | now
    · exact inv.meant change earlier
    · refine ⟨index, ?_⟩
      rw [onward.makes change (by simpa using now), ← inv.planned index]
      simp [plan, runs]

/-- Unless all is done, some thread can take a step. -/
theorem onward (inv : Inv shared start bound left steps team) :
    (∀ index, team.running index = none ∧ team.ahead index = []) ∨
      ∃ index later, Step shared.target index team later := by
  -- Whoever has the mutex can go on, so that it is in nobody's way for good.
  by_cases resting : ∀ index, team.running index = none
  · by_cases ended : ∀ index, team.ahead index = []
    · exact Or.inl fun index => ⟨resting index, ended index⟩
    · obtain ⟨index, more⟩ := not_forall.1 ended
      obtain ⟨⟨flag, value⟩, later, next⟩ := List.exists_cons_of_ne_nil more
      exact Or.inr ⟨index, _, .begins (resting index) next⟩
  · refine Or.inr ?_
    cases holds : team.holder with
    | some index =>
      obtain ⟨call, runs⟩ := inv.held holds
      obtain ⟨-, stands⟩ := inv.stands runs
      rcases stands.runs with ⟨-, outside, -⟩ | ⟨action, next, acting, acts⟩
      · exact absurd holds (of_decide_eq_false outside)
      · exact ⟨index, _, .acts runs acting (absurd · (acts (decide_eq_true holds))) rfl⟩
    | none =>
      obtain ⟨index, busy⟩ := not_forall.1 resting
      obtain ⟨call, runs⟩ := Option.ne_none_iff_exists'.1 busy
      obtain ⟨-, stands⟩ := inv.stands runs
      rcases stands.runs with ⟨ended, -⟩ | ⟨action, next, acting, -⟩
      · exact ⟨index, _, .returns runs (by rw [ended]; rfl)⟩
      · exact ⟨index, _, .acts runs acting (fun _ => holds) rfl⟩

/-- If all threads are to make the same change, at most one record is written. -/
theorem once (inv : Inv shared start bound left steps team) {flag : Flag} {value : Bool}
    (same : ∀ index, ∀ change ∈ start.plan index, change = (flag, value)) :
    ∃ record : Record, accepted team.taken <+: laid shared.handle 0 record.encode := by
  obtain ⟨chunk, record, ledger, begins, -, needed⟩ := inv.ledger
  have cached := ledger.cached
  have changing := ledger.changing
  have written := ledger.written
  have meant : ∀ change ∈ published team.taken, change = (flag, value) := by
    intro change made
    obtain ⟨index, planned⟩ := inv.meant change made
    exact same index change planned
  generalize published team.taken = changes at cached changing written meant
  match changes with
  | [] =>
    obtain ⟨rest, whole⟩ := begins
    refine ⟨record, laid shared.handle (0 + chunk.length) rest, ?_⟩
    rw [written, ← whole, laid_append]
    rfl
  | [change] =>
    cases meant change List.mem_cons_self
    -- The change has been made, so that nobody is about to make it.
    have nothing : chunk = [] := by
      by_contra some
      obtain ⟨index, call, runs, stale⟩ := needed some
      have planned : (call.flag, call.value) ∈ start.plan index := by
        rw [← inv.planned index]
        simp [plan, runs]
      cases same index _ planned
      exact stale (by rw [cached]; exact Record.get_set_self _ _ _)
    refine ⟨shared.first.set flag value, ?_⟩
    rw [written, nothing]
    simp [Record.turns, laid]
  | first :: second :: further =>
    cases meant first List.mem_cons_self
    cases meant second (List.mem_cons_of_mem _ List.mem_cons_self)
    exact absurd (Record.get_set_self _ _ _) changing.2.1

end Inv

/-! ## All interleavings -/

/-- What threads that share a store can count on, wherever they have got to. -/
structure Consistent (target : Target) (handle : Handle) (start : Team ι) (steps : Nat)
    (team : Team ι) : Prop where
  /-- Whatever has returned has succeeded, and its flag had the value asked for at some instant between
  its beginning and its return. -/
  returned : ∀ call ∈ team.returned, call.outcome = .ok () ∧
    Attained start.world.cached team.taken call.flag call.value call.began call.ended
  /-- No transition gets lost, and none is made that nobody asked for. -/
  planned : ∀ index, team.plan index = start.plan index
  /-- Only a thread that is in a transition has the mutex. -/
  held : ∀ {index}, team.holder = some index → ∃ call, team.running index = some call
  /-- While nobody has the mutex, the file tells the cached flags. -/
  told : team.holder = none →
    (team.world.storage.contents target.path).bind Record.decode? = some team.world.cached
  /-- The cached flags are what the changes have made of the first ones. -/
  cached : team.world.cached = start.world.cached.replay (published team.taken)
  /-- Every change of a cached flag gives it a value that it did not have. -/
  changing : start.world.cached.Changing (published team.taken)
  /-- One record has been written for each change, one after the other and nothing else, but for a
  beginning of the next one while somebody has the mutex. -/
  written : ∃ chunk, ∃ record : Record, chunk <+: record.encode ∧ (team.holder = none → chunk = []) ∧
    accepted team.taken = (start.world.cached.turns (published team.taken)).flatMap
      (fun record => laid handle 0 record.encode) ++ laid handle 0 chunk
  /-- Whoever is about to write is about to write the record that differs from the cached flags in the
  flag to be changed, or what is left of it; before the first byte the file tells the cached flags. -/
  writes : ∀ {index : ι} {call : Call} {onto : Handle} {offset : Nat} {bytes : List UInt8}
      {next : (Action.ask (.writeAt onto offset bytes)).Answer → Script (Except StoreError Unit)},
    team.running index = some call →
    call.rest.head = .acting (.ask (.writeAt onto offset bytes)) next →
      onto = handle ∧ bytes = (team.world.cached.set call.flag call.value).encode.drop offset ∧
        offset < 2 ∧ team.world.cached.get call.flag ≠ call.value ∧
        (offset = 0 → (team.world.storage.contents target.path).bind Record.decode? =
          some team.world.cached)
  /-- If all threads are to make the same change, at most one record is written. -/
  once : ∀ {flag : Flag} {value : Bool},
    (∀ index, ∀ change ∈ start.ahead index, change = (flag, value)) →
      ∃ record : Record, accepted team.taken <+: laid handle 0 record.encode
  /-- The threads come to an end, however they take turns. -/
  bounded : steps ≤ 13 * ∑ index, (start.ahead index).length + start.world.storage.patience
  /-- Unless all is done, some thread can take a step. -/
  onward : (∀ index, team.running index = none ∧ team.ahead index = []) ∨
    ∃ index later, Step target index team later

/-- The invariant holds wherever the threads may get to. -/
theorem Runs.inv {target : Target} (same : shared.target = target)
    (begun : ∃ left, Inv shared start bound left 0 start) (runs : Runs target start steps team) :
    ∃ left, Inv shared start bound left steps team := by
  subst same
  induction runs with
  | here => exact begun
  | step _ step inductionHypothesis =>
    obtain ⟨left, inv⟩ := inductionHypothesis
    cases step with
    | begins idle next => exact ⟨_, inv.begins idle next⟩
    | acts runs acting free performed => exact inv.acts runs acting free performed
    | returns runs finished => exact ⟨_, inv.returns runs finished⟩

/-- Any number of threads may make transitions on one open store at once, in any order of their steps. -/
theorem consistent {target : Target} {handle : Handle} {file : FileObject} {world : World Memory}
    {ahead : ι → List (Flag × Bool)} (holds : world.lifecycle.handle = some handle)
    (inHand : world.storage.InHand target.path handle file)
    (decoded : Record.decode? file.bytes = some world.cached)
    (runs : Runs target { world, ahead } steps team) :
    Consistent target handle { world, ahead } steps team := by
  let shared : Shared := ⟨target, world.lifecycle, handle, world.cached, holds⟩
  have ledger : Ledger shared world [] [] := by
    refine ⟨rfl, trivial, rfl, file.bytes, file, decoded, ?_⟩
    have same : overlay file.bytes 0 [] = file.bytes := by simp [overlay_zero]
    rw [same]
    exact inHand
  obtain ⟨left, inv⟩ := runs.inv rfl ⟨_, .here rfl ledger⟩
  refine ⟨fun call member => ?_, inv.planned, inv.held, fun free => (inv.free free).told, inv.cached,
    ?_, ?_, ?_, fun same => inv.once (by simpa [plan] using same), ?_, inv.onward⟩
  · obtain ⟨succeeded, -, attained⟩ := inv.returned call member
    exact ⟨succeeded, attained⟩
  · obtain ⟨chunk, record, ledger, -⟩ := inv.ledger
    exact ledger.changing
  · obtain ⟨chunk, record, ledger, begins, nothing, -⟩ := inv.ledger
    exact ⟨chunk, record, begins, nothing, ledger.written⟩
  · intro index call onto offset bytes next runs acting
    obtain ⟨-, stands⟩ := inv.stands runs
    obtain ⟨isHandle, isRest, room, stale, told⟩ := stands.writes acting
    exact ⟨isHandle, isRest, room, stale, fun start => (told start).told⟩
  · have spent := inv.spent
    dsimp only
    omega

omit [Fintype ι] in
/-- However far the threads have got, they may go on until all is done. -/
theorem Runs.completes {target : Target} {limit : Nat}
    (bounded : ∀ {steps team}, Runs target start steps team → steps ≤ limit)
    (onward : ∀ {steps team}, Runs target start steps team →
      (∀ index, team.running index = none ∧ team.ahead index = []) ∨
        ∃ index later, Step target index team later)
    (runs : Runs target start steps team) :
    ∃ steps last, Runs target start steps last ∧
      ∀ index, last.running index = none ∧ last.ahead index = [] := by
  -- The induction is on the steps that are left, of which each one uses one up.
  induction room : limit - steps using Nat.strongRecOn generalizing steps team with
  | ind room inductionHypothesis =>
    rcases onward runs with ended | ⟨index, later, step⟩
    · exact ⟨steps, team, runs, ended⟩
    · have further := runs.step step
      have within := bounded further
      exact inductionHypothesis (limit - (steps + 1)) (by omega) further rfl

/-- Two threads are to mark the marker clean that one of two stores has opened.  Both succeed, one record is
written, and in the end the file tells what is cached. -/
theorem consistent_pair :
    ∃ obeyed, (Fleet.pair.stores true).obey 40 Fleet.pair.memory (.operate .openMarker) = some obeyed ∧
      ∃ handle steps, ∃ team : Team Bool,
        Runs ⟨⟨"marker"⟩, .standard⟩
          { world := obeyed.store.world obeyed.storage, ahead := fun _ => [(.dirty, false)] }
          steps team ∧
        (∀ index, team.running index = none ∧ team.ahead index = []) ∧
        (∀ index, ∃ call ∈ team.returned, call.thread = index ∧ call.outcome = .ok ()) ∧
        (team.world.storage.contents ⟨"marker"⟩).bind Record.decode? = some team.world.cached ∧
        ∃ record : Record, accepted team.taken <+: laid handle 0 record.encode := by
  obtain ⟨obeyed, same, opened, target⟩ : ∃ obeyed,
      (Fleet.pair.stores true).obey 40 Fleet.pair.memory (.operate .openMarker) = some obeyed ∧
        obeyed.store.lifecycle.state = .opened ∧
        obeyed.store.target = ⟨⟨"marker"⟩, .standard⟩ := ⟨_, rfl, rfl, rfl⟩
  have allowed : Fleet.Allowed (Fleet.pair.stores true) (.operate .openMarker) := trivial
  have reached := Fleet.Reachable.step Fleet.reachable_pair allowed same
  have alsoOpened : ((Fleet.pair.put true obeyed).stores true).lifecycle.state = .opened := opened
  obtain ⟨⟨handle, bytes, holds⟩, -⟩ := reached.exclusive.1.holds_of_opened alsoOpened
  change obeyed.store.Holds obeyed.storage handle bytes at holds
  have inHand := holds.inHand
  rw [target] at inHand
  have decoded : Record.decode? bytes = some obeyed.store.cached := by
    rw [Record.decode?_eq_loaded (Nat.lt_of_lt_of_le Nat.two_pos holds.long), holds.told]
  have consistent : ∀ {steps} {team : Team Bool}, Runs ⟨⟨"marker"⟩, .standard⟩
      { world := obeyed.store.world obeyed.storage, ahead := fun _ => [(.dirty, false)] } steps team →
      Consistent ⟨⟨"marker"⟩, .standard⟩ handle _ steps team := fun runs =>
    consistent (congrArg Lifecycle.handle holds.lifecycle) inHand decoded runs
  obtain ⟨steps, team, runs, ended⟩ := Runs.completes (fun runs => (consistent runs).bounded)
    (fun runs => (consistent runs).onward) .here
  have sound := consistent runs
  have free : team.holder = none := by
    refine Option.eq_none_iff_forall_ne_some.2 fun index holds => ?_
    obtain ⟨call, isRunning⟩ := sound.held holds
    rw [(ended index).1] at isRunning
    cases isRunning
  have alike : ∀ index : Bool, ∀ change ∈ [(Flag.dirty, false)], change = (Flag.dirty, false) :=
    fun _ _ => List.mem_singleton.1
  refine ⟨obeyed, same, handle, steps, team, runs, ended, fun index => ?_, sound.told free,
    sound.once alike⟩
  have planned : (team.returned.filter (·.thread = index)).map (fun call => (call.flag, call.value)) =
      [(Flag.dirty, false)] := by
    simpa [plan, ended index] using sound.planned index
  obtain ⟨call, member, -⟩ := List.mem_map.1 (planned ▸ List.mem_singleton_self (Flag.dirty, false))
  obtain ⟨returned, thread⟩ := List.mem_filter.1 member
  exact ⟨call, returned, of_decide_eq_true thread, (sound.returned call returned).1⟩

end Team

end CrashMarker
