/-
Module: CrashMarker.Proofs.Exclusion
Purpose: Of all stores that lock the same marker, at most one has it open.
Main exports: Fleet, Fleet.Reachable, Fleet.Exclusive, Reachable.exclusive, lock_excludes
-/
import CrashMarker.Proofs.Reference

namespace CrashMarker

open Memory (Calm)

/-! ## Stores that share a memory -/

/-- Stores that work on the same memory. -/
structure Fleet (ι : Type) where
  stores : ι → Store
  memory : Memory

namespace Fleet

variable {ι : Type} [DecidableEq ι]

/-- The fleet after one of its stores has done something. -/
def put (fleet : Fleet ι) (index : ι) (obeyed : Obeyed Memory) : Fleet ι where
  stores other := if other = index then obeyed.store else fleet.stores other
  memory := obeyed.storage

/-- A store deletes only what it has open, or it has not done anything yet.  A store that has let go
of its marker would remove the marker of whoever has it now. -/
def Allowed (store : Store) : Command → Prop
  | .operate .delete => store.lifecycle.state = .opened ∨ store.lifecycle.state = .unopened
  | _ => True

/-- What may become of new stores, which all lock the same marker, as one after the other carries out
a command. -/
inductive Reachable (path : Path) : Fleet ι → Prop where
  | start {configs : ι → Config} {memory : Memory} {content : Option (List UInt8)}
      (locking : ∀ index, (configs index).fileLock = true)
      (atRest : memory.AtRest path (content.map fun bytes => { bytes })) :
      Reachable path ⟨fun index => .fresh ⟨path, configs index⟩, memory⟩
  | step {fleet : Fleet ι} {index : ι} {command : Command} {budget : Nat}
      {obeyed : Obeyed Memory} (reached : Reachable path fleet)
      (allowed : Allowed (fleet.stores index) command)
      (carriedOut : (fleet.stores index).obey budget fleet.memory command = some obeyed) :
      Reachable path (fleet.put index obeyed)

end Fleet

/-! ## Stores that wait -/

/-- A store that has nothing open, and no claim on any file if it has not opened one yet. -/
structure Store.Waits (store : Store) : Prop where
  notOpen : store.lifecycle.state ≠ .opened
  letGo : store.lifecycle.handle = none
  unlocked : store.lifecycle.locked = false
  unconcerned : store.lifecycle.state = .unopened → store.lifecycle.associated = false

/-- A store that has the file of its path open under a lock, with the flags that the file tells. -/
structure Store.Holds (store : Store) (memory : Memory) (handle : Handle) (bytes : List UInt8) :
    Prop where
  lifecycle : store.lifecycle = ⟨.opened, some handle, true, true⟩
  long : 2 ≤ bytes.length
  told : Record.loaded (some bytes) = store.cached
  inHand : memory.InHand store.target.path handle ⟨bytes, some handle⟩

variable {store next : Store} {memory after : Memory} {operation : Operation}
  {outcome : Except StoreError Unit} {file : FileObject}

/-- A marker that is locked by another is not set up, and everything stays as it is. -/
theorem SetUp.refused {owner : Option Handle} {record : Record}
    {world : World Memory}
    (setUp : SetUp (fun _ => False) store.target (some file) owner record (store.world memory)
      outcome world)
    (locking : store.target.config.fileLock = true) (owned : file.owner.isSome) :
    outcome = .error (.locked store.target.path) ∧ store.after world = store ∧
      world.storage.AtRest store.target.path (some file) := by
  cases setUp with
  | opened _ _ _ _ free =>
    rcases free locking with nobody | ⟨cause, impossible⟩
    · rw [Option.bind_some] at nobody
      rw [nobody] at owned
      cases owned
    · exact impossible.elim
  | locked held _ _ cached lifecycle atRest =>
    cases held
    refine ⟨rfl, ?_, atRest⟩
    rw [Store.after, cached, lifecycle]
    rfl
  | failed failing => exact failing.elim

namespace Store

/-- What the machine would be like that a store is to be compared with. -/
def reference (store : Store) (loaded : Record) : Reference where
  state := store.lifecycle.state
  locked := store.lifecycle.locked
  cached := store.cached
  loaded := loaded

/-- A store that waits is mirrored by a machine without the lock. -/
theorem Waits.mirrors {found : Option FileObject} (waits : store.Waits)
    (free : found.bind (·.owner) = none) (atRest : memory.AtRest store.target.path found) :
    (store.reference (Record.loaded (found.map (·.bytes)))).Mirrors store memory :=
  .resting waits.notOpen waits.unlocked rfl waits.letGo waits.unlocked waits.unconcerned rfl free rfl
    atRest

/-- A store that holds the marker is mirrored by a machine that has the lock. -/
theorem Holds.mirrors {handle : Handle} {bytes : List UInt8}
    (holds : store.Holds memory handle bytes) (locking : store.target.config.fileLock = true) :
    (store.reference store.cached).Mirrors store memory := by
  have locked : store.lifecycle.locked = store.target.config.fileLock := by
    rw [locking]
    exact congrArg Lifecycle.locked holds.lifecycle
  have lifecycle : store.lifecycle = ⟨.opened, some handle, store.target.config.fileLock, true⟩ := by
    rw [locking]
    exact holds.lifecycle
  have inHand : memory.InHand store.target.path handle
      ⟨bytes, if store.target.config.fileLock then some handle else none⟩ := by
    rw [locking]
    exact holds.inHand
  exact .holding (congrArg Lifecycle.state holds.lifecycle) locked rfl lifecycle rfl holds.long
    holds.told inHand

/-- A store with its marker either waits, or it has the marker. -/
theorem waits_or_holds {reference : Reference} (mirrors : reference.Mirrors store memory)
    (locking : store.target.config.fileLock = true) :
    (store.Waits ∧ ∃ found, found.bind (·.owner) = none ∧
      memory.AtRest store.target.path found) ∨ ∃ handle bytes, store.Holds memory handle bytes := by
  cases mirrors with
  | resting notOpen _ state letGo unlocked unconcerned _ free _ atRest =>
    refine Or.inl ⟨⟨?_, letGo, unlocked, ?_⟩, _, free, atRest⟩
    · rw [state]
      exact notOpen
    · rw [state]
      exact unconcerned
  | holding opened _ coherent lifecycle cached long told inHand =>
    rw [locking] at lifecycle inHand
    exact Or.inr ⟨_, _, lifecycle, long, by rw [told, coherent, cached], inHand⟩

/-- While another store has the lock, a store that waits goes on waiting, whatever it is asked, and
leaves the file as it is. -/
theorem Waits.beside (waits : store.Waits) (locking : store.target.config.fileLock = true)
    (owned : file.owner.isSome) (atRest : memory.AtRest store.target.path (some file))
    (allowed : Fleet.Allowed store (.operate operation))
    (performs : store.Performs Calm operation memory outcome next after) :
    next = store ∧ after.AtRest store.target.path (some file) ∧
      (operation = .create ∨ operation = .openMarker →
        outcome = .error (.locked store.target.path)) := by
  have start : memory.Shows store.target.path fun contents =>
      Record.loaded contents = Record.loaded ((some file).map (·.bytes)) := atRest.shows_iff.2 rfl
  cases operation with
  | create =>
    obtain ⟨world, ⟨setUp, -⟩, rfl, rfl⟩ := performs.of_upholds (Memory.shows_anything _ _)
      (atRest.upholds_create trivial (fun _ => trivial) waits.notOpen)
    obtain ⟨rfl, same, left⟩ := setUp.refused locking owned
    exact ⟨same, left, fun _ => rfl⟩
  | openMarker =>
    obtain ⟨world, setUp, rfl, rfl⟩ := performs.of_upholds start
      (atRest.upholds_openMarker waits.notOpen)
    obtain ⟨rfl, same, left⟩ := setUp.refused locking owned
    exact ⟨same, left, fun _ => rfl⟩
  | closeMarker =>
    obtain ⟨rfl, rfl, rfl⟩ := performs.unchanged (upholds_closeMarker_idle waits.letGo)
    exact ⟨rfl, atRest, nofun⟩
  | delete =>
    have unopened := allowed.resolve_left waits.notOpen
    obtain ⟨rfl, rfl, rfl⟩ := performs.unchanged
      (upholds_delete_idle unopened (waits.unconcerned unopened))
    exact ⟨rfl, atRest, nofun⟩
  | transition flag value =>
    by_cases same : store.cached.get flag = value
    · obtain ⟨rfl, rfl, rfl⟩ := performs.unchanged (upholds_transition_idle same)
      exact ⟨rfl, atRest, nofun⟩
    · obtain ⟨rfl, rfl, rfl⟩ := performs.unchanged (upholds_transition_refused same waits.letGo)
      exact ⟨rfl, atRest, nofun⟩

theorem waits_fresh (target : Target) : (Store.fresh target).Waits :=
  ⟨nofun, rfl, rfl, fun _ => rfl⟩

/-- The same for every command, where a store that vanishes is replaced by another one that waits. -/
theorem Waits.obey_beside {budget : Nat} {command : Command} {obeyed : Obeyed Memory}
    (waits : store.Waits) (locking : store.target.config.fileLock = true)
    (owned : file.owner.isSome) (atRest : memory.AtRest store.target.path (some file))
    (allowed : Fleet.Allowed store command)
    (same : store.obey budget memory command = some obeyed) :
    obeyed.store.Waits ∧ obeyed.store.target = store.target ∧
      obeyed.storage.AtRest store.target.path (some file) ∧
      (command = .operate .create ∨ command = .operate .openMarker →
        obeyed.outcome = some (.error (.locked store.target.path)) ∧ obeyed.store = store) := by
  cases command with
  | restart =>
    cases same
    rw [crash_of_letGo waits.letGo]
    refine ⟨waits_fresh _, rfl, atRest, ?_⟩
    rintro (isCreate | isOpen)
    · cases isCreate
    · cases isOpen
  | operate operation =>
    obtain ⟨outcome, told, performed⟩ := performs_of_obey same
    obtain ⟨-, performs⟩ := performed.viewed Memory.views_calm trivial
    obtain ⟨unchanged, left, refused⟩ := waits.beside locking owned atRest allowed performs
    rw [unchanged]
    refine ⟨waits, rfl, left, fun either => ⟨?_, rfl⟩⟩
    rw [told, refused]
    rcases either with isCreate | isOpen
    · cases isCreate
      exact Or.inl rfl
    · cases isOpen
      exact Or.inr rfl

end Store

/-! ## The invariant -/

namespace Fleet

variable {ι : Type} [DecidableEq ι] {path : Path} {fleet : Fleet ι} {index : ι} {command : Command}
  {budget : Nat} {obeyed : Obeyed Memory}

def Locking (path : Path) (fleet : Fleet ι) : Prop :=
  ∀ index, (fleet.stores index).target.path = path ∧
    (fleet.stores index).target.config.fileLock = true

/-- Either all stores wait and nobody has the lock, or one has the marker and all others wait. -/
inductive Exclusive (path : Path) (fleet : Fleet ι) : Prop where
  | free {found : Option FileObject} (waiting : ∀ index, (fleet.stores index).Waits)
      (unowned : found.bind (·.owner) = none) (atRest : fleet.memory.AtRest path found)
  | held {holder : ι} {handle : Handle} {bytes : List UInt8}
      (holds : (fleet.stores holder).Holds fleet.memory handle bytes)
      (waiting : ∀ index, index ≠ holder → (fleet.stores index).Waits)

theorem Locking.put (locking : fleet.Locking path)
    (kept : obeyed.store.target = (fleet.stores index).target) :
    (fleet.put index obeyed).Locking path := by
  intro other
  unfold Fleet.put
  by_cases same : other = index
  · simp only [same, if_true, kept]
    exact locking index
  · simp only [same, if_false]
    exact locking other

theorem put_self : (fleet.put index obeyed).stores index = obeyed.store := if_pos rfl

theorem put_of_ne {other : ι} (different : other ≠ index) :
    (fleet.put index obeyed).stores other = fleet.stores other := if_neg different

/-- A store that has acted by itself either waits then, like all others, or it has the marker. -/
theorem exclusive_put_of_mirrors {reference : Reference}
    (mirrors : reference.Mirrors obeyed.store obeyed.storage)
    (samePath : obeyed.store.target.path = path)
    (locking : obeyed.store.target.config.fileLock = true)
    (others : ∀ other, other ≠ index → (fleet.stores other).Waits) :
    (fleet.put index obeyed).Exclusive path := by
  rcases Store.waits_or_holds mirrors locking with ⟨waits, found, unowned, atRest⟩ |
    ⟨handle, bytes, holds⟩
  · rw [samePath] at atRest
    refine .free (fun other => ?_) unowned atRest
    by_cases same : other = index
    · rw [same, put_self]
      exact waits
    · rw [put_of_ne same]
      exact others other same
  · have holding : ((fleet.put index obeyed).stores index).Holds (fleet.put index obeyed).memory
        handle bytes := by
      rw [put_self]
      exact holds
    refine .held holding fun other different => ?_
    rw [put_of_ne different]
    exact others other different

/-- Whatever one of the stores is asked to do, at most one of them has the marker. -/
theorem Exclusive.put (exclusive : fleet.Exclusive path) (locking : fleet.Locking path)
    (allowed : (∃ other, other ≠ index ∧ (fleet.stores other).lifecycle.state = .opened) →
      Allowed (fleet.stores index) command)
    (same : (fleet.stores index).obey budget fleet.memory command = some obeyed) :
    (fleet.put index obeyed).Exclusive path ∧ (fleet.put index obeyed).Locking path := by
  obtain ⟨samePath, locks⟩ := locking index
  cases exclusive with
  | free waiting unowned atRest =>
    rw [← samePath] at atRest
    obtain ⟨-, kept, mirrors⟩ :=
      Reference.Mirrors.obey Memory.views_calm ((waiting index).mirrors unowned atRest) same
    refine ⟨exclusive_put_of_mirrors mirrors ?_ ?_ fun other _ => waiting other, locking.put kept⟩
    · rw [kept, samePath]
    · rw [kept, locks]
  | @held holder handle bytes holds waiting =>
    by_cases acts : index = holder
    · rw [← acts] at holds waiting
      obtain ⟨-, kept, mirrors⟩ :=
        Reference.Mirrors.obey Memory.views_calm (holds.mirrors locks) same
      refine ⟨exclusive_put_of_mirrors mirrors ?_ ?_ waiting, locking.put kept⟩
      · rw [kept, samePath]
      · rw [kept, locks]
    · have atRest := holds.inHand.atRest
      rw [(locking holder).1, ← samePath] at atRest
      have opened := congrArg Lifecycle.state holds.lifecycle
      obtain ⟨waits, kept, left, -⟩ := (waiting index acts).obey_beside locks rfl atRest
        (allowed ⟨holder, Ne.symm acts, opened⟩) same
      refine ⟨?_, locking.put kept⟩
      have holding : ((fleet.put index obeyed).stores holder).Holds (fleet.put index obeyed).memory
          handle bytes := by
        rw [put_of_ne (Ne.symm acts)]
        rw [samePath, ← (locking holder).1] at left
        exact ⟨holds.lifecycle, holds.long, holds.told, left.inHand_of_owner rfl⟩
      refine .held holding fun other different => ?_
      by_cases actor : other = index
      · rw [actor, put_self]
        exact waits
      · rw [put_of_ne actor]
        exact waiting other different

/-- Wherever the stores have got to, one of them has the marker or none has. -/
theorem Reachable.exclusive (reachable : fleet.Reachable path) :
    fleet.Exclusive path ∧ fleet.Locking path := by
  induction reachable with
  | @start configs memory content locking atRest =>
    have unowned : (content.map fun bytes => ({ bytes } : FileObject)).bind (·.owner) = none := by
      cases content <;> rfl
    exact ⟨.free (fun _ => Store.waits_fresh _) unowned atRest, fun index => ⟨rfl, locking index⟩⟩
  | step _ allowed carriedOut inductionHypothesis =>
    exact inductionHypothesis.1.put inductionHypothesis.2 (fun _ => allowed) carriedOut

/-- A command is carried out, and what comes of it is as it should be. -/
def Returns (store : Store) (memory : Memory) (command : Command) (good : Obeyed Memory → Prop) :
    Prop :=
  (∃ budget obeyed, store.obey budget memory command = some obeyed) ∧
    ∀ budget obeyed, store.obey budget memory command = some obeyed → good obeyed

/-- Since every command is carried out, it is enough to look at the commands that have been. -/
theorem returns_of_obey {store : Store} {memory : Memory} {good : Obeyed Memory → Prop}
    (holds : ∀ budget obeyed, store.obey budget memory command = some obeyed → good obeyed) :
    Returns store memory command good :=
  ⟨Store.exists_obey Memory.patient store memory command, holds⟩

/-- If a store is open, it is the one that has the marker. -/
theorem Exclusive.holds_of_opened (exclusive : fleet.Exclusive path)
    (opened : (fleet.stores index).lifecycle.state = .opened) :
    (∃ handle bytes, (fleet.stores index).Holds fleet.memory handle bytes) ∧
      ∀ other, other ≠ index → (fleet.stores other).Waits := by
  cases exclusive with
  | free waiting => exact absurd opened (waiting index).notOpen
  | @held holder handle bytes holds waiting =>
    by_cases same : index = holder
    · rw [same]
      exact ⟨⟨handle, bytes, holds⟩, waiting⟩
    · exact absurd opened (waiting index same).notOpen

/-- While a store has the marker, another one that is to create or open it finds it locked. -/
theorem returns_locked {holder other : ι} {operation : Operation} (exclusive : fleet.Exclusive path)
    (locking : fleet.Locking path) (opened : (fleet.stores holder).lifecycle.state = .opened)
    (different : other ≠ holder) (setsUp : operation = .create ∨ operation = .openMarker) :
    Returns (fleet.stores other) fleet.memory (.operate operation) fun obeyed =>
      obeyed.outcome = some (.error (.locked path)) ∧
      (fleet.put other obeyed).stores = fleet.stores ∧
      obeyed.storage.file path = fleet.memory.file path := by
  obtain ⟨⟨handle, bytes, holds⟩, waiting⟩ := exclusive.holds_of_opened opened
  obtain ⟨samePath, locks⟩ := locking other
  have atRest := holds.inHand.atRest
  rw [(locking holder).1] at atRest
  have here := atRest
  rw [← samePath] at here
  have allowed : Allowed (fleet.stores other) (.operate operation) := by
    rcases setsUp with rfl | rfl
    · trivial
    · trivial
  refine returns_of_obey fun budget obeyed same => ?_
  obtain ⟨-, -, left, refused⟩ :=
    (waiting other different).obey_beside locks rfl here allowed same
  obtain ⟨outcome, unchanged⟩ := refused (by
    rcases setsUp with rfl | rfl
    · exact Or.inl rfl
    · exact Or.inr rfl)
  refine ⟨by rw [outcome, samePath], ?_, ?_⟩
  · funext index
    by_cases actor : index = other
    · rw [actor, put_self, unchanged]
    · rw [put_of_ne actor]
  · rw [samePath] at left
    rw [left.found, atRest.found]

/-- When the store that has the marker lets go of it, no store has it any more. -/
theorem returns_free {holder : ι} (exclusive : fleet.Exclusive path) (locking : fleet.Locking path)
    (opened : (fleet.stores holder).lifecycle.state = .opened)
    (letsGo : command = .operate .closeMarker ∨ command = .operate .delete ∨ command = .restart) :
    Returns (fleet.stores holder) fleet.memory command fun obeyed =>
      ∀ index, ((fleet.put holder obeyed).stores index).lifecycle.state ≠ .opened := by
  obtain ⟨⟨handle, bytes, holds⟩, waiting⟩ := exclusive.holds_of_opened opened
  refine returns_of_obey fun budget obeyed same index => ?_
  by_cases actor : index = holder
  · obtain ⟨-, -, mirrors⟩ := Reference.Mirrors.obey Memory.views_calm
      (holds.mirrors (locking holder).2) same
    have state := congrArg Reference.state mirrors.seen
    simp only at state
    rw [actor, put_self, state]
    rcases letsGo with rfl | rfl | rfl
    · simp [Reference.obey, Reference.operate, Store.reference, opened]
    · simp [Reference.obey, Reference.operate, Store.reference, opened]
    · simp [Reference.obey]
  · rw [put_of_ne actor]
    exact (waiting index actor).notOpen

/-- A store that waits can create or open its marker if nobody has the lock, and gets it. -/
theorem returns_opened_of_waits {store : Store} {memory : Memory} {found : Option FileObject}
    {operation : Operation} (waits : store.Waits) (locks : store.target.config.fileLock = true)
    (unowned : found.bind (·.owner) = none) (atRest : memory.AtRest store.target.path found)
    (setsUp : operation = .create ∨ operation = .openMarker) :
    Returns store memory (.operate operation) fun obeyed =>
      obeyed.outcome = some (.ok ()) ∧ obeyed.store.lifecycle.state = .opened ∧
      obeyed.store.lifecycle.locked = true := by
  refine returns_of_obey fun budget obeyed same => ?_
  obtain ⟨outcome, -, mirrors⟩ := Reference.Mirrors.obey Memory.views_calm
    (waits.mirrors unowned atRest) same
  have state := congrArg Reference.state mirrors.seen
  have locked := congrArg Reference.locked mirrors.seen
  simp only at state locked
  rw [outcome, state, locked]
  rcases setsUp with rfl | rfl
  · simp [Reference.obey, Reference.operate, Store.reference, waits.notOpen, locks]
  · simp [Reference.obey, Reference.operate, Store.reference, waits.notOpen, locks]

omit [DecidableEq ι] in
/-- While no store has the marker, every store can create or open it, and gets the lock. -/
theorem returns_opened {operation : Operation} (exclusive : fleet.Exclusive path)
    (locking : fleet.Locking path) (none : ∀ index, (fleet.stores index).lifecycle.state ≠ .opened)
    (setsUp : operation = .create ∨ operation = .openMarker) :
    Returns (fleet.stores index) fleet.memory (.operate operation) fun obeyed =>
      obeyed.outcome = some (.ok ()) ∧ obeyed.store.lifecycle.state = .opened ∧
      obeyed.store.lifecycle.locked = true := by
  obtain ⟨samePath, locks⟩ := locking index
  cases exclusive with
  | held holds => exact absurd (congrArg Lifecycle.state holds.lifecycle) (none _)
  | free waiting unowned atRest =>
    rw [← samePath] at atRest
    exact returns_opened_of_waits (waiting index) locks unowned atRest setsUp

/-- At most one store has its marker open.  It has it open under a lock, on the file at the path, and
the file tells its flags.  Meanwhile no other store can create or open the marker, and trying changes
nothing.  Once it has closed or deleted its marker or has vanished no store has the marker open, and
as long as that is so every store can create it or open it and gets the lock. -/
theorem lock_excludes (reachable : fleet.Reachable path) :
    (∀ first second, (fleet.stores first).lifecycle.state = .opened →
      (fleet.stores second).lifecycle.state = .opened → first = second) ∧
    (∀ holder, (fleet.stores holder).lifecycle.state = .opened →
      (∃ handle file, (fleet.stores holder).lifecycle.handle = some handle ∧
        fleet.memory.InHand path handle file ∧ file.owner = some handle ∧
        Record.decode? file.bytes = some (fleet.stores holder).cached) ∧
      (∀ other, other ≠ holder → ∀ operation, operation = .create ∨ operation = .openMarker →
        Returns (fleet.stores other) fleet.memory (.operate operation) fun obeyed =>
          obeyed.outcome = some (.error (.locked path)) ∧
          (fleet.put other obeyed).stores = fleet.stores ∧
          obeyed.storage.file path = fleet.memory.file path) ∧
      ∀ command, command = .operate .closeMarker ∨ command = .operate .delete ∨
          command = .restart →
        Returns (fleet.stores holder) fleet.memory command fun obeyed =>
          ∀ index, ((fleet.put holder obeyed).stores index).lifecycle.state ≠ .opened) ∧
    ((∀ index, (fleet.stores index).lifecycle.state ≠ .opened) →
      ∀ index operation, operation = .create ∨ operation = .openMarker →
        Returns (fleet.stores index) fleet.memory (.operate operation) fun obeyed =>
          obeyed.outcome = some (.ok ()) ∧ obeyed.store.lifecycle.state = .opened ∧
          obeyed.store.lifecycle.locked = true) := by
  obtain ⟨exclusive, locking⟩ := reachable.exclusive
  refine ⟨?_, ?_, ?_⟩
  · intro first second opened alsoOpened
    obtain ⟨-, waiting⟩ := exclusive.holds_of_opened opened
    by_cases same : first = second
    · exact same
    · exact absurd alsoOpened (waiting second (Ne.symm same)).notOpen
  · intro holder opened
    refine ⟨?_, ?_, ?_⟩
    · obtain ⟨⟨handle, bytes, holds⟩, -⟩ := exclusive.holds_of_opened opened
      have inHand := holds.inHand
      rw [(locking holder).1] at inHand
      have nonempty : 0 < bytes.length := Nat.lt_of_lt_of_le Nat.two_pos holds.long
      exact ⟨handle, _, congrArg Lifecycle.handle holds.lifecycle, inHand, rfl,
        (Record.decode?_eq_loaded nonempty).trans (congrArg some holds.told)⟩
    · intro other different operation setsUp
      exact returns_locked exclusive locking opened different setsUp
    · intro command letsGo
      exact returns_free exclusive locking opened letsGo
  · intro none index operation setsUp
    exact returns_opened exclusive locking none setsUp

/-- Two stores that lock one marker. -/
def pair : Fleet Bool :=
  ⟨fun _ => .fresh ⟨⟨"marker"⟩, .standard⟩, .slow ⟨"marker"⟩ [1]⟩

theorem reachable_pair : pair.Reachable ⟨"marker"⟩ := by
  have atRest : (Memory.slow ⟨"marker"⟩ [1]).AtRest ⟨"marker"⟩
      ((some [1]).map fun bytes => { bytes }) := Memory.atRest_slow _ _
  exact .start (fun _ => rfl) atRest

/-- When the one has opened the marker, the other one cannot replace it. -/
theorem lock_excludes_pair :
    ∃ obeyed, (pair.stores true).obey 40 pair.memory (.operate .openMarker) = some obeyed ∧
      obeyed.store.lifecycle.state = .opened ∧
      Returns ((pair.put true obeyed).stores false) obeyed.storage (.operate .create) fun refused =>
        refused.outcome = some (.error (.locked ⟨"marker"⟩)) := by
  obtain ⟨obeyed, same, opened⟩ : ∃ obeyed,
      (pair.stores true).obey 40 pair.memory (.operate .openMarker) = some obeyed ∧
        obeyed.store.lifecycle.state = .opened := ⟨_, rfl, rfl⟩
  refine ⟨obeyed, same, opened, ?_⟩
  have allowed : Allowed (pair.stores true) (.operate .openMarker) := trivial
  have excludes := lock_excludes (.step reachable_pair allowed same)
  obtain ⟨-, others, -⟩ := excludes.2.1 true opened
  obtain ⟨returns, locked⟩ := others false nofun .create (Or.inl rfl)
  exact ⟨returns, fun budget refused carriedOut => (locked budget refused carriedOut).1⟩

end Fleet

end CrashMarker
