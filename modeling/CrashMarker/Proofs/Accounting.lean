/-
Module: CrashMarker.Proofs.Accounting
Purpose: How many writes a store makes on a memory, over everything that is asked of it.
Main exports:
  Memory.Capped, tells_openMarker_writes, Dealing, Dealing.Frugal, Store.dealings, writes_accounted
-/
import CrashMarker.Proofs.Reference
import CrashMarker.Proofs.Traces.Writes

namespace CrashMarker

/-!
A record costs a fixed number of writes, which depends on nothing but how many bytes one write may move.
A store writes one when it has created a marker, when it has opened one that did not have both flags, and
when it has changed a flag.  Nothing else that is asked of it costs any.
-/

open Memory (Unreliable Shows writesFor)

/-! ## A memory with a limit on transfers -/

namespace Memory

/-- Answering as the memory does, with a limit on transfers and with any transfer interrupted. -/
def Capped (cap : Nat) : Conduct Memory := fun request before answer after =>
  ∃ interrupts, (before.paced cap interrupts).answer request = (answer, after)

variable {cap : Nat}

/-- A capped answer is one that a calm memory may give at some pace. -/
theorem Capped.calm (request : Request) (before : Memory) (answer : request.Answer) (after : Memory)
    (capped : Capped cap request before answer after) : Calm request before answer after := by
  obtain ⟨interrupts, answered⟩ := capped
  exact .served cap interrupts answered

/-- A call counts among the writes if it moves bytes, and it leaves the limit on transfers alone. -/
theorem counters_answer {memory after : Memory} {request : Request} {answer : request.Answer}
    (answered : memory.answer request = (answer, after)) :
    after.maxTransfer = memory.maxTransfer ∧ after.writeCalls =
      memory.writeCalls + if Taken.moves ⟨.ask request, answer⟩ then 1 else 0 := by
  cases request with
  | writeAt handle offset bytes =>
    rcases writeAt_cases answered with ⟨cause, interrupts, rfl, rfl⟩ | ⟨rfl, rfl, rfl⟩ |
      ⟨object, file, behind, some, rfl, rfl⟩
    · exact ⟨rfl, rfl⟩
    · exact ⟨rfl, rfl⟩
    · have moves := Nat.ne_of_gt (memory.transferLength_pos some)
      refine ⟨rfl, ?_⟩
      simp [Taken.moves, moves]
  | present path =>
    cases answered
    exact ⟨rfl, rfl⟩
  | createNew path =>
    simp only [Memory.answer, createNew] at answered
    split at answered <;> cases answered <;> exact ⟨rfl, rfl⟩
  | remove path =>
    simp only [Memory.answer, remove] at answered
    repeat' split at answered
    all_goals cases answered; exact ⟨rfl, rfl⟩
  | openFile path =>
    simp only [Memory.answer, openFile] at answered
    repeat' split at answered
    all_goals cases answered; exact ⟨rfl, rfl⟩
  | _ =>
    -- No other call through a handle counts, whether there is anything behind the handle or not.
    rcases withObject_cases answered with ⟨-, same⟩ | ⟨object, file, behind, same⟩
    · cases same
      exact ⟨rfl, rfl⟩
    · repeat' split at same
      all_goals cases same; exact ⟨rfl, rfl⟩

/-- On such a memory every write that is accepted moves as much as it may. -/
theorem movesUpTo_capped : (Capped cap).MovesUpTo cap := by
  intro handle offset bytes before after moved capped
  obtain ⟨interrupts, answered⟩ := capped
  rcases writeAt_cases answered with ⟨cause, waits, impossible, -⟩ | ⟨rfl, same, -⟩ |
    ⟨object, file, behind, some, same, -⟩
  · cases impossible
  · cases same
    simp
  · cases same
    rfl

end Memory

/-- The memory counts exactly the writes that have moved bytes. -/
theorem Script.Passes.writeCalls {α : Type} {cap : Nat} {script last : Script α}
    {world after : World Memory} {taken : List Taken}
    (passes : Script.Passes (Memory.Capped cap) script world taken last after) :
    after.storage.writeCalls = world.storage.writeCalls + writesMade taken := by
  induction passes with
  | here => rfl
  | @step _ _ action _ before middle after answer taken acting allowed _ ih =>
    have one : middle.storage.writeCalls =
        before.storage.writeCalls + if Taken.moves ⟨action, answer⟩ then 1 else 0 := by
      cases action with
      | ask request =>
        obtain ⟨storage, ⟨interrupts, answered⟩, rfl⟩ := allowed
        exact (Memory.counters_answer answered).2
      | close handle =>
        cases allowed
        exact Memory.writeCalls_close _ _
      | _ =>
        cases allowed
        rfl
    rw [ih, one, writesMade_cons]
    omega

/-! ## Opening a marker -/

/-- What is loaded through a handle is what the file says. -/
theorem Memory.InHand.tells_load {world : World Memory} {path : Path} {handle : Handle}
    {file : FileObject} {cap : Nat} (inHand : world.storage.InHand path handle file) :
    (Target.load handle).Tells (Memory.Capped cap) world fun _ outcome _ =>
      ∀ loaded, outcome = .ok loaded →
        loaded = (Layout.ofSize file.bytes.length, Record.decode? file.bytes) := by
  have serves : Serves (Unreliable fun _ => False) (Shows path fun _ => True) handle (fun _ => False)
      (fun bytes memory => memory.InHand path handle { file with bytes }) fun _ => True :=
    Memory.serves (fun _ => True) path handle file
  apply ((serves.upholds_load trivial inHand).tells (Memory.shows_anything _ _)
    Memory.Capped.calm).mono
  intro taken outcome after told loaded found
  obtain ⟨-, -, same | ⟨cause, error, impossible, -⟩⟩ := told
  · rw [found] at same
    exact Except.ok.inj same
  · exact impossible.elim

/-- Opening writes a record if the file that it found lacked a flag, and nothing otherwise. -/
theorem tells_openMarker_writes {world : World Memory} {target : Target} {found : Option FileObject}
    {cap : Nat} (atRest : world.storage.AtRest target.path found) :
    target.openMarker.Tells (Memory.Capped cap) world fun taken outcome _ =>
      outcome = .ok () → writesMade taken =
        if lacksFlags (found.map (·.bytes)) then writesFor cap 2 else 0 := by
  unfold Target.openMarker
  apply Guarded.tells_script
  apply Guarded.tells_bind
  apply Guarded.tells_ensureNotOpen
  · intro opened failed
    cases failed
  intro notOpen
  apply Guarded.tells_bind
  apply ((tells_ensurePresent target).and ((atRest.upholds_ensurePresent target).tells
    (atRest.shows_iff.2 rfl) Memory.Capped.calm)).mono
  intro making outcome left made told
  obtain ⟨⟨-, -, passive, -⟩, -, -, now, there, standing, -⟩ := told
  have lacks : lacksFlags (now.map (·.bytes)) = lacksFlags (found.map (·.bytes)) := by
    rcases standing with ⟨rfl, -⟩ | ⟨rfl, rfl⟩
    · rfl
    · rfl
  cases outcome with
  | error error =>
    intro failed
    cases failed
  | ok done =>
    apply Guarded.tells_bind
    apply Guarded.tells_call
    intro answer storage answered
    rcases there.openFile (Memory.Capped.calm _ _ _ _ answered) with
      ⟨file, handle, rfl, rfl, free, here⟩ | ⟨cause, rfl, -⟩
    · have locks : (target.acquireLock handle).Tells (Memory.Capped cap) left
          { made with storage } fun _ outcome _ after => ∀ locked, outcome = .ok locked →
            ∃ owner, after.storage.InHand target.path handle { file with owner } := by
        apply ((here.upholds_acquireLock target free).tells (Memory.shows_anything _ _)
          Memory.Capped.calm).mono
        intro locking outcome left middle told locked done
        obtain ⟨-, -, ⟨-, -, taken⟩ | ⟨held, -, -, refused⟩⟩ := told
        · exact ⟨_, taken⟩
        · subst done
          obtain ⟨impossible, -⟩ | ⟨-, -, impossible, -⟩ := refused
          · cases impossible
          · exact impossible.elim
      have prepares : ∀ {current} {middle : World Memory},
          (∃ owner, middle.storage.InHand target.path handle { file with owner }) →
          (target.normalize handle).Tells (Memory.Capped cap) current middle
            fun taken outcome _ _ => ∀ record, outcome = .ok record →
              writesMade taken = if lacksFlags (some file.bytes) then writesFor cap 2 else 0 := by
        intro current middle ready
        obtain ⟨owner, taken⟩ := ready
        exact tells_normalize_writes Memory.movesUpTo_capped target taken.tells_load
      apply (tells_takeOver_writes locks prepares).mono
      intro taking outcome left after counted done
      rw [← lacks]
      simp [passive.plain.writesMade, counted done, Taken.moves]
    · intro failed
      cases failed

/-! ## What a store is asked, one thing after the other -/

/-- How many bytes one transfer may move, now and whenever the pace is changed. -/
structure Disturbed.Limited (cap : Nat) (disturbed : Disturbed) : Prop where
  now : disturbed.memory.maxTransfer = cap
  later : ∀ pace, some pace ∈ disturbed.schedule → pace.maxTransfer = cap

namespace Disturbed

variable {cap : Nat} {disturbed : Disturbed}

/-- The next call finds the memory with the limit on, whatever interrupts it. -/
theorem Limited.exists_paced (limited : disturbed.Limited cap) :
    ∃ interrupts, disturbed.found = disturbed.memory.paced cap interrupts := by
  unfold found
  split
  next pace rest scheduled =>
    have same := limited.later pace (by simp [scheduled])
    exact ⟨pace.interrupts, by rw [same]⟩
  next => exact ⟨disturbed.memory.interrupts, by rw [← limited.now]; rfl⟩

/-- A disturbed memory under a limit is seen as one that answers under that limit. -/
theorem views_capped (cap : Nat) :
    Views (Conduct.honest Disturbed) (Limited cap) Disturbed.memory (Memory.Capped cap) where
  answers := by
    intro request before answer after limited answered
    obtain ⟨told, onward⟩ := honest_found answered
    obtain ⟨interrupts, same⟩ := limited.exists_paced
    rw [same] at told
    refine ⟨⟨(Memory.counters_answer told).1, ?_⟩, interrupts, told⟩
    intro pace scheduled
    rw [onward] at scheduled
    exact limited.later pace (List.mem_of_mem_tail scheduled)
  closes := by
    intro handle storage limited
    have kept : (storage.memory.close handle).maxTransfer = storage.memory.maxTransfer := by
      unfold Memory.close
      split <;> rfl
    exact ⟨⟨kept.trans limited.now, limited.later⟩, rfl⟩

end Disturbed

/-- A command together with what it has met and what it has come to. -/
structure Dealing where
  command : Command
  store : Store
  storage : Disturbed
  obeyed : Obeyed Disturbed

namespace Dealing

def succeeds (dealing : Dealing) : Bool :=
  match dealing.obeyed.outcome with
  | some (.ok _) => true
  | _ => false

/-- A marker has been created. -/
def creates (dealing : Dealing) : Bool :=
  dealing.command = .operate .create && dealing.succeeds

/-- A marker has been opened that was missing or lacked a flag. -/
def initialises (dealing : Dealing) : Bool :=
  dealing.command = .operate .openMarker && dealing.succeeds &&
    lacksFlags (dealing.storage.memory.contents dealing.store.target.path)

/-- A transition has changed the flag that the store remembers. -/
def changes (dealing : Dealing) : Bool :=
  match dealing.command with
  | .operate (.transition flag _) =>
    dealing.store.cached.get flag != dealing.obeyed.store.cached.get flag
  | _ => false

/-- How many records the command writes. -/
def records (dealing : Dealing) : Nat :=
  dealing.creates.toNat + dealing.initialises.toNat + dealing.changes.toNat

/-- No command is counted twice. -/
theorem records_eq (dealing : Dealing) : dealing.records =
    match dealing.command with
    | .operate .create => dealing.succeeds.toNat
    | .operate .openMarker => (dealing.succeeds &&
        lacksFlags (dealing.storage.memory.contents dealing.store.target.path)).toNat
    | .operate (.transition flag _) =>
      (dealing.store.cached.get flag != dealing.obeyed.store.cached.get flag).toNat
    | _ => 0 := by
  obtain ⟨command, store, storage, obeyed⟩ := dealing
  unfold records creates initialises changes
  cases command with
  | restart => rfl
  | operate operation => cases operation <;> simp

/-- How many writes there have been before the command and after it. -/
def writesBefore (dealing : Dealing) : Nat := dealing.storage.memory.writeCalls

def writesAfter (dealing : Dealing) : Nat := dealing.obeyed.storage.memory.writeCalls

/-- The command has changed neither the store nor anything about the storage. -/
def Idle (dealing : Dealing) : Prop :=
  dealing.obeyed.store = dealing.store ∧ dealing.obeyed.storage = dealing.storage

/-- A command makes the writes of its records and no other.  One that is refused changes nothing, and
neither does a transition to the value that the store remembers, which every transition that is carried
out leads to. -/
structure Frugal (cap : Nat) (dealing : Dealing) : Prop where
  charged : dealing.writesAfter = dealing.writesBefore + writesFor cap 2 * dealing.records
  refused : ∀ error, dealing.obeyed.outcome = some (.error error) → dealing.Idle
  repeated : ∀ flag value, dealing.command = .operate (.transition flag value) →
    dealing.store.cached.get flag = value → dealing.obeyed.outcome = some (.ok ()) ∧ dealing.Idle
  settled : ∀ flag value, dealing.command = .operate (.transition flag value) →
    dealing.obeyed.outcome = some (.ok ()) → dealing.obeyed.store.cached.get flag = value
  reopened : dealing.command = .operate .openMarker →
    lacksFlags (dealing.storage.memory.contents dealing.store.target.path) = false →
    dealing.writesAfter = dealing.writesBefore
  left : dealing.command ∈ [.operate .closeMarker, .operate .delete, .restart] →
    dealing.writesAfter = dealing.writesBefore

end Dealing

/-- The dealings of a trace, each of which meets what the one before it has left. -/
def Store.dealings : List (Command × Obeyed Disturbed) → Store → Disturbed → List Dealing
  | [], _, _ => []
  | (command, obeyed) :: later, store, storage =>
    ⟨command, store, storage, obeyed⟩ :: dealings later obeyed.store obeyed.storage

def storageAfter (storage : Disturbed) (trace : List (Command × Obeyed Disturbed)) : Disturbed :=
  trace.foldl (fun _ entry => entry.2.storage) storage

/-- How many records have been written in some dealings. -/
def recordsOf (dealings : List Dealing) : Nat :=
  dealings.countP Dealing.creates + dealings.countP Dealing.initialises +
    dealings.countP Dealing.changes

theorem recordsOf_cons (dealing : Dealing) (dealings : List Dealing) :
    recordsOf (dealing :: dealings) = dealing.records + recordsOf dealings := by
  have one : ∀ test : Bool, (if test = true then 1 else 0) = test.toNat := by
    intro test
    cases test <;> rfl
  simp only [recordsOf, Dealing.records, List.countP_cons, one]
  omega

/-- What the script of an operation is told to write is what the memory counts. -/
theorem Store.Performs.writeCalls {store next : Store} {memory after : Memory} {cap made : Nat}
    {operation : Operation} {outcome : Except StoreError Unit}
    (performs : store.Performs (Memory.Capped cap) operation memory outcome next after)
    (tells : (operation.script store.target).Tells (Memory.Capped cap) (store.world memory)
      fun taken result _ => result = outcome → writesMade taken = made) :
    after.writeCalls = memory.writeCalls + made := by
  obtain ⟨taken, world, ended, -, rfl⟩ := performs
  rw [ended.writeCalls, tells.of_ends ended rfl]
  rfl

namespace Reference.Mirrors

variable {reference : Reference} {store next : Store} {memory : Memory} {storage after : Disturbed}
  {operation : Operation} {command : Command} {obeyed : Obeyed Disturbed} {cap budget : Nat}

theorem state_eq (mirrors : reference.Mirrors store memory) :
    store.lifecycle.state = reference.state := congrArg Reference.state mirrors.seen

theorem cached_eq (mirrors : reference.Mirrors store memory) : store.cached = reference.cached :=
  congrArg Reference.cached mirrors.seen

/-- A store that is not open has no handle. -/
theorem letGo (mirrors : reference.Mirrors store memory) (notOpen : reference.state ≠ .opened) :
    store.lifecycle.handle = none := by
  cases mirrors with
  | holding opened => exact absurd opened notOpen
  | resting _ _ _ letGo => exact letGo

theorem exists_atRest (mirrors : reference.Mirrors store memory) :
    ∃ found, memory.AtRest store.target.path found := by
  cases mirrors with
  | holding _ _ _ _ _ _ _ inHand => exact ⟨_, inHand.atRest⟩
  | resting _ _ _ _ _ _ _ _ _ atRest => exact ⟨_, atRest⟩

/-- An operation that is refused leaves the store and the storage as they are. -/
theorem unchanged_of_error {error : StoreError} (mirrors : reference.Mirrors store storage.memory)
    (performed : store.Performs (Conduct.honest Disturbed) operation storage (.error error) next
      after) : next = store ∧ after = storage := by
  have answer := (mirrors.operate (performed.viewed Disturbed.views_calm trivial).2).1
  cases operation with
  | create =>
    by_cases opened : reference.state = .opened
    · exact (performed.unchanged (upholds_create_refused (mirrors.state_eq.trans opened))).2
    · simp [Reference.operate, opened] at answer
  | openMarker =>
    by_cases opened : reference.state = .opened
    · exact (performed.unchanged (upholds_openMarker_refused (mirrors.state_eq.trans opened))).2
    · simp [Reference.operate, opened] at answer
  | closeMarker =>
    simp only [Reference.operate] at answer
    split at answer <;> cases answer
  | delete =>
    simp only [Reference.operate] at answer
    split at answer <;> cases answer
  | transition flag value =>
    by_cases same : reference.cached.get flag = value
    · simp [Reference.operate, same] at answer
    · by_cases opened : reference.state = .opened
      · simp [Reference.operate, same, opened] at answer
      · have changes : store.cached.get flag ≠ value := by
          rw [mirrors.cached_eq]
          exact same
        exact (performed.unchanged
          (upholds_transition_refused changes (mirrors.letGo opened))).2

/-- A transition that is carried out leads to its value. -/
theorem cached_of_transition {flag : Flag} {value : Bool}
    (mirrors : reference.Mirrors store storage.memory)
    (performed : store.Performs (Conduct.honest Disturbed) (.transition flag value) storage (.ok ())
      next after) : next.cached.get flag = value := by
  obtain ⟨answer, -, further⟩ :=
    mirrors.operate (performed.viewed Disturbed.views_calm trivial).2
  rw [further.cached_eq]
  by_cases same : reference.cached.get flag = value
  · simp only [Reference.operate, same, if_true]
  · by_cases opened : reference.state = .opened
    · simp only [Reference.operate, same, opened, if_true, if_false]
      cases flag <;> rfl
    · simp [Reference.operate, same, opened] at answer

/-- An operation that is carried out makes the writes of its records. -/
theorem writeCalls_of_ok (mirrors : reference.Mirrors store storage.memory)
    (limited : storage.Limited cap)
    (performed : store.Performs (Conduct.honest Disturbed) operation storage (.ok ()) next after) :
    after.memory.writeCalls = storage.memory.writeCalls + writesFor cap 2 *
      Dealing.records ⟨.operate operation, store, storage, ⟨some (.ok ()), next, after⟩⟩ := by
  have performs := (performed.viewed (Disturbed.views_capped cap) limited).2
  cases operation with
  | create =>
    have counted := performs.writeCalls (tells_create_writes Memory.movesUpTo_capped store.target)
    simpa [Dealing.records_eq, Dealing.succeeds] using counted
  | openMarker =>
    obtain ⟨found, atRest⟩ := mirrors.exists_atRest
    have counted := performs.writeCalls (tells_openMarker_writes atRest)
    rw [← atRest.contents] at counted
    cases lacks : lacksFlags (storage.memory.contents store.target.path) <;>
      simpa [Dealing.records_eq, Dealing.succeeds, lacks] using counted
  | closeMarker =>
    have counted := performs.writeCalls
      ((tells_closeMarker_writes store.target).mono fun _ _ _ none _ => none)
    simpa [Dealing.records_eq] using counted
  | delete =>
    have counted := performs.writeCalls
      ((tells_delete_writes store.target).mono fun _ _ _ none _ => none)
    simpa [Dealing.records_eq] using counted
  | transition flag value =>
    have settled := mirrors.cached_of_transition performed
    by_cases same : store.cached.get flag = value
    · obtain ⟨-, rfl, rfl⟩ := performed.unchanged (upholds_transition_idle same)
      simp [Dealing.records_eq]
    · have counted := performs.writeCalls
        (tells_transition_writes Memory.movesUpTo_capped store.target flag value same)
      have changed : (store.cached.get flag != value) = true := bne_iff_ne.2 same
      simpa [Dealing.records_eq, settled, changed] using counted

/-- Every command makes the writes of its records, and the limit on transfers stays what it is. -/
theorem charged (mirrors : reference.Mirrors store storage.memory) (limited : storage.Limited cap)
    (same : store.obey budget storage command = some obeyed) :
    obeyed.storage.Limited cap ∧
      obeyed.storage.memory.writeCalls = storage.memory.writeCalls +
        writesFor cap 2 * Dealing.records ⟨command, store, storage, obeyed⟩ := by
  cases command with
  | restart =>
    cases same
    obtain ⟨kept, seen⟩ := store.crash_viewed (Disturbed.views_capped cap) limited
    refine ⟨kept, ?_⟩
    have uncounted : (store.crash storage.memory).writeCalls = storage.memory.writeCalls := by
      unfold Store.crash
      split
      · exact Memory.writeCalls_close _ _
      · rfl
    simpa [Dealing.records_eq, seen] using uncounted
  | operate operation =>
    obtain ⟨outcome, told, performed⟩ := Store.performs_of_obey same
    obtain ⟨kept, -⟩ := performed.viewed (Disturbed.views_capped cap) limited
    obtain ⟨answer, next, after⟩ := obeyed
    subst told
    cases outcome with
    | ok done => exact ⟨kept, mirrors.writeCalls_of_ok limited performed⟩
    | error error =>
      obtain ⟨rfl, rfl⟩ := mirrors.unchanged_of_error performed
      refine ⟨kept, ?_⟩
      cases operation <;> simp [Dealing.records_eq, Dealing.succeeds]

/-- A store that mirrors the machine is frugal with its writes, command by command. -/
theorem frugal (mirrors : reference.Mirrors store storage.memory) (limited : storage.Limited cap)
    (same : store.obey budget storage command = some obeyed) :
    Dealing.Frugal cap ⟨command, store, storage, obeyed⟩ := by
  have charged := (mirrors.charged limited same).2
  constructor
  · exact charged
  · intro error told
    cases command with
    | restart =>
      cases same
      cases told
    | operate operation =>
      obtain ⟨outcome, answered, performed⟩ := Store.performs_of_obey same
      cases answered.symm.trans told
      exact mirrors.unchanged_of_error performed
  · rintro flag value isTransition already
    cases isTransition
    obtain ⟨outcome, answered, performed⟩ := Store.performs_of_obey same
    obtain ⟨rfl, idle⟩ := performed.unchanged (upholds_transition_idle already)
    exact ⟨answered, idle⟩
  · rintro flag value isTransition told
    cases isTransition
    obtain ⟨outcome, answered, performed⟩ := Store.performs_of_obey same
    cases answered.symm.trans told
    exact mirrors.cached_of_transition performed
  · rintro isOpen long
    cases isOpen
    have none : Dealing.records ⟨.operate .openMarker, store, storage, obeyed⟩ = 0 := by
      simp [Dealing.records_eq, long]
    rw [none, Nat.mul_zero] at charged
    exact charged
  · intro isParting
    have none : Dealing.records ⟨command, store, storage, obeyed⟩ = 0 := by
      simp only [List.mem_cons, List.not_mem_nil, or_false] at isParting
      rcases isParting with rfl | rfl | rfl <;> rfl
    rw [none, Nat.mul_zero] at charged
    exact charged

/-- So does everything that is asked one after the other. -/
theorem accounts {commands : List Command} {trace : List (Command × Obeyed Disturbed)}
    (mirrors : reference.Mirrors store storage.memory) (limited : storage.Limited cap)
    (traced : Store.trace budget commands store storage = some trace) :
    (storageAfter storage trace).memory.writeCalls = storage.memory.writeCalls +
        writesFor cap 2 * recordsOf (Store.dealings trace store storage) ∧
      ∀ dealing ∈ Store.dealings trace store storage, dealing.Frugal cap := by
  induction commands generalizing reference store storage trace with
  | nil =>
    cases traced
    exact ⟨rfl, fun _ member => absurd member List.not_mem_nil⟩
  | cons command commands inductionHypothesis =>
    obtain ⟨obeyed, same, rest⟩ := Option.bind_eq_some_iff.1 traced
    obtain ⟨later, further, finished⟩ := Option.bind_eq_some_iff.1 rest
    cases finished
    obtain ⟨-, -, onward⟩ := Mirrors.obey Disturbed.views_calm mirrors same
    obtain ⟨kept, now⟩ := mirrors.charged limited same
    obtain ⟨total, others⟩ := inductionHypothesis onward kept further
    constructor
    · change (storageAfter obeyed.storage later).memory.writeCalls = _
      rw [total, now, Store.dealings, recordsOf_cons, Nat.mul_add, Nat.add_assoc]
    · intro dealing member
      rcases List.mem_cons.1 member with rfl | member
      · exact mirrors.frugal limited same
      · exact others dealing member

end Reference.Mirrors

/-- On a memory that moves at most so many bytes at a time, with any finite number of interruptions,
whatever file is there at first: everything that is asked of a store is carried out, and the writes that
are made are as many as one record takes, for every marker that is created, for every marker without both
flags that is opened, and for every transition that changes a flag.  Every single command makes its share
of them.  A transition to the value that a store remembers does nothing but look at it, in whatever state
the store is. -/
theorem writes_accounted (target : Target) (cap : Nat) (storage : Disturbed)
    {content : Option (List UInt8)}
    (atRest : storage.memory.AtRest target.path (content.map fun bytes => { bytes }))
    (limited : storage.Limited cap) (commands : List Command) :
    (∃ budget trace, Store.trace budget commands (.fresh target) storage = some trace) ∧
      (∀ budget trace, Store.trace budget commands (.fresh target) storage = some trace →
        (storageAfter storage trace).memory.writeCalls = storage.memory.writeCalls +
            (if cap = 0 then 1 else (2 + cap - 1) / cap) *
              ((Store.dealings trace (.fresh target) storage).countP Dealing.creates +
                (Store.dealings trace (.fresh target) storage).countP Dealing.initialises +
                (Store.dealings trace (.fresh target) storage).countP Dealing.changes) ∧
          ∀ dealing ∈ Store.dealings trace (.fresh target) storage, dealing.Frugal cap) ∧
      ∀ (store : Store) (anywhere : Disturbed) (flag : Flag) taken outcome after,
        (store.target.transition flag (store.cached.get flag)).Ends (Conduct.honest Disturbed)
            (store.world anywhere) taken outcome after →
          taken = [⟨.load flag, store.cached.get flag⟩] ∧ outcome = .ok () ∧
            after = store.world anywhere := by
  have mirrors := Reference.mirrors_fresh (by cases content <;> rfl) atRest
  refine ⟨?_, ?_, ?_⟩
  · obtain ⟨budget, trace, traced, -⟩ := mirrors.trace commands
    exact ⟨budget, trace, traced⟩
  · intro budget trace traced
    obtain ⟨total, each⟩ := mirrors.accounts limited traced
    rw [Memory.writesFor_of_pos cap Nat.two_pos] at total
    exact ⟨total, each⟩
  · intro store anywhere flag taken outcome after ended
    have idle : (store.target.transition flag (store.cached.get flag)).Tells (Conduct.honest Disturbed)
        (store.world anywhere) fun taken outcome after =>
          taken = [⟨.load flag, store.cached.get flag⟩] ∧ outcome = .ok () ∧
            after = store.world anywhere := tells_transition_idle store.target rfl
    exact idle.of_ends ended

/-- One byte at a time, a record takes two writes.  They are made when a marker in the legacy layout is
opened, when it is first marked clean, and when a new marker is created after it has been deleted. -/
theorem writes_accounted_legacy :
    ∃ storage : Disturbed, storage.memory.contents ⟨"marker"⟩ = some [7] ∧ storage.Limited 1 ∧
      ∃ trace, Store.trace 100
          [.operate .openMarker, .operate (.transition .dirty false),
            .operate (.transition .dirty false), .operate .create, .operate .closeMarker,
            .operate .openMarker, .operate .delete, .operate .create, .restart]
          (.fresh ⟨⟨"marker"⟩, .standard⟩) storage = some trace ∧
        (storageAfter storage trace).memory.writeCalls =
          storage.memory.writeCalls + 2 * (1 + 1 + 1) ∧
        ∀ dealing ∈ Store.dealings trace (.fresh ⟨⟨"marker"⟩, .standard⟩) storage,
          dealing.Frugal 1 := by
  let target : Target := ⟨⟨"marker"⟩, .standard⟩
  let storage : Disturbed := ⟨.slow ⟨"marker"⟩ [7], [none, none, some ⟨1, 2⟩]⟩
  let commands : List Command :=
    [.operate .openMarker, .operate (.transition .dirty false), .operate (.transition .dirty false),
      .operate .create, .operate .closeMarker, .operate .openMarker, .operate .delete,
      .operate .create, .restart]
  have atRest : storage.memory.AtRest target.path ((some [7]).map fun bytes => { bytes }) :=
    Memory.atRest_slow _ _
  have limited : storage.Limited 1 := ⟨rfl, by simp [storage]⟩
  have told : (Store.trace 100 commands (.fresh target) storage).map (fun trace =>
      ((Store.dealings trace (.fresh target) storage).countP Dealing.creates,
        (Store.dealings trace (.fresh target) storage).countP Dealing.initialises,
        (Store.dealings trace (.fresh target) storage).countP Dealing.changes)) =
      some (1, 1, 1) := by decide +kernel
  obtain ⟨trace, traced, counts⟩ := Option.map_eq_some_iff.1 told
  obtain ⟨-, accounted, -⟩ := writes_accounted target 1 storage atRest limited commands
  obtain ⟨total, each⟩ := accounted 100 trace traced
  obtain ⟨created, rest⟩ := Prod.mk.inj counts
  obtain ⟨initialised, changed⟩ := Prod.mk.inj rest
  rw [created, initialised, changed] at total
  exact ⟨storage, rfl, limited, trace, traced, total, each⟩

end CrashMarker
