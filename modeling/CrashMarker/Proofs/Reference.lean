/-
Module: CrashMarker.Proofs.Reference
Purpose: A store and its marker behave as a machine that knows two bits and nothing of bytes.
Main exports: Reference, Reference.obey, Reference.Mirrors, Mirrors.obey, store_refines_reference
-/
import CrashMarker.Proofs.Commands
import CrashMarker.Proofs.Memory.Disturbed

namespace CrashMarker

open Memory (Calm)

/-! ## The machine -/

/-- What one needs to know of a store and its marker: where the store is in its life, whether it has
the lock, the flags that it says, and the flags that the file stands for. -/
structure Reference where
  state : State := .unopened
  locked : Bool := false
  cached : Record := .clean
  loaded : Record
deriving Repr, DecidableEq, Inhabited

namespace Reference

def operate (target : Target) (reference : Reference) :
    Operation → Except StoreError Unit × Reference
  | .create =>
    if reference.state = .opened then (.error (.alreadyOpen "create"), reference)
    else (.ok (), ⟨.opened, target.config.fileLock, .created, .created⟩)
  | .openMarker =>
    if reference.state = .opened then (.error (.alreadyOpen "open"), reference)
    else (.ok (), ⟨.opened, target.config.fileLock, reference.loaded, reference.loaded⟩)
  | .closeMarker =>
    if reference.state = .opened then
      (.ok (), { reference with state := .closed, locked := false })
    else (.ok (), reference)
  | .delete =>
    if reference.state = .unopened then (.ok (), reference)
    else (.ok (), { reference with state := .deleted, locked := false, loaded := .clean })
  | .transition flag value =>
    if reference.cached.get flag = value then (.ok (), reference)
    else if reference.state = .opened then
      (.ok (), { reference with
        cached := reference.cached.set flag value
        loaded := reference.loaded.set flag value })
    else (.error .closed, reference)

/-- What a command comes to.  A new store knows nothing of the old one but the file. -/
def obey (target : Target) (reference : Reference) :
    Command → Option (Except StoreError Unit) × Reference
  | .operate operation =>
    let (outcome, next) := reference.operate target operation
    (some outcome, next)
  | .restart => (none, { loaded := reference.loaded })

end Reference

/-- What is seen of a store and its marker after a command. -/
structure Seen where
  outcome : Option (Except StoreError Unit)
  reference : Reference

/-- What the machine shows, command by command. -/
def Reference.trace (target : Target) : List Command → Reference → List Seen
  | [], _ => []
  | command :: commands, reference =>
    let (outcome, next) := reference.obey target command
    ⟨outcome, next⟩ :: next.trace target commands

/-- What a store shows, command by command, if it is done within so many actions for each. -/
def Store.trace {σ : Type} [Storage σ] (budget : Nat) : List Command → Store → σ →
    Option (List (Command × Obeyed σ))
  | [], _, _ => some []
  | command :: commands, store, storage => do
    let obeyed ← store.obey budget storage command
    let later ← trace budget commands obeyed.store obeyed.storage
    return (command, obeyed) :: later

/-- With more actions to spare a trace is the same. -/
theorem Store.trace_mono {σ : Type} [Storage σ] {budget : Nat} {commands : List Command}
    {store : Store} {storage : σ} {trace : List (Command × Obeyed σ)}
    (traced : Store.trace budget commands store storage = some trace) (more : Nat) :
    Store.trace (budget + more) commands store storage = some trace := by
  induction commands generalizing store storage trace with
  | nil => exact traced
  | cons command commands inductionHypothesis =>
    obtain ⟨obeyed, same, rest⟩ := Option.bind_eq_some_iff.1 traced
    obtain ⟨later, further, finished⟩ := Option.bind_eq_some_iff.1 rest
    simp only [Store.trace, Store.obey_mono same more, inductionHypothesis further,
      Option.bind_eq_bind, Option.bind_some]
    exact finished

/-- What is seen of a store and of the file at a path. -/
def Obeyed.seen (path : Path) (obeyed : Obeyed Disturbed) : Seen where
  outcome := obeyed.outcome
  reference :=
    { state := obeyed.store.lifecycle.state
      locked := obeyed.store.lifecycle.locked
      cached := obeyed.store.cached
      loaded := Record.loaded (obeyed.storage.memory.contents path) }

/-- What the file itself is like after some commands: exactly a new record, a file with both flags, or
no file. -/
structure Obeyed.Fits (path : Path) (command : Command) (obeyed : Obeyed Disturbed) : Prop where
  created : command = .operate .create → obeyed.outcome = some (.ok ()) →
    obeyed.storage.memory.contents path = some [1, 0]
  opened : command = .operate .openMarker → obeyed.outcome = some (.ok ()) →
    ∃ bytes, obeyed.storage.memory.contents path = some bytes ∧ 2 ≤ bytes.length
  deleted : command = .operate .delete → obeyed.store.lifecycle.state = .deleted →
    obeyed.storage.memory.contents path = none

/-! ## The store as the machine -/

/-- How a store with its marker stands to the machine.  The file is either left to itself, with no
lock on it, or in hand under the handle that the store has, which then has the lock if the store is to
lock. -/
inductive Reference.Mirrors (reference : Reference) (store : Store) (memory : Memory) : Prop where
  | resting {found : Option FileObject} (notOpen : reference.state ≠ .opened)
      (locked : reference.locked = false) (state : store.lifecycle.state = reference.state)
      (letGo : store.lifecycle.handle = none) (unlocked : store.lifecycle.locked = false)
      (unconcerned : reference.state = .unopened → store.lifecycle.associated = false)
      (cached : store.cached = reference.cached) (free : found.bind (·.owner) = none)
      (told : Record.loaded (found.map (·.bytes)) = reference.loaded)
      (atRest : memory.AtRest store.target.path found)
  | holding {handle : Handle} {bytes : List UInt8} (opened : reference.state = .opened)
      (locked : reference.locked = store.target.config.fileLock)
      (coherent : reference.loaded = reference.cached)
      (lifecycle : store.lifecycle = ⟨.opened, some handle, store.target.config.fileLock, true⟩)
      (cached : store.cached = reference.cached) (long : 2 ≤ bytes.length)
      (told : Record.loaded (some bytes) = reference.loaded)
      (inHand : memory.InHand store.target.path handle
        ⟨bytes, if store.target.config.fileLock then some handle else none⟩)

namespace Reference

variable {reference : Reference} {store next : Store} {memory after : Memory}
  {operation : Operation} {outcome : Except StoreError Unit}

/-- A store that has just set its marker up stands as the machine does after that. -/
theorem mirrors_of_opened {record : Record} {handle : Handle} {bytes : List UInt8}
    {world : World Memory} (cached : world.cached = record)
    (lifecycle : world.lifecycle = ⟨.opened, some handle, store.target.config.fileLock, true⟩)
    (long : 2 ≤ bytes.length) (told : Record.loaded (some bytes) = record)
    (inHand : world.storage.InHand store.target.path handle
      ⟨bytes, if store.target.config.fileLock then some handle else none⟩) :
    Mirrors ⟨.opened, store.target.config.fileLock, record, record⟩ (store.after world)
      world.storage :=
  .holding rfl rfl rfl lifecycle cached long told inHand

/-- Creating mirrors what the machine does. -/
theorem Mirrors.create (mirrors : reference.Mirrors store memory)
    (performs : store.Performs Calm .create memory outcome next after) :
    outcome = (reference.operate store.target .create).1 ∧ next.target = store.target ∧
      (reference.operate store.target .create).2.Mirrors next after ∧
      (outcome = .ok () → after.contents store.target.path = some [1, 0]) := by
  cases mirrors with
  | holding opened locked coherent lifecycle cached long told inHand =>
    have state : store.lifecycle.state = .opened := by rw [lifecycle]
    obtain ⟨rfl, rfl, rfl⟩ := performs.unchanged (upholds_create_refused state)
    simp only [operate, opened, if_true]
    exact ⟨trivial, trivial, .holding opened locked coherent lifecycle cached long told inHand, nofun⟩
  | resting notOpen locked state letGo unlocked unconcerned cached free told atRest =>
    have notOpened : store.lifecycle.state ≠ .opened := by rw [state]; exact notOpen
    obtain ⟨world, ⟨setUp, written⟩, rfl, rfl⟩ := performs.of_upholds (Memory.shows_anything _ _)
      (atRest.upholds_create trivial (fun _ => trivial) notOpened)
    simp only [operate, notOpen, if_false]
    cases setUp with
    | opened published lifecycle long told free inHand =>
      exact ⟨rfl, rfl, mirrors_of_opened published lifecycle long told inHand, written⟩
    | locked held owned =>
      rw [held, Option.bind_some] at free
      rw [free] at owned
      cases owned
    | failed failing => exact failing.elim

/-- Opening mirrors what the machine does. -/
theorem Mirrors.openMarker (mirrors : reference.Mirrors store memory)
    (performs : store.Performs Calm .openMarker memory outcome next after) :
    outcome = (reference.operate store.target .openMarker).1 ∧ next.target = store.target ∧
      (reference.operate store.target .openMarker).2.Mirrors next after ∧
      (outcome = .ok () →
        ∃ bytes, after.contents store.target.path = some bytes ∧ 2 ≤ bytes.length) := by
  cases mirrors with
  | holding opened locked coherent lifecycle cached long told inHand =>
    have state : store.lifecycle.state = .opened := by rw [lifecycle]
    obtain ⟨rfl, rfl, rfl⟩ := performs.unchanged (upholds_openMarker_refused state)
    simp only [operate, opened, if_true]
    exact ⟨trivial, trivial, .holding opened locked coherent lifecycle cached long told inHand, nofun⟩
  | @resting found notOpen locked state letGo unlocked unconcerned cached free told atRest =>
    have notOpened : store.lifecycle.state ≠ .opened := by rw [state]; exact notOpen
    have start : memory.Shows store.target.path fun contents =>
        Record.loaded contents = Record.loaded (found.map (·.bytes)) := atRest.shows_iff.2 rfl
    obtain ⟨world, setUp, rfl, rfl⟩ := performs.of_upholds start
      (atRest.upholds_openMarker notOpened)
    simp only [operate, notOpen, if_false]
    rw [free, told] at setUp
    cases setUp with
    | opened published lifecycle long same _ inHand =>
      exact ⟨rfl, rfl, mirrors_of_opened published lifecycle long same inHand,
        fun _ => ⟨_, inHand.atRest.contents, long⟩⟩
    | locked held owned =>
      rw [held, Option.bind_some] at free
      rw [free] at owned
      cases owned
    | failed failing => exact failing.elim

/-- Closing and deleting leave a file without an owner. -/
theorem owner_released (handle : Handle) (bytes : List UInt8) (locking : Bool) :
    (Memory.released handle ⟨bytes, if locking then some handle else none⟩).owner = none := by
  cases locking
  · rfl
  · simp [Memory.released]

/-- Closing mirrors what the machine does. -/
theorem Mirrors.closeMarker (mirrors : reference.Mirrors store memory)
    (performs : store.Performs Calm .closeMarker memory outcome next after) :
    outcome = (reference.operate store.target .closeMarker).1 ∧ next.target = store.target ∧
      (reference.operate store.target .closeMarker).2.Mirrors next after := by
  cases mirrors with
  | @holding handle bytes opened locked coherent lifecycle cached long told inHand =>
    have holds : store.lifecycle.handle = some handle := by rw [lifecycle]
    have start : memory.Shows store.target.path fun _ => True := trivial
    obtain ⟨world, ⟨kept, closed, atRest, done⟩, rfl, rfl⟩ := performs.of_upholds start
      (inHand.upholds_closeMarker holds)
    simp only [operate, opened, if_true]
    refine ⟨done.resolve_right fun ⟨_, _, impossible, _⟩ => impossible, rfl, ?_⟩
    refine .resting (by simp) rfl ?_ ?_ ?_ (by simp) (kept.trans cached) ?_ ?_ atRest
    · exact congrArg Lifecycle.state closed
    · exact congrArg Lifecycle.handle closed
    · exact congrArg Lifecycle.locked closed
    · exact owner_released handle bytes store.target.config.fileLock
    · rw [Option.map_some, Memory.bytes_released]
      exact told
  | resting notOpen locked state letGo unlocked unconcerned cached free told atRest =>
    obtain ⟨rfl, rfl, rfl⟩ := performs.unchanged (upholds_closeMarker_idle letGo)
    simp only [operate, notOpen, if_false]
    exact ⟨trivial, trivial, .resting notOpen locked state letGo unlocked unconcerned cached free told
      atRest⟩

/-- Deleting mirrors what the machine does. -/
theorem Mirrors.delete (mirrors : reference.Mirrors store memory)
    (performs : store.Performs Calm .delete memory outcome next after) :
    outcome = (reference.operate store.target .delete).1 ∧ next.target = store.target ∧
      (reference.operate store.target .delete).2.Mirrors next after ∧
      (next.lifecycle.state = .deleted → after.contents store.target.path = none) := by
  cases mirrors with
  | @holding handle bytes opened locked coherent lifecycle cached long told inHand =>
    have state : store.lifecycle.state = .opened := by rw [lifecycle]
    have holds : store.lifecycle.handle = some handle := by rw [lifecycle]
    obtain ⟨world, ⟨kept, ⟨rfl, gone, deleted⟩ | ⟨⟨_, impossible⟩, -⟩⟩, rfl, rfl⟩ :=
      performs.of_upholds trivial (inHand.upholds_delete state holds)
    · simp only [operate, opened]
      refine ⟨rfl, rfl, .resting (by simp) rfl ?_ ?_ ?_ (by simp) (kept.trans cached) rfl rfl gone,
        fun _ => gone.contents⟩
      · exact congrArg Lifecycle.state deleted
      · exact congrArg Lifecycle.handle deleted
      · exact congrArg Lifecycle.locked deleted
    · exact impossible.elim
  | resting notOpen locked state letGo unlocked unconcerned cached free told atRest =>
    by_cases unopened : reference.state = .unopened
    · obtain ⟨rfl, rfl, rfl⟩ := performs.unchanged
        (upholds_delete_idle (state.trans unopened) (unconcerned unopened))
      simp only [operate, unopened, if_true]
      refine ⟨trivial, trivial, .resting notOpen locked state letGo unlocked unconcerned cached free
        told atRest, fun deleted => ?_⟩
      rw [state.trans unopened] at deleted
      cases deleted
    · have concerned : store.lifecycle.state ≠ .unopened ∨ store.lifecycle.associated := by
        rw [state]
        exact Or.inl unopened
      obtain ⟨world, ⟨kept, deleted, ⟨rfl, gone⟩ | ⟨⟨_, impossible⟩, -⟩⟩, rfl, rfl⟩ :=
        performs.of_upholds trivial (atRest.upholds_delete concerned letGo)
      · simp only [operate, unopened, if_false]
        refine ⟨trivial, rfl, .resting (by simp) rfl ?_ ?_ ?_ (by simp) (kept.trans cached) rfl rfl
          gone, fun _ => gone.contents⟩
        · exact congrArg Lifecycle.state deleted
        · exact (congrArg Lifecycle.handle deleted).trans letGo
        · exact (congrArg Lifecycle.locked deleted).trans unlocked
      · exact impossible.elim

/-- A transition mirrors what the machine does. -/
theorem Mirrors.transition {flag : Flag} {value : Bool} (mirrors : reference.Mirrors store memory)
    (performs : store.Performs Calm (.transition flag value) memory outcome next after) :
    outcome = (reference.operate store.target (.transition flag value)).1 ∧
      next.target = store.target ∧
      (reference.operate store.target (.transition flag value)).2.Mirrors next after := by
  have cached : store.cached = reference.cached := by
    cases mirrors with
    | holding _ _ _ _ cached => exact cached
    | resting _ _ _ _ _ _ cached => exact cached
  by_cases same : reference.cached.get flag = value
  · obtain ⟨rfl, rfl, rfl⟩ := performs.unchanged (upholds_transition_idle (by rw [← same, ← cached]; rfl))
    simp only [operate, same, if_true]
    exact ⟨trivial, trivial, mirrors⟩
  · have changes : store.cached.get flag ≠ value := by
      rw [cached]
      exact same
    cases mirrors with
    | @holding handle bytes opened locked coherent lifecycle _ long told inHand =>
      have holds : store.lifecycle.handle = some handle := by rw [lifecycle]
      obtain ⟨world, ⟨kept, ⟨rfl, changed, written⟩ | ⟨⟨_, _, impossible, _⟩, -⟩⟩, rfl, rfl⟩ :=
        performs.of_upholds trivial (inHand.upholds_transition changes holds)
      · simp only [operate, same, opened, if_true, if_false]
        refine ⟨trivial, rfl, .holding rfl locked ?_ (kept.trans lifecycle) ?_
          (Record.two_le_length_overlay _ _) ?_ written⟩
        · rw [coherent]
        · exact changed.trans (congrArg (·.set flag value) cached)
        · rw [Record.loaded_overlay_encode, coherent, ← cached]
          rfl
      · exact impossible.elim
    | resting notOpen locked state letGo unlocked unconcerned _ free told atRest =>
      obtain ⟨rfl, rfl, rfl⟩ := performs.unchanged (upholds_transition_refused changes letGo)
      simp only [operate, same, notOpen, if_false]
      exact ⟨trivial, trivial, .resting notOpen locked state letGo unlocked unconcerned cached free
        told atRest⟩

/-- Every operation takes the store and the machine along together. -/
theorem Mirrors.operate (mirrors : reference.Mirrors store memory)
    (performs : store.Performs Calm operation memory outcome next after) :
    outcome = (reference.operate store.target operation).1 ∧ next.target = store.target ∧
      (reference.operate store.target operation).2.Mirrors next after := by
  cases operation with
  | create =>
    obtain ⟨same, kept, further, -⟩ := mirrors.create performs
    exact ⟨same, kept, further⟩
  | openMarker =>
    obtain ⟨same, kept, further, -⟩ := mirrors.openMarker performs
    exact ⟨same, kept, further⟩
  | closeMarker => exact mirrors.closeMarker performs
  | delete =>
    obtain ⟨same, kept, further, -⟩ := mirrors.delete performs
    exact ⟨same, kept, further⟩
  | transition flag value => exact mirrors.transition performs

/-- A new store finds what the one that vanished has left in the file, and no lock. -/
theorem Mirrors.restart (mirrors : reference.Mirrors store memory) :
    Mirrors { loaded := reference.loaded } (.fresh store.target) (store.crash memory) := by
  cases mirrors with
  | @holding handle bytes opened locked coherent lifecycle cached long told inHand =>
    rw [Store.crash_of_handle (congrArg Lifecycle.handle lifecycle)]
    refine .resting (by simp) rfl rfl rfl rfl (fun _ => rfl) rfl ?_ ?_ inHand.close
    · exact owner_released handle bytes store.target.config.fileLock
    · rw [Option.map_some, Memory.bytes_released]
      exact told
  | resting notOpen locked state letGo unlocked unconcerned cached free told atRest =>
    rw [Store.crash_of_letGo letGo]
    exact .resting (by simp) rfl rfl rfl rfl (fun _ => rfl) rfl free told atRest

/-- What a store and its marker look like is what the machine says. -/
theorem Mirrors.seen (mirrors : reference.Mirrors store memory) :
    (⟨store.lifecycle.state, store.lifecycle.locked, store.cached,
      Record.loaded (memory.contents store.target.path)⟩ : Reference) = reference := by
  cases mirrors with
  | holding opened locked coherent lifecycle cached long told inHand =>
    rw [inHand.atRest.contents, Option.map_some, told, cached, lifecycle, ← opened, ← locked]
  | resting notOpen locked state letGo unlocked unconcerned cached free told atRest =>
    rw [atRest.contents, told, cached, unlocked, state, ← locked]

/-- So does every command, on every storage that is seen as a calm memory. -/
theorem Mirrors.obey {σ : Type} [Storage σ] {view : σ → Memory} {storage : σ} {budget : Nat}
    {command : Command} {obeyed : Obeyed σ}
    (views : Views (Conduct.honest σ) (fun _ => True) view Calm)
    (mirrors : reference.Mirrors store (view storage))
    (same : store.obey budget storage command = some obeyed) :
    obeyed.outcome = (reference.obey store.target command).1 ∧
      obeyed.store.target = store.target ∧
      (reference.obey store.target command).2.Mirrors obeyed.store (view obeyed.storage) := by
  cases command with
  | restart =>
    cases same
    refine ⟨rfl, rfl, ?_⟩
    have crashed : view (store.crash storage) = store.crash (view storage) :=
      (store.crash_viewed views trivial).2
    rw [crashed]
    exact mirrors.restart
  | operate operation =>
    obtain ⟨outcome, told, performed⟩ := Store.performs_of_obey same
    obtain ⟨-, performs⟩ := performed.viewed views trivial
    obtain ⟨answer, kept, further⟩ := mirrors.operate performs
    exact ⟨told.trans (congrArg some answer), kept, further⟩

variable {storage : Disturbed} {obeyed : Obeyed Disturbed} {budget : Nat} {command : Command}

/-- After a command the file itself is as it should be. -/
theorem Mirrors.fits (mirrors : reference.Mirrors store storage.memory)
    (same : store.obey budget storage command = some obeyed) :
    obeyed.Fits store.target.path command := by
  have performed : ∀ operation, command = .operate operation → ∃ outcome,
      obeyed.outcome = some outcome ∧ store.Performs Calm operation storage.memory outcome
        obeyed.store obeyed.storage.memory := by
    rintro operation rfl
    obtain ⟨outcome, told, performed⟩ := Store.performs_of_obey same
    exact ⟨outcome, told, (performed.viewed Disturbed.views_calm trivial).2⟩
  constructor
  · intro isCreate done
    obtain ⟨outcome, told, performs⟩ := performed _ isCreate
    obtain ⟨-, -, -, written⟩ := mirrors.create performs
    exact written (Option.some.inj (told.symm.trans done))
  · intro isOpen done
    obtain ⟨outcome, told, performs⟩ := performed _ isOpen
    obtain ⟨-, -, -, written⟩ := mirrors.openMarker performs
    exact written (Option.some.inj (told.symm.trans done))
  · intro isDelete
    obtain ⟨outcome, told, performs⟩ := performed _ isDelete
    obtain ⟨-, -, -, gone⟩ := mirrors.delete performs
    exact gone

/-- A store that stands as the machine does shows what the machine shows, whatever is asked of both. -/
theorem Mirrors.trace (mirrors : reference.Mirrors store storage.memory) (commands : List Command) :
    ∃ budget trace, Store.trace budget commands store storage = some trace ∧
      trace.map (fun entry => entry.2.seen store.target.path) =
        reference.trace store.target commands ∧
      ∀ entry ∈ trace, entry.2.Fits store.target.path entry.1 := by
  induction commands generalizing reference store storage with
  | nil => exact ⟨0, [], rfl, rfl, fun _ member => absurd member List.not_mem_nil⟩
  | cons command commands inductionHypothesis =>
    obtain ⟨early, obeyed, same⟩ := Store.exists_obey Disturbed.patient store storage command
    obtain ⟨outcome, kept, further⟩ := Mirrors.obey Disturbed.views_calm mirrors same
    obtain ⟨late, trace, traced, shown, others⟩ := inductionHypothesis further
    rw [kept] at shown others
    refine ⟨early + late, (command, obeyed) :: trace, ?_, ?_, ?_⟩
    · have first := Store.obey_mono same late
      have second := Store.trace_mono traced early
      rw [Nat.add_comm] at second
      simp only [Store.trace, first, second, Option.bind_eq_bind, Option.bind_some]
      rfl
    · have seen := further.seen
      rw [kept] at seen
      rw [List.map_cons, shown, Reference.trace, Obeyed.seen, seen, outcome]
    · intro entry member
      rcases List.mem_cons.1 member with rfl | member
      · exact mirrors.fits same
      · exact others entry member

/-- At first the machine knows the file and nothing else. -/
theorem mirrors_fresh {target : Target} {memory : Memory} {found : Option FileObject}
    (free : found.bind (·.owner) = none) (atRest : memory.AtRest target.path found) :
    Mirrors { loaded := Record.loaded (found.map (·.bytes)) } (.fresh target) memory :=
  .resting nofun rfl rfl rfl rfl (fun _ => rfl) rfl free rfl atRest

end Reference

/-- Whatever file a new store finds, however many bytes its memory moves at a time, however it is
interrupted, and whatever is asked of it: each command is carried out, and what it returns, the state
of the store, its lock, its flags and the record that the file stands for are those of the machine. -/
theorem store_refines_reference (target : Target) (storage : Disturbed)
    {content : Option (List UInt8)}
    (atRest : storage.memory.AtRest target.path (content.map fun bytes => { bytes }))
    (commands : List Command) :
    ∃ budget trace, Store.trace budget commands (.fresh target) storage = some trace ∧
      trace.map (fun entry => entry.2.seen target.path) =
        Reference.trace target commands { loaded := Record.loaded content } ∧
      ∀ entry ∈ trace, entry.2.Fits target.path entry.1 := by
  have mirrors := Reference.mirrors_fresh (by cases content <;> rfl) atRest
  have same : (content.map fun bytes => ({ bytes } : FileObject)).map (·.bytes) = content := by
    cases content <;> rfl
  rw [same] at mirrors
  exact mirrors.trace commands

/-- A marker in the legacy layout is opened and marked clean one byte at a time, with interruptions in
between, and its store vanishes. -/
theorem store_refines_reference_legacy :
    ∃ budget trace,
      Store.trace budget
          [.operate .openMarker, .operate (.transition .dirty false), .operate .create, .restart]
          (.fresh ⟨⟨"marker"⟩, .standard⟩)
          (⟨.slow ⟨"marker"⟩ [7], [none, none, some ⟨1, 2⟩]⟩ : Disturbed) = some trace ∧
        trace.map (fun entry => entry.2.seen ⟨"marker"⟩) =
          [⟨some (.ok ()), ⟨.opened, true, ⟨true, false⟩, ⟨true, false⟩⟩⟩,
            ⟨some (.ok ()), ⟨.opened, true, ⟨false, false⟩, ⟨false, false⟩⟩⟩,
            ⟨some (.error (.alreadyOpen "create")),
              ⟨.opened, true, ⟨false, false⟩, ⟨false, false⟩⟩⟩,
            ⟨none, ⟨.unopened, false, .clean, ⟨false, false⟩⟩⟩] := by
  have start : (Memory.slow ⟨"marker"⟩ [7]).AtRest ⟨"marker"⟩
      ((some [7]).map fun bytes => { bytes }) := Memory.atRest_slow _ _
  obtain ⟨budget, trace, traced, shown, -⟩ := store_refines_reference ⟨⟨"marker"⟩, .standard⟩
    ⟨.slow ⟨"marker"⟩ [7], [none, none, some ⟨1, 2⟩]⟩ start
    [.operate .openMarker, .operate (.transition .dirty false), .operate .create, .restart]
  exact ⟨budget, trace, traced, shown⟩

end CrashMarker
