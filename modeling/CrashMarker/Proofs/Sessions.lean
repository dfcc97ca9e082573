/-
Module: CrashMarker.Proofs.Sessions
Purpose: Sessions on a memory that neither interrupts a transfer nor denies an opening stay so.
Main exports: Memory.Prompt, Store.Sits, Session.Orderly, Session.Orderly.take
-/
import CrashMarker.Proofs.Custody
import CrashMarker.Proofs.Renaming.Sessions

namespace CrashMarker

namespace Memory

/-- The tables fit together, no transfer is interrupted and no opening denied. -/
structure Prompt (memory : Memory) : Prop where
  sound : memory.Sound
  interrupts : memory.interrupts = 0
  opens : memory.failingOpens = 0

/-- Misbehaviour is only used up, and the tokens of handles are never given out twice. -/
structure Onward (memory after : Memory) : Prop where
  interrupts : after.interrupts ≤ memory.interrupts
  opens : after.failingOpens ≤ memory.failingOpens
  handles : memory.nextHandle ≤ after.nextHandle

variable {memory after : Memory}

/-- Where counters and tokens are the same, nothing has gone backwards. -/
theorem Onward.of_same (interrupts : after.interrupts = memory.interrupts)
    (opens : after.failingOpens = memory.failingOpens) (handles : after.nextHandle = memory.nextHandle) :
    memory.Onward after :=
  ⟨Nat.le_of_eq interrupts, Nat.le_of_eq opens, Nat.le_of_eq handles.symm⟩

theorem onward_withObject {α : Type} {handle : Handle}
    {body : ObjectId → FileObject → Except StorageError α × Memory}
    (onward : ∀ object file, memory.Onward (body object file).2) :
    memory.Onward (memory.withObject handle body).2 := by
  unfold withObject
  split
  · exact .of_same rfl rfl rfl
  · split
    · exact .of_same rfl rfl rfl
    · exact onward _ _

/-- No call asks for misbehaviour or takes a token back. -/
theorem onward_answer (memory : Memory) (request : Request) :
    memory.Onward (memory.answer request).2 := by
  cases request with
  | present path => exact .of_same rfl rfl rfl
  | createNew path =>
    simp only [answer, createNew]
    split <;> exact .of_same rfl rfl rfl
  | remove path =>
    simp only [answer, remove]
    split
    · exact .of_same rfl rfl rfl
    · split
      · exact .of_same rfl rfl rfl
      · split <;> exact .of_same rfl rfl rfl
  | openFile path =>
    simp only [answer, openFile]
    split
    next failures count =>
      exact ⟨Nat.le_refl _, count ▸ Nat.le_succ failures, Nat.le_refl _⟩
    · split
      · exact .of_same rfl rfl rfl
      · exact ⟨Nat.le_refl _, Nat.le_refl _, Nat.le_succ _⟩
  | readAt handle offset count =>
    refine onward_withObject fun object file => ?_
    split
    next interrupts count => exact ⟨count ▸ Nat.le_succ interrupts, Nat.le_refl _, Nat.le_refl _⟩
    · exact .of_same rfl rfl rfl
  | writeAt handle offset bytes =>
    refine onward_withObject fun object file => ?_
    split
    · exact .of_same rfl rfl rfl
    · split
      next interrupts count => exact ⟨count ▸ Nat.le_succ interrupts, Nat.le_refl _, Nat.le_refl _⟩
      · exact .of_same rfl rfl rfl
  | size handle => exact onward_withObject fun _ _ => .of_same rfl rfl rfl
  | sync handle => exact onward_withObject fun _ _ => .of_same rfl rfl rfl
  | tryLock handle =>
    refine onward_withObject fun object file => ?_
    split <;> exact .of_same rfl rfl rfl
  | unlock handle => exact onward_withObject fun _ _ => .of_same rfl rfl rfl

theorem onward_close (memory : Memory) (handle : Handle) : memory.Onward (memory.close handle) := by
  unfold close
  split <;> exact .of_same rfl rfl rfl

/-- A memory that is prompt stays so, as long as its tables fit together. -/
theorem Prompt.of_onward (prompt : memory.Prompt) (onward : memory.Onward after) (sound : after.Sound) :
    after.Prompt :=
  ⟨sound, Nat.le_zero.1 (prompt.interrupts ▸ onward.interrupts),
    Nat.le_zero.1 (prompt.opens ▸ onward.opens)⟩

/-- Calls leave a prompt memory prompt. -/
theorem Prompt.answer (prompt : memory.Prompt) (request : Request) : (memory.answer request).2.Prompt :=
  prompt.of_onward (onward_answer memory request) (locking_of_answer prompt.sound rfl).1

/-- The token of a handle that has just been opened has been given out. -/
theorem serial_openFile {path : Path} {handle : Handle}
    (opened : memory.answer (.openFile path) = (.ok handle, after)) :
    handle.serial < after.nextHandle := by
  simp only [Memory.answer, openFile] at opened
  split at opened
  · cases opened
  · split at opened
    · cases opened
    · cases opened
      exact Nat.lt_succ_self _

theorem Prompt.close (prompt : memory.Prompt) (handle : Handle) : (memory.close handle).Prompt :=
  prompt.of_onward (onward_close memory handle) (prompt.sound.close handle)

end Memory

/-! ## The handle of a store after an operation -/

/-- The handle that an action has opened. -/
def Taken.opens : Taken → Option Handle
  | ⟨.ask (.openFile _), .ok handle⟩ => some handle
  | _ => none

namespace Grip

variable {grip : Grip} {handle : Handle} {locked : Option Bool}

/-- Knowledge of a lock is about a handle that was in hand already. -/
theorem of_known {own : Handle} {told : Option Bool}
    (known : grip.known own told = on handle locked) : ∃ before, grip = on handle before := by
  unfold Grip.known at known
  split at known
  · split at known
    · cases known
      exact ⟨_, rfl⟩
    · cases known
  · cases known

/-- A handle in hand was there before, or it has been opened just now. -/
theorem of_step {step : Taken} (stepped : grip.step step = on handle locked) :
    (∃ before, grip = on handle before) ∨ step.opens = some handle := by
  unfold Grip.step at stepped
  split at stepped
  · split at stepped
    · cases stepped
      exact Or.inr rfl
    · cases stepped
  · exact Or.inl (of_known stepped)
  · exact Or.inl (of_known stepped)
  · exact Or.inl (of_known stepped)
  · exact Or.inl (of_known stepped)
  · split at stepped
    · split at stepped <;> cases stepped
    · cases stepped
  · exact Or.inl ⟨_, stepped⟩

/-- A handle in hand at the end was there at the start or has been opened since. -/
theorem of_along {taken : List Taken} (reached : grip.along taken = on handle locked) :
    (∃ before, grip = on handle before) ∨ ∃ step ∈ taken, step.opens = some handle := by
  induction taken generalizing grip with
  | nil => exact Or.inl ⟨_, reached⟩
  | cons first taken inductionHypothesis =>
    rcases inductionHypothesis reached with ⟨before, stepped⟩ | ⟨step, isTaken, opens⟩
    · rcases of_step stepped with held | opens
      · exact Or.inl held
      · exact Or.inr ⟨first, List.mem_cons_self, opens⟩
    · exact Or.inr ⟨step, List.mem_cons_of_mem _ isTaken, opens⟩

end Grip

/-- What a script on a prompt memory opens gets tokens that are used up afterwards. -/
theorem Script.Passes.prompt {α : Type} {script last : Script α} {world after : World Memory}
    {taken : List Taken} (passes : Script.Passes (Conduct.honest Memory) script world taken last after)
    (prompt : world.storage.Prompt) :
    after.storage.Prompt ∧ world.storage.nextHandle ≤ after.storage.nextHandle ∧
      ∀ step ∈ taken, ∀ handle, step.opens = some handle →
        handle.serial < after.storage.nextHandle := by
  induction passes with
  | here => exact ⟨prompt, Nat.le_refl _, fun _ impossible => absurd impossible List.not_mem_nil⟩
  | @step script last action next world middle after answer taken acting allowed _
      inductionHypothesis =>
    suffices one : middle.storage.Prompt ∧ world.storage.nextHandle ≤ middle.storage.nextHandle ∧
        ∀ handle, Taken.opens ⟨action, answer⟩ = some handle →
          handle.serial < middle.storage.nextHandle by
      obtain ⟨first, later, opened⟩ := one
      obtain ⟨reached, further, others⟩ := inductionHypothesis first
      refine ⟨reached, Nat.le_trans later further,
        List.forall_mem_cons.2 ⟨fun handle opens => ?_, others⟩⟩
      exact Nat.lt_of_lt_of_le (opened handle opens) further
    cases action with
    | ask request =>
      obtain ⟨storage, answered, rfl⟩ := allowed
      change world.storage.answer request = (answer, storage) at answered
      have kept := prompt.answer request
      have onward := Memory.onward_answer world.storage request
      rw [answered] at kept onward
      refine ⟨kept, onward.handles, fun handle opens => ?_⟩
      cases request with
      | openFile path =>
        cases answer with
        | error cause => cases opens
        | ok opened =>
          cases opens
          exact Memory.serial_openFile answered
      | _ => cases opens
    | close handle =>
      cases allowed
      exact ⟨prompt.close handle, (Memory.onward_close _ _).handles, nofun⟩
    | _ =>
      cases allowed
      exact ⟨prompt, Nat.le_refl _, nofun⟩

/-- Asking whether there is a file is nothing that a store would remember. -/
theorem Target.tells_present {σ : Type} [Storage σ] {conduct : Conduct σ} (target : Target)
    {world : World σ} :
    target.present.Tells conduct world fun _ _ after => after.lifecycle = world.lifecycle := by
  apply Script.tells_bind
  apply Script.tells_ask
  intro answer storage answered
  cases answer <;> exact Script.tells_done rfl

/-- A store between operations, on a memory that has given out so many tokens. -/
structure Store.Sits (store : Store) (given : Nat) : Prop where
  fits : ∃ stranded, store.lifecycle.Fits store.target.config stranded
  handle : ∀ handle, store.lifecycle.handle = some handle → handle.serial < given

theorem Store.sits_fresh (target : Target) (given : Nat) : (Store.fresh target).Sits given :=
  ⟨⟨false, Lifecycle.fits_fresh⟩, nofun⟩

/-- A store that knows its token to be given out knows it later too. -/
theorem Store.Sits.mono {store : Store} {given later : Nat} (sits : store.Sits given)
    (more : given ≤ later) : store.Sits later :=
  ⟨sits.fits, fun handle holds => Nat.lt_of_lt_of_le (sits.handle handle holds) more⟩

/-- After an operation a store has the handle from before, or one that it has opened meanwhile. -/
theorem Store.Sits.operate {store : Store} {memory : Memory} {operation : Operation}
    {outcome : Except StoreError Unit} {after : World Memory} {taken : List Taken}
    (sits : store.Sits memory.nextHandle) (prompt : memory.Prompt)
    (ended : (operation.script store.target).Ends (Conduct.honest Memory) (store.world memory) taken
      outcome after) : (store.after after).Sits after.storage.nextHandle := by
  obtain ⟨stranded, fits⟩ := sits.fits
  obtain ⟨-, later, opened⟩ := Script.Passes.prompt ended prompt
  refine ⟨⟨_, fits.after ended⟩, fun handle holds => ?_⟩
  have hand := Operation.hand fits ended
  have left : after.lifecycle.handle = some handle := holds
  rw [Grip.ofLifecycle_of_handle left] at hand
  rcases Grip.of_along hand with ⟨before, held⟩ | ⟨step, isTaken, opens⟩
  · refine Nat.lt_of_lt_of_le (sits.handle handle ?_) later
    unfold Grip.ofLifecycle at held
    split at held
    · cases held
    next own holds =>
      cases held
      exact holds
  · exact opened step isTaken handle opens

/-! ## Sessions in order -/

namespace Monitored

/-- The storage under observation is that memory, and is not made to fail. -/
structure Holds (memory : Memory) (monitored : Monitored Medium) : Prop where
  storage : monitored.storage = .inMemory memory
  quiet : monitored.Quiet

variable {memory : Memory} {monitored : Monitored Medium}

/-- The storage under observation answers as the memory does. -/
theorem Holds.answer (holds : Holds memory monitored) (request : Request) :
    (Storage.answer request monitored).1 = (memory.answer request).1 ∧
      Holds (memory.answer request).2 (Storage.answer request monitored).2 := by
  obtain ⟨storage, quiet⟩ := holds
  rw [quiet.answer_eq, storage]
  exact ⟨rfl, rfl, quiet⟩

theorem Holds.close (holds : Holds memory monitored) (handle : Handle) :
    Holds (memory.close handle) (Storage.close handle monitored) := by
  obtain ⟨storage, quiet⟩ := holds
  refine ⟨?_, quiet⟩
  change Storage.close handle monitored.storage = _
  rw [storage]
  rfl

/-- A storage under observation answers as the memory that it is. -/
theorem answersAlike_holds : AnswersAlike id Holds where
  answers request memory monitored holds := by
    cases request <;>
      exact ⟨(holds.answer _).1.trans (congrFun Except.map_id _).symm, (holds.answer _).2⟩
  closes handle memory monitored holds := holds.close handle

end Monitored

/-- Where no fault is in store, a script uses none up. -/
theorem Script.Passes.faults {σ α : Type} [Storage σ] {script last : Script α}
    {world after : World (Monitored σ)} {taken : List Taken}
    (passes : Script.Passes (Conduct.honest (Monitored σ)) script world taken last after)
    (quiet : world.storage.Quiet) : after.storage.faults = world.storage.faults := by
  induction passes with
  | here => rfl
  | @step script last action next world middle after answer taken acting allowed _
      inductionHypothesis =>
    suffices one : middle.storage.faults = world.storage.faults by
      exact (inductionHypothesis fun name => one ▸ quiet name).trans one
    cases action with
    | ask request =>
      obtain ⟨storage, answered, rfl⟩ := allowed
      change Storage.answer request world.storage = (answer, storage) at answered
      rw [quiet.answer_eq] at answered
      cases answered
      rfl
    | _ =>
      cases allowed
      rfl

@[simp] theorem Lifecycle.renamed_id (lifecycle : Lifecycle) : lifecycle.renamed id = lifecycle := by
  obtain ⟨state, handle, locked, associated⟩ := lifecycle
  cases handle <;> rfl

/-- A script that is run on a storage under observation is run on the memory behind it. -/
theorem Script.Alike.held {α : Type} {script : Script α} {memory : Memory}
    {world : World (Monitored Medium)} (alike : Script.Alike id id script script)
    (holds : world.storage.Holds memory) (budget : Nat) :
    Option.Rel (fun one two => two.1 = one.1 ∧ World.Alike id Monitored.Holds one.2 two.2)
      (script.run budget (world.on memory)) (script.run budget world) :=
  alike.run Monitored.answersAlike_holds ⟨holds, rfl, world.lifecycle.renamed_id.symm, rfl⟩ budget

/-- What the run has left behind is what it leaves of the memory. -/
theorem Script.Alike.of_run {α : Type} {script : Script α} {memory : Memory}
    {world after : World (Monitored Medium)} {budget : Nat} {result : α}
    (alike : Script.Alike id id script script) (holds : world.storage.Holds memory)
    (ran : script.run budget world = some (result, after)) :
    ∃ left, script.run budget (world.on memory) = some (result, left) ∧ after = left.on after.storage ∧
      after.storage.Holds left.storage := by
  have related := alike.held holds budget
  rw [ran] at related
  generalize script.run budget (world.on memory) = reached at related
  cases related with
  | @some one _ related =>
    obtain ⟨value, left⟩ := one
    obtain ⟨same, kept, cached, lifecycle, events⟩ := related
    obtain rfl : result = value := same
    rw [Lifecycle.renamed_id] at lifecycle
    refine ⟨left, rfl, ?_, kept⟩
    unfold World.on
    rw [← cached, ← lifecycle, ← events]

namespace Session

/-- A session on that memory, in which every store and every bare handle has a token that has been given
out. -/
structure Orderly (session : Session) (memory : Memory) : Prop where
  holds : session.storage.Holds memory
  prompt : memory.Prompt
  stores : ∀ name store, session.stores.get? name = some store → store.Sits memory.nextHandle
  handles : ∀ name bare, session.handles.get? name = some bare →
    bare.handle.serial < memory.nextHandle

variable {session : Session} {memory after : Memory}

namespace Orderly

/-- A session stays orderly on a memory that has moved onward. -/
theorem onStorage {storage : Monitored Medium} (orderly : session.Orderly memory)
    (holds : storage.Holds after) (prompt : after.Prompt)
    (later : memory.nextHandle ≤ after.nextHandle) : Orderly { session with storage } after where
  holds := holds
  prompt := prompt
  stores name store found := (orderly.stores name store found).mono later
  handles name bare found := Nat.lt_of_lt_of_le (orderly.handles name bare found) later

/-- A store may be added if its token has been given out. -/
theorem setStore (orderly : session.Orderly memory) (name : String) {store : Store}
    (sits : store.Sits memory.nextHandle) :
    Orderly { session with stores := session.stores.set name store } memory where
  holds := orderly.holds
  prompt := orderly.prompt
  stores one other found := by
    simp only [Table.get?_set] at found
    split at found
    · cases found
      exact sits
    · exact orderly.stores one other found
  handles := orderly.handles

theorem setHandle (orderly : session.Orderly memory) (name : String) {bare : BareHandle}
    (given : bare.handle.serial < memory.nextHandle) :
    Orderly { session with handles := session.handles.set name bare } memory where
  holds := orderly.holds
  prompt := orderly.prompt
  stores := orderly.stores
  handles one other found := by
    simp only [Table.get?_set] at found
    split at found
    · cases found
      exact given
    · exact orderly.handles one other found

theorem rested (orderly : session.Orderly memory) : session.rested.Orderly memory :=
  orderly.onStorage ⟨orderly.holds.storage, orderly.holds.quiet⟩ orderly.prompt (Nat.le_refl _)

theorem close (orderly : session.Orderly memory) (handle : Handle) :
    (session.closeHandle handle).Orderly (memory.close handle) :=
  orderly.onStorage (orderly.holds.close handle) (orderly.prompt.close handle)
    (Memory.onward_close memory handle).handles

theorem ask (orderly : session.Orderly memory) (request : Request) :
    (session.ask request).2.Orderly (memory.answer request).2 :=
  orderly.onStorage (orderly.holds.answer request).2 (orderly.prompt.answer request)
    (Memory.onward_answer memory request).handles

theorem removeStore (orderly : session.Orderly memory) (name : String) :
    ∃ after, (session.removeStore name).Orderly after := by
  unfold Session.removeStore
  split
  next store found =>
    have erased : ∀ other left, (session.stores.erase name).get? other = some left →
        session.stores.get? other = some left := by
      intro other left still
      rw [Table.get?_erase] at still
      split at still
      · cases still
      · exact still
    obtain ⟨target, cached, state, held, locked, associated⟩ := store
    cases held with
    | none =>
      exact ⟨memory, orderly.holds, orderly.prompt,
        fun other left still => orderly.stores other left (erased other left still), orderly.handles⟩
    | some handle =>
      have closed := orderly.close handle
      exact ⟨_, closed.holds, closed.prompt,
        fun other left still => closed.stores other left (erased other left still), closed.handles⟩
  next => exact ⟨memory, orderly⟩

theorem removeHandle (orderly : session.Orderly memory) (name : String) :
    ∃ after, (session.removeHandle name).Orderly after := by
  unfold Session.removeHandle
  split
  next bare found =>
    have closed := orderly.close bare.handle
    refine ⟨_, closed.holds, closed.prompt, closed.stores, fun other left still => ?_⟩
    change (session.handles.erase name).get? other = some left at still
    rw [Table.get?_erase] at still
    split at still
    · cases still
    · exact closed.handles other left still
  next => exact ⟨memory, orderly⟩

/-- A store that has run a script sits as the script has left it. -/
theorem storeRun (orderly : session.Orderly memory) {α : Type} {script : Script α}
    (alike : Script.Alike id id script script) (name : String) {store : Store}
    (sits : ∀ {taken result left}, script.Ends (Conduct.honest Memory) (store.world memory) taken result
      left → (store.after left).Sits left.storage.nextHandle) {budget : Nat}
    {ran : Store.Ran (Monitored Medium) α}
    (same : store.run budget script session.storage = some ran) :
    ∃ after, Orderly
      { session with storage := ran.storage, stores := session.stores.set name ran.store } after := by
  obtain ⟨⟨result, world⟩, reached, rfl⟩ := Option.map_eq_some_iff.1 same
  obtain ⟨left, there, same, holds⟩ := alike.of_run orderly.holds reached
  obtain ⟨taken, ended⟩ := Script.ends_of_run there
  obtain ⟨prompt, later, -⟩ := Script.Passes.prompt ended orderly.prompt
  have moved := orderly.onStorage holds prompt later
  refine ⟨left.storage, moved.setStore name ?_⟩
  simp only
  rw [same]
  exact sits ended

/-- A script that is run for no store leaves the session orderly. -/
theorem runBare (orderly : session.Orderly memory) {α : Type} {script : Script α} {bytes : Nat}
    {result : α} {next : Session} (alike : Script.Alike id id script script)
    (ran : session.runBare bytes script = some (result, next)) : ∃ after, next.Orderly after := by
  obtain ⟨⟨value, world⟩, reached, same⟩ := Option.map_eq_some_iff.1 ran
  cases same
  obtain ⟨left, there, -, holds⟩ := alike.of_run orderly.holds reached
  obtain ⟨taken, ended⟩ := Script.ends_of_run there
  obtain ⟨prompt, later, -⟩ := Script.Passes.prompt ended orderly.prompt
  exact ⟨left.storage, orderly.onStorage holds prompt later⟩

/-- A script that is run for a store leaves it with a token that has been given out. -/
theorem runFor (orderly : session.Orderly memory) {α : Type}
    {script : Target → Script (Except StoreError α)}
    (alike : ∀ target, Script.Alike id id (script target) (script target))
    (sits : ∀ {store : Store} {taken result left}, store.Sits memory.nextHandle →
      (script store.target).Ends (Conduct.honest Memory) (store.world memory) taken result left →
        (store.after left).Sits left.storage.nextHandle) (name : String) (reply : α → Reply) :
    ∃ after, (session.runFor name script reply).session.Orderly after := by
  unfold Session.runFor
  split
  · exact ⟨memory, orderly⟩
  next store found =>
    split
    · exact ⟨memory, orderly⟩
    next ran same =>
      exact orderly.storeRun (alike store.target) name (sits (orderly.stores name store found)) same

theorem runTimes (orderly : session.Orderly memory) (name : String) (operation : Operation)
    (count : Nat) : ∃ after, (session.runTimes name operation count).1.Orderly after := by
  induction count with
  | zero => exact ⟨memory, orderly⟩
  | succ count inductionHypothesis =>
    obtain ⟨after, reached⟩ := inductionHypothesis
    unfold Session.runTimes
    generalize session.runTimes name operation count = triple at reached
    obtain ⟨session, outcomes, events⟩ := triple
    change session.Orderly after at reached
    simp only
    split
    · exact ⟨after, reached⟩
    next store found =>
      split
      · exact ⟨after, reached⟩
      next ran same =>
        exact reached.storeRun (operation.alike store.target) name
          (fun ended => (reached.stores name store found).operate reached.prompt ended) same

theorem runScript (orderly : session.Orderly memory) {α : Type}
    {script : Script (Except StoreError α)} (alike : Script.Alike id id script script)
    (reply : α → Reply) : ∃ after, (session.runScript script reply).session.Orderly after := by
  unfold Session.runScript
  split
  · exact ⟨memory, orderly⟩
  next outcome next ran => exact orderly.runBare alike ran

theorem withHandle (orderly : session.Orderly memory) (name : String) {body : BareHandle → Raw}
    (bodies : ∀ bare, ∃ after, (body bare).session.Orderly after) :
    ∃ after, (session.withHandle name body).session.Orderly after := by
  unfold Session.withHandle
  split
  · exact ⟨memory, orderly⟩
  next bare _ => exact bodies bare

theorem onMemory (orderly : session.Orderly memory) (prompt : after.Prompt)
    (later : memory.nextHandle ≤ after.nextHandle) : (session.onMedium (.inMemory after)).Orderly after :=
  orderly.onStorage ⟨rfl, orderly.holds.quiet⟩ prompt later

theorem withMemory (orderly : session.Orderly memory) {body : Memory → Reply × Memory}
    (prompt : (body memory).2.Prompt) (later : memory.nextHandle ≤ (body memory).2.nextHandle) :
    ∃ after, (session.withMemory body).session.Orderly after := by
  unfold Session.withMemory
  rw [orderly.holds.storage]
  exact ⟨_, orderly.onMemory prompt later⟩

theorem withTree (orderly : session.Orderly memory) (body : FileTree → FileTree) :
    ∃ after, (session.withTree body).session.Orderly after := by
  unfold Session.withTree
  rw [orderly.holds.storage]
  exact ⟨memory, orderly⟩

theorem withStore (orderly : session.Orderly memory) (name : String) (reply : Store → Reply) :
    ∃ after, (session.withStore name reply).session.Orderly after := by
  unfold Session.withStore
  split <;> exact ⟨memory, orderly⟩

/-- Opening a bare handle gives out a token. -/
theorem openHandle (orderly : session.Orderly memory) (name : String) (path : Path) :
    ∃ after, (session.take (.openHandle name path)).session.Orderly after := by
  obtain ⟨left, removed⟩ := orderly.removeHandle name
  have asked := removed.ask (.openFile path)
  have answered := (removed.holds.answer (.openFile path)).1
  change ((session.removeHandle name).ask (.openFile path)).1 = _ at answered
  simp only [Session.take]
  generalize (session.removeHandle name).ask (.openFile path) = reached at asked answered
  obtain ⟨answer, next⟩ := reached
  change next.Orderly _ at asked
  change answer = _ at answered
  cases answer with
  | error cause => exact ⟨_, asked⟩
  | ok handle =>
    refine ⟨_, asked.setHandle name ?_⟩
    exact Memory.serial_openFile (Prod.ext answered.symm rfl)

/-- A step that asks for no failure leaves a session in order. -/
theorem take (orderly : session.Orderly memory) {step : Step} (calm : step.Calm) :
    ∃ after, (session.take step).session.Orderly after := by
  cases step with
  | make name target =>
    obtain ⟨left, removed⟩ := orderly.removeStore name
    exact ⟨left, removed.setStore name (Store.sits_fresh target _)⟩
  | crash name => exact orderly.removeStore name
  | operate name operation =>
    exact orderly.runFor operation.alike (fun sits ended => sits.operate orderly.prompt ended) name _
  | concurrently name threads operation =>
    simp only [Session.take]
    split
    · exact orderly.runTimes name operation threads
    · exact ⟨memory, orderly⟩
  | present name =>
    refine orderly.runFor Target.alike_present (fun {store} _ _ left sits ended => ?_) name _
    obtain ⟨-, later, -⟩ := Script.Passes.prompt ended orderly.prompt
    obtain ⟨fits, handle⟩ := sits.mono later
    have kept : left.lifecycle = store.lifecycle :=
      (Target.tells_present store.target).of_ends ended
    rw [← kept] at fits handle
    exact ⟨fits, handle⟩
  | flags name => exact orderly.withStore name _
  | path name => exact orderly.withStore name _
  | config name => exact orderly.withStore name _
  | describe name => exact orderly.withStore name _
  | inspect path => exact orderly.runScript (alike_inspect path) _
  | readRecord path => exact orderly.runScript (alike_readRecord path) _
  | callPath path call => cases call <;> exact ⟨_, orderly.ask _⟩
  | contents path => exact ⟨memory, orderly⟩
  | fault call faults =>
    obtain rfl : faults = [] := calm
    cases call with
    | none => exact ⟨memory, orderly⟩
    | some call =>
      obtain ⟨⟨storage, quiet⟩, prompt, stores, handles⟩ := orderly
      exact ⟨memory, ⟨storage, quiet.clear call⟩, prompt, stores, handles⟩
  | openHandle name path => exact orderly.openHandle name path
  | dropHandle name => exact orderly.removeHandle name
  | callHandle name call =>
    refine orderly.withHandle name fun bare => ?_
    cases call <;> exact ⟨_, orderly.ask _⟩
  | handlePath name =>
    refine orderly.withHandle name fun bare => ?_
    split <;> exact ⟨memory, orderly⟩
  | readFull name offset count =>
    refine orderly.withHandle name fun bare => ?_
    unfold Session.fill
    split
    · exact ⟨memory, orderly⟩
    next ran => exact orderly.runBare (alike_readFull _ _ _) ran
  | writeFull name offset bytes =>
    refine orderly.withHandle name fun bare => ?_
    split
    · exact ⟨memory, orderly⟩
    next ran => exact orderly.runBare (alike_writeFull _ _ _) ran
  | put path bytes =>
    obtain ⟨sound, interrupts, opens⟩ := orderly.prompt
    change ∃ after, (session.onMedium (session.storage.storage.put path bytes)).Orderly after
    rw [orderly.holds.storage]
    exact ⟨_, orderly.onMemory ⟨sound.put path bytes, interrupts, opens⟩ (Nat.le_refl _)⟩
  | misbehave misbehaviour amount =>
    obtain ⟨sound, interrupts, opens⟩ := id orderly.prompt
    simp only [Session.take]
    apply orderly.withMemory
    · cases misbehaviour with
      | interrupts => exact ⟨sound.of_tables rfl rfl rfl rfl rfl, calm, opens⟩
      | failingOpens => exact ⟨sound.of_tables rfl rfl rfl rfl rfl, interrupts, calm⟩
      | _ => exact ⟨sound.of_tables rfl rfl rfl rfl rfl, interrupts, opens⟩
    · cases misbehaviour <;> exact Nat.le_refl _
  | isLocked path =>
    simp only [Session.take]
    exact orderly.withMemory orderly.prompt (Nat.le_refl _)
  | writeCalls =>
    simp only [Session.take]
    exact orderly.withMemory orderly.prompt (Nat.le_refl _)
  | makeDirectories path => exact orderly.withTree _
  | makeLink target path => exact orderly.withTree _
  | unknown store handle => exact ⟨memory, orderly⟩

end Orderly

end Session

end CrashMarker
