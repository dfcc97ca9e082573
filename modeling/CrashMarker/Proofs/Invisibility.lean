/-
Module: CrashMarker.Proofs.Invisibility
Purpose: Looking at markers changes nothing for anybody else.
Main exports:
  Memory.Glanced, Session.Orderly.looked, Session.told, Session.scenery, Session.looks_are_invisible
-/
import CrashMarker.Proofs.Prediction
import CrashMarker.Proofs.Sessions

namespace CrashMarker

/-!
To look at a marker is to open its file and to close it again, so that looking uses up a token.  All
handles that are opened later have other tokens than they would have had, and nothing else differs: no
lock belongs to the handle that is closed, since nobody has taken one with it.  From there on the session
that has been looked at goes on as the other one does.
-/

/-! ## Tokens given out later -/

/-- From one token on, all others come one later. -/
def Handle.later (given : Nat) (handle : Handle) : Handle :=
  if handle.serial < given then handle else ⟨handle.serial + 1⟩

/-- No two tokens become one. -/
theorem Handle.later_injective (given : Nat) : Function.Injective (later given) := by
  rintro ⟨one⟩ ⟨two⟩ same
  unfold later at same
  simp only at same
  split at same <;> split at same <;> injection same with same <;> congr <;> omega

theorem Handle.later_of_lt {given : Nat} {handle : Handle} (old : handle.serial < given) :
    handle.later given = handle :=
  if_pos old

theorem Handle.later_of_le {given : Nat} {handle : Handle} (young : given ≤ handle.serial) :
    handle.later given = ⟨handle.serial + 1⟩ :=
  if_neg (Nat.not_lt_of_le young)

namespace Memory

variable {memory : Memory} {world : World Memory} {path : Path}

/-- What looking leaves of a memory: all of it, with a token used up if a file has been opened. -/
inductive Glanced (memory : Memory) : Memory → Prop where
  | untouched : Glanced memory memory
  | opened {object : ObjectId} {file : FileObject}
      (there : memory.objects.get? object = some file) :
      Glanced memory ((memory.withHandle object).close ⟨memory.nextHandle⟩)

/-- What is to be seen at a path. -/
def sight (memory : Memory) (path : Path) : Except StoreError Snapshot :=
  match memory.contents path with
  | none => .ok .missing
  | some bytes => glimpse memory.extraSize bytes

/-- Looking never asks for a lock, so nobody is told that there is one. -/
theorem sight_ne_locked (memory : Memory) (path other : Path) :
    memory.sight path ≠ .error (.locked other) := by
  unfold sight
  split
  · nofun
  · unfold glimpse
    split
    · nofun
    next error failed =>
      -- Reading fails only because there are fewer bytes than the size promises.
      simp only [reading] at failed
      split at failed
      · cases failed
      · cases failed
        nofun

/-- Inspecting tells what is to be seen, and is done after a few actions. -/
theorem Prompt.completes_inspect (prompt : world.storage.Prompt) (path : Path) :
    (inspect path).Completes world fun taken outcome after =>
      taken.length ≤ 7 ∧ outcome = world.storage.sight path ∧
        ∃ storage, world.storage.Glanced storage ∧ after = { world with storage } := by
  cases named : world.storage.named path with
  | none =>
    apply (completes_inspect_missing named).mono
    rintro taken outcome after ⟨rfl, steps, rfl⟩
    refine ⟨by omega, ?_, _, .untouched, rfl⟩
    simp only [sight, contents, file, named]
    rfl
  | some object =>
    obtain ⟨file, there⟩ := prompt.sound.named named
    apply (Memory.completes_inspect prompt.opens named there).mono
    rintro taken outcome after ⟨rfl, interrupts, fewer, steps, rfl⟩
    rw [prompt.interrupts] at fewer steps
    obtain rfl : interrupts = 0 := Nat.le_zero.1 fewer
    have same : ({ world.storage.withHandle object with interrupts := 0 } : Memory) =
        world.storage.withHandle object := by
      rw [← prompt.interrupts]
      rfl
    rw [same]
    refine ⟨steps, ?_, _, .opened there, rfl⟩
    simp only [sight, contents, Memory.file, named, Option.bind_some, there, Option.map_some]

/-- Reading a record glances at the memory and leaves it alone. -/
theorem Prompt.completes_readRecord (prompt : world.storage.Prompt) (path : Path) :
    (readRecord path).Completes world fun taken _ after =>
      taken.length ≤ 7 ∧ ∃ storage, world.storage.Glanced storage ∧ after = { world with storage } := by
  apply Script.completes_bind
  apply (prompt.completes_inspect path).mono
  rintro taken outcome after ⟨steps, -, looked⟩
  cases outcome <;> exact Script.completes_done ⟨by simpa using steps, looked⟩

theorem completes_present (target : Target) :
    target.present.Completes world fun taken _ after =>
      taken.length ≤ 7 ∧ ∃ storage, world.storage.Glanced storage ∧ after = { world with storage } := by
  apply Script.completes_bind
  apply Script.completes_ask (answer_present world.storage target.path)
  exact Script.completes_done ⟨Nat.le_add_left 1 6, _, .untouched, rfl⟩

/-- After a look, a memory differs in the tokens to come only. -/
theorem Glanced.renamed {after : Memory} (glanced : memory.Glanced after) (sound : memory.Sound) :
    ∃ rename, Function.Injective rename ∧
      (∀ handle, handle.serial < memory.nextHandle → rename handle = handle) ∧
      memory.Renamed rename after := by
  have old : ∀ {rename : Handle → Handle},
      (∀ handle, handle.serial < memory.nextHandle → rename handle = handle) →
        ∀ object, (memory.objects.get? object).map (·.renamed rename) = memory.objects.get? object := by
    intro rename fixes object
    cases there : memory.objects.get? object with
    | none => rfl
    | some file =>
      obtain ⟨bytes, owner⟩ := file
      cases owner with
      | none => rfl
      | some owner =>
        have given := (sound.opened (sound.owned there rfl)).1
        simp only [Option.map_some, FileObject.renamed, fixes owner given]
  cases glanced with
  | untouched =>
    refine ⟨id, Function.injective_id, fun _ _ => rfl, ?_⟩
    exact .intro (fun _ => rfl) (fun object => (old (fun _ _ => rfl) object).symm) (fun _ => rfl)
      fun _ => rfl
  | @opened object file there =>
    have fixes : ∀ handle : Handle, handle.serial < memory.nextHandle →
        handle.later memory.nextHandle = handle := fun _ => Handle.later_of_lt
    refine ⟨Handle.later memory.nextHandle, Handle.later_injective _, fixes, ?_⟩
    have bound : (memory.withHandle object).handles.get? ⟨memory.nextHandle⟩ = some object :=
      Table.get?_set_self _ _ _
    unfold Memory.close
    rw [bound]
    refine .intro (fun _ => rfl) (fun other => ?_) (fun handle => ?_) fun count => ?_
    · rw [old fixes]
      simp only [Memory.updateObject, withHandle, Table.get?_update]
      split
      next same =>
        have unowned : file.owner ≠ some ⟨memory.nextHandle⟩ := fun owns =>
          absurd (sound.opened (sound.owned there owns)).1 (Nat.lt_irrefl _)
        rw [same, there, Option.map_some, released_eq_self unowned]
      next => rfl
    · have unopened : ∀ {other : Handle}, memory.nextHandle ≤ other.serial →
          memory.handles.get? other = none := by
        intro other young
        cases found : memory.handles.get? other with
        | none => rfl
        | some object => exact absurd (sound.opened found).1 (Nat.not_lt_of_le young)
      simp only [withHandle, Table.get?_erase, Table.get?_set]
      by_cases given : handle.serial < memory.nextHandle
      · have other : handle ≠ ⟨memory.nextHandle⟩ := by
          rintro rfl
          exact Nat.lt_irrefl _ given
        rw [fixes handle given, if_neg other, if_neg other]
      · have young := Nat.le_of_not_lt given
        have other : (⟨handle.serial + 1⟩ : Handle) ≠ ⟨memory.nextHandle⟩ := by
          intro same
          injection same with same
          omega
        rw [Handle.later_of_le young, if_neg other, if_neg other, unopened young,
          unopened (Nat.le_succ_of_le young)]
    · rw [Handle.later_of_le (Nat.le_add_right _ _)]
      simp only [withHandle, Memory.updateObject]
      congr 1
      omega

end Memory

/-! ## Looks in a session -/

/-- A way to look at a marker. -/
inductive Look where
  | inspect (path : Path)
  | readRecord (path : Path)
  | present (store : String)

def Look.step : Look → Step
  | .inspect path => .inspect path
  | .readRecord path => .readRecord path
  | .present store => .present store

theorem Look.calm (look : Look) : look.step.Calm := by
  cases look <;> trivial

namespace Session

variable {session : Session} {memory : Memory}

namespace Orderly

/-- A script that only looks comes to its end, and leaves a storage that has only been looked at. -/
theorem glances (orderly : session.Orderly memory) {α : Type} {script : Script α}
    (alike : Script.Alike id id script script) (world : World (Monitored Medium))
    (same : world.storage = session.storage) (ends : α → Prop)
    (completes : script.Completes (world.on memory) fun taken result after => taken.length ≤ 7 ∧
      ends result ∧ ∃ storage, memory.Glanced storage ∧ after = { world.on memory with storage }) :
    ∃ result storage glanced,
      script.run (session.budget 0) world = some (result, { world with storage }) ∧
      ends result ∧ memory.Glanced glanced ∧ storage.Holds glanced ∧
      storage.faults = session.storage.faults := by
  obtain ⟨taken, result, after, ⟨steps, holds, glanced, looked, rfl⟩, ran⟩ := completes.run_eq
  have enough : taken.length ≤ session.budget 0 := by
    unfold Session.budget
    omega
  have onMemory := ran (session.budget 0 - taken.length)
  rw [Nat.add_sub_cancel' enough] at onMemory
  have related := alike.held (same ▸ orderly.holds) (session.budget 0)
  rw [onMemory] at related
  generalize reached : script.run (session.budget 0) world = two at related
  cases related with
  | @some _ pair related =>
    obtain ⟨value, left⟩ := pair
    obtain ⟨told, storage, cached, lifecycle, events⟩ := related
    obtain rfl : value = result := told
    obtain ⟨taken, ended⟩ := Script.ends_of_run reached
    have faults := Script.Passes.faults ended (same ▸ orderly.holds.quiet)
    refine ⟨value, left.storage, glanced, ?_, holds, looked, storage, same ▸ faults⟩
    rw [Lifecycle.renamed_id] at lifecycle
    have whole : left = ⟨left.storage, left.cached, left.lifecycle, left.events⟩ := rfl
    rw [whole, cached, lifecycle, events]
    rfl

/-- Sessions of which one has been looked at differ in tokens only. -/
theorem alike_of_glanced (orderly : session.Orderly memory) {next : Session} {left : Memory}
    (glanced : memory.Glanced left) (holds : next.storage.Holds left)
    (faults : next.storage.faults = session.storage.faults)
    (stores : ∀ name, next.stores.get? name = session.stores.get? name)
    (handles : next.handles = session.handles) :
    ∃ rename, Function.Injective rename ∧ session.rested.Alike rename next.rested := by
  obtain ⟨rename, distinct, fixes, renamed⟩ := glanced.renamed orderly.prompt.sound
  refine ⟨rename, distinct, ⟨?_, orderly.holds.quiet, faults, rfl⟩, fun name => ?_, fun name => ?_⟩
  · change Medium.Renamed rename session.storage.storage next.storage.storage
    rw [orderly.holds.storage, holds.storage]
    exact .intro renamed
  · change next.stores.get? name = (session.stores.get? name).map _
    rw [stores]
    cases found : session.stores.get? name with
    | none => rfl
    | some store =>
      have sits := orderly.stores name store found
      obtain ⟨target, cached, state, held, locked, associated⟩ := store
      cases held with
      | none => rfl
      | some handle =>
        simp only [Option.map_some, Store.renamed, Lifecycle.renamed,
          fixes handle (sits.handle handle rfl)]
  · change next.handles.get? name = (session.handles.get? name).map _
    rw [handles]
    cases found : session.handles.get? name with
    | none => rfl
    | some bare =>
      simp only [Option.map_some, BareHandle.renamed, fixes _ (orderly.handles name bare found)]

/-- Looking by means of a script that concerns no store. -/
theorem runScript_glances (orderly : session.Orderly memory) {α : Type}
    {script : Script (Except StoreError α)} (alike : Script.Alike id id script script)
    (ends : Except StoreError α → Prop)
    (completes : script.Completes ({ storage := memory } : World Memory) fun taken result after =>
      taken.length ≤ 7 ∧ ends result ∧
        ∃ storage, memory.Glanced storage ∧ after = { storage := storage }) (reply : α → Reply) :
    (∃ rename, Function.Injective rename ∧
      session.rested.Alike rename (session.runScript script reply).session.rested) ∧
      ∃ result, ends result ∧ (session.runScript script reply).outcome = outcomeOf reply result := by
  obtain ⟨result, storage, left, ran, told, glanced, holds, faults⟩ :=
    orderly.glances alike { storage := session.storage } rfl ends completes
  have same : session.runScript script reply =
      { session := { session with storage }, outcome := outcomeOf reply result } := by
    unfold Session.runScript Session.runBare
    simp only [ran]
    rfl
  rw [same]
  exact ⟨orderly.alike_of_glanced glanced holds faults (fun _ => rfl) rfl, result, told, rfl⟩

/-- Inspecting is answered with what is to be seen. -/
theorem inspect_glances (orderly : session.Orderly memory) (path : Path) :
    (∃ rename, Function.Injective rename ∧
      session.rested.Alike rename (session.take (.inspect path)).session.rested) ∧
      (session.take (.inspect path)).outcome = outcomeOf .snapshot (memory.sight path) := by
  have completes : (CrashMarker.inspect path).Completes ({ storage := memory } : World Memory) _ :=
    Memory.Prompt.completes_inspect orderly.prompt path
  obtain ⟨alike, seen, rfl, told⟩ :=
    orderly.runScript_glances (alike_inspect path) _ completes .snapshot
  exact ⟨alike, told⟩

/-- After a look for the file the session differs from the one before in tokens only. -/
theorem present_glances (orderly : session.Orderly memory) (name : String) :
    ∃ rename, Function.Injective rename ∧
      session.rested.Alike rename (session.take (.present name)).session.rested := by
  change ∃ rename, _ ∧
    session.rested.Alike rename (session.runFor name Target.present .flag).session.rested
  unfold Session.runFor
  cases found : session.stores.get? name with
  | none => exact orderly.alike_of_glanced .untouched orderly.holds rfl (fun _ => rfl) rfl
  | some store =>
    have completes : store.target.present.Completes (store.world memory) _ :=
      Memory.completes_present store.target
    obtain ⟨result, storage, left, ran, -, glanced, holds, faults⟩ :=
      orderly.glances (Target.alike_present store.target) (store.world session.storage) rfl
        (fun _ => True) (completes.mono fun _ _ _ ⟨steps, looked⟩ => ⟨steps, trivial, looked⟩)
    have same : store.run (session.budget 0) store.target.present session.storage =
        some ⟨result, store, storage, []⟩ := by
      unfold Store.run
      rw [ran]
      rfl
    simp only [same]
    refine orderly.alike_of_glanced glanced holds faults (fun other => ?_) rfl
    rw [Table.get?_set]
    by_cases equal : other = name
    · rw [if_pos equal, equal, found]
    · rw [if_neg equal]

/-- After a look, a session differs in tokens only. -/
theorem looked (orderly : session.Orderly memory) (look : Look) :
    ∃ rename, Function.Injective rename ∧
      session.rested.Alike rename (session.perform look.step).2.rested := by
  cases look with
  | inspect path => exact (orderly.rested.inspect_glances path).1
  | readRecord path =>
    have completes : (CrashMarker.readRecord path).Completes ({ storage := memory } : World Memory) _ :=
      Memory.Prompt.completes_readRecord orderly.prompt path
    exact (orderly.rested.runScript_glances (alike_readRecord path) (fun _ => True)
      (completes.mono fun _ _ _ ⟨steps, looked⟩ => ⟨steps, trivial, looked⟩) .record).1
  | present name => exact orderly.rested.present_glances name

end Orderly

end Session

/-! ## What is seen of a session -/

/-- Nobody sees which tokens stand for the open files. -/
def blank (_ : Handle) : Handle := ⟨0⟩

/-- A report without the tokens of handles. -/
def Report.blind (report : Report) : Report := report.renamed blank

/-- All that is seen of a session between two steps: the stores, the paths of the bare handles, how the
file at every path looks, and whether there is one. -/
structure Scenery where
  stores : String → Option Store
  handles : String → Option Path
  files : Path → FileView
  present : Path → Except StorageError Bool

/-- What is done in a session: an act, or a look that somebody takes in between. -/
inductive Move where
  | act (step : Step)
  | look (look : Look)

def Move.step : Move → Step
  | .act step => step
  | .look seen => seen.step

/-- Whether a move is more than a look in between. -/
def Move.isAct : Move → Bool
  | .act _ => true
  | .look _ => false

theorem Exchange.renamed_blank (rename : Handle → Handle) (exchange : Exchange) :
    (exchange.renamed rename).renamed blank = exchange.renamed blank := by
  obtain ⟨request, answer, received⟩ := exchange
  cases request <;> cases answer <;> rfl

theorem Store.renamed_blank (store : Store) (rename : Handle → Handle) :
    (store.renamed rename).renamed blank = store.renamed blank := by
  obtain ⟨target, cached, state, held, locked, associated⟩ := store
  cases held <;> rfl

/-- Renamed tokens are not seen in a report. -/
theorem Report.blind_renamed (rename : Handle → Handle) (report : Report) :
    (report.renamed rename).blind = report.blind := by
  obtain ⟨outcome, buffer, store, file, exchanges, events⟩ := report
  unfold Report.blind Report.renamed
  simp only [Option.map_map, List.map_map, Function.comp_def, Store.renamed_blank,
    Exchange.renamed_blank]

namespace Session

def scenery (session : Session) : Scenery where
  stores name := (session.stores.get? name).map (·.renamed blank)
  handles name := (session.handles.get? name).map (·.path)
  files := session.view
  present path := (Storage.answer (.present path) session.storage.storage).1

def after (session : Session) (moves : List Move) : Session :=
  moves.foldl (fun session move => (session.perform move.step).2) session

/-- What is told about the acts among a number of moves. -/
def told (session : Session) : List Move → List Report
  | [] => []
  | .act step :: moves => (session.perform step).1.blind :: (session.perform step).2.told moves
  | .look look :: moves => (session.perform look.step).2.told moves

variable {session other : Session} {memory : Memory} {rename : Handle → Handle}

/-- Sessions that differ in tokens only are a sight alike. -/
theorem Alike.scenery (alike : session.rested.Alike rename other.rested) :
    other.scenery = session.scenery := by
  obtain ⟨memory, twin, one, two, renamed⟩ := alike.memories
  change session.storage.storage = .inMemory memory at one
  change other.storage.storage = .inMemory twin at two
  unfold Session.scenery
  congr 1
  · funext name
    have same : other.stores.get? name = (session.stores.get? name).map _ := alike.stores name
    rw [same]
    cases session.stores.get? name with
    | none => rfl
    | some store => exact congrArg some (store.renamed_blank rename)
  · funext name
    have same : other.handles.get? name = (session.handles.get? name).map _ := alike.handles name
    rw [same]
    cases session.handles.get? name <;> rfl
  · exact funext alike.view
  · funext path
    rw [one, two]
    exact congrArg Except.ok (congrArg Option.isSome (renamed.named path))

/-- Acts are told alike in sessions that differ in tokens only, and lead to such sessions. -/
theorem Alike.told (alike : session.rested.Alike rename other.rested)
    (distinct : Function.Injective rename) {moves : List Move}
    (calm : ∀ step, Move.act step ∈ moves → step.Calm) :
    other.told moves = session.told moves ∧
      (session.after moves).rested.Alike rename (other.after moves).rested := by
  induction moves generalizing session other with
  | nil => exact ⟨rfl, alike⟩
  | cons move moves inductionHypothesis =>
    have others : ∀ step, Move.act step ∈ moves → step.Calm := fun step later =>
      calm step (List.mem_cons_of_mem _ later)
    cases move with
    | act step =>
      obtain ⟨same, kept⟩ := alike.perform distinct (calm step List.mem_cons_self)
      obtain ⟨rest, left⟩ := inductionHypothesis kept others
      refine ⟨?_, left⟩
      simp only [Session.told, same, Report.blind_renamed, rest]
    | look look =>
      obtain ⟨-, kept⟩ := alike.perform distinct look.calm
      exact inductionHypothesis kept others

/-- A session in order stays so, and tells of its acts what it tells without the looks in between. -/
theorem Orderly.told (orderly : session.Orderly memory) {moves : List Move}
    (calm : ∀ step, Move.act step ∈ moves → step.Calm) :
    session.told moves = session.told (moves.filter Move.isAct) ∧
      (session.after moves).scenery = (session.after (moves.filter Move.isAct)).scenery ∧
      ∃ left, (session.after moves).Orderly left := by
  induction moves generalizing session memory with
  | nil => exact ⟨rfl, rfl, memory, orderly⟩
  | cons move moves inductionHypothesis =>
    have others : ∀ step, Move.act step ∈ moves → step.Calm := fun step later =>
      calm step (List.mem_cons_of_mem _ later)
    cases move with
    | act step =>
      obtain ⟨next, taken⟩ := orderly.rested.take (calm step List.mem_cons_self)
      obtain ⟨same, seen, left⟩ := inductionHypothesis taken others
      exact ⟨congrArg (List.cons _) same, seen, left⟩
    | look look =>
      -- What follows the look is told as if it had not been taken.
      obtain ⟨next, taken⟩ := orderly.rested.take look.calm
      obtain ⟨same, seen, left⟩ := inductionHypothesis taken others
      obtain ⟨rename, distinct, alike⟩ := orderly.looked look
      have acts : ∀ step, Move.act step ∈ moves.filter Move.isAct → step.Calm :=
        fun step isAct => others step ((List.mem_filter.1 isAct).1)
      obtain ⟨without, kept⟩ := alike.told distinct acts
      exact ⟨same.trans without, seen.trans kept.scenery, left⟩

/-- Looks at markers that are taken between the acts of any number of stores and bare handles change
nothing that is told about the acts and nothing that is seen, and no look finds a marker locked. -/
theorem looks_are_invisible (prompt : memory.Prompt) (moves : List Move)
    (calm : ∀ step, Move.act step ∈ moves → step.Calm) :
    (begin (.inMemory memory)).told moves =
        (begin (.inMemory memory)).told (moves.filter Move.isAct) ∧
      ((begin (.inMemory memory)).after moves).scenery =
        ((begin (.inMemory memory)).after (moves.filter Move.isAct)).scenery ∧
      ∀ path, ∃ seen : Except StoreError Snapshot,
        (((begin (.inMemory memory)).after moves).perform (.inspect path)).1.outcome =
            outcomeOf .snapshot seen ∧
          ∀ other, seen ≠ .error (.locked other) := by
  have start : (begin (.inMemory memory)).Orderly memory :=
    ⟨⟨rfl, nofun⟩, prompt, nofun, nofun⟩
  obtain ⟨same, seen, left, orderly⟩ := start.told calm
  refine ⟨same, seen, fun path => ⟨left.sight path, ?_, left.sight_ne_locked path⟩⟩
  exact (orderly.rested.inspect_glances path).2

/-- A marker is made, changed and denied to a second store, and is looked at again and again meanwhile. -/
def watched : List Move :=
  [.act (.make "owner" ⟨⟨"marker"⟩, .standard⟩), .look (.inspect ⟨"marker"⟩),
    .act (.operate "owner" .create), .look (.inspect ⟨"marker"⟩), .look (.present "owner"),
    .act (.operate "owner" (.transition .dirty false)), .look (.readRecord ⟨"marker"⟩),
    .act (.openHandle "bare" ⟨"marker"⟩), .look (.inspect ⟨"marker"⟩),
    .act (.callHandle "bare" .lock), .act (.make "guest" ⟨⟨"marker"⟩, .standard⟩),
    .act (.operate "guest" .openMarker)]

/-- The looks at the marker leave no trace, although it is locked. -/
theorem looks_are_invisible_watched :
    Memory.Prompt {} ∧ (∀ step, Move.act step ∈ watched → step.Calm) ∧
      (begin (.inMemory {})).told watched =
        (begin (.inMemory {})).told (watched.filter Move.isAct) ∧
      ((begin (.inMemory {})).after watched).scenery =
        ((begin (.inMemory {})).after (watched.filter Move.isAct)).scenery ∧
      ∀ path, ∃ seen : Except StoreError Snapshot,
        (((begin (.inMemory {})).after watched).perform (.inspect path)).1.outcome =
            outcomeOf .snapshot seen ∧
          ∀ other, seen ≠ .error (.locked other) := by
  have prompt : Memory.Prompt {} := ⟨Memory.Sound.empty, rfl, rfl⟩
  have calm : ∀ step, Move.act step ∈ watched → step.Calm := by
    intro step isAct
    simp only [watched, List.mem_cons, List.not_mem_nil, Move.act.injEq, reduceCtorEq, or_false,
      false_or] at isAct
    rcases isAct with rfl | rfl | rfl | rfl | rfl | rfl | rfl <;> trivial
  exact ⟨prompt, calm, looks_are_invisible prompt watched calm⟩

end Session

end CrashMarker
