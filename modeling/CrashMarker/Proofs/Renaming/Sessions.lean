/-
Module: CrashMarker.Proofs.Renaming.Sessions
Purpose: Sessions that differ in the tokens of their handles take the same steps.
Main exports: Session.Alike, Session.Alike.take, Session.Alike.perform
-/
import CrashMarker.Proofs.Renaming.Operations
import CrashMarker.Proofs.Renaming.Storages
import CrashMarker.Session

namespace CrashMarker

variable {rename : Handle → Handle}

def Store.renamed (rename : Handle → Handle) (store : Store) : Store :=
  { store with lifecycle := store.lifecycle.renamed rename }

def BareHandle.renamed (rename : Handle → Handle) (bare : BareHandle) : BareHandle :=
  { bare with handle := rename bare.handle }

def Report.renamed (rename : Handle → Handle) (report : Report) : Report :=
  { report with
    store := report.store.map (·.renamed rename)
    exchanges := report.exchanges.map (·.renamed rename) }

namespace Session

/-- The session with the calls made so far forgotten, as they are before each step. -/
def rested (session : Session) : Session :=
  { session with storage := { session.storage with exchanges := [] } }

/-- Two sessions in memory that differ in tokens only, and are not made to fail. -/
structure Alike (rename : Handle → Handle) (session other : Session) : Prop where
  storage : Monitored.Alike rename (Medium.Renamed rename) session.storage other.storage
  stores : ∀ name, other.stores.get? name = (session.stores.get? name).map (·.renamed rename)
  handles : ∀ name, other.handles.get? name = (session.handles.get? name).map (·.renamed rename)

/-- What two steps come to that differ in tokens only. -/
structure Raw.Alike (rename : Handle → Handle) (raw other : Raw) : Prop where
  session : Session.Alike rename raw.session other.session
  outcome : other.outcome = raw.outcome
  buffer : other.buffer = raw.buffer
  events : other.events = raw.events
  subject : other.subject = raw.subject
  holder : other.holder = raw.holder

variable {session other : Session}

namespace Alike

/-! ## What is seen of a session -/

/-- The memories of two sessions that are alike. -/
theorem memories (alike : session.Alike rename other) :
    ∃ memory twin, session.storage.storage = .inMemory memory ∧
      other.storage.storage = .inMemory twin ∧ memory.Renamed rename twin := by
  obtain ⟨⟨storage, -, -, -⟩, -, -⟩ := alike
  generalize session.storage.storage = one at storage
  generalize other.storage.storage = two at storage
  obtain ⟨renamed⟩ := storage
  exact ⟨_, _, rfl, rfl, renamed⟩

theorem budget (alike : session.Alike rename other) (bytes : Nat) :
    other.budget bytes = session.budget bytes := by
  obtain ⟨memory, twin, one, two, renamed⟩ := alike.memories
  unfold Session.budget Monitored.pending Medium.patience
  rw [alike.storage.faults, one, two]
  simp only [renamed.counter Memory.patience fun _ _ _ _ => rfl]

theorem view (alike : session.Alike rename other) (path : Path) :
    other.view path = session.view path := by
  obtain ⟨memory, twin, one, two, renamed⟩ := alike.memories
  unfold Session.view
  rw [one, two]
  simp only [renamed.contents, renamed.isLocked, renamed.counter Memory.writeCalls fun _ _ _ _ => rfl]

theorem contains (alike : session.Alike rename other) (name : String) :
    other.stores.contains name = session.stores.contains name := by
  unfold Table.contains
  rw [alike.stores]
  exact Option.isSome_map

/-- The histories of sessions that are alike differ in tokens only. -/
theorem history (alike : session.Alike rename other) :
    other.storage.history = session.storage.history.map (·.renamed rename) := by
  unfold Monitored.history
  rw [alike.storage.exchanges, List.map_reverse]

/-- The tokens of handles are not seen in what reads have put into a buffer. -/
theorem bufferAfter_renamed (offset count : Nat) (history : List Exchange) :
    bufferAfter offset count (history.map (·.renamed rename)) = bufferAfter offset count history := by
  unfold bufferAfter
  rw [List.foldl_map]
  congr 1
  funext buffer exchange
  obtain ⟨request, answer, received⟩ := exchange
  cases request <;> rfl

/-! ## What is done to a session -/

theorem setStore (alike : session.Alike rename other) (name : String) (store : Store) :
    Alike rename { session with stores := session.stores.set name store }
      { other with stores := other.stores.set name (store.renamed rename) } where
  storage := alike.storage
  stores one := by
    simp only [Table.get?_set, alike.stores]
    split <;> rfl
  handles := alike.handles

theorem setHandle (alike : session.Alike rename other) (name : String) (bare : BareHandle) :
    Alike rename { session with handles := session.handles.set name bare }
      { other with handles := other.handles.set name (bare.renamed rename) } where
  storage := alike.storage
  stores := alike.stores
  handles one := by
    simp only [Table.get?_set, alike.handles]
    split <;> rfl

theorem onStorage (alike : session.Alike rename other) {storage twin : Monitored Medium}
    (storages : Monitored.Alike rename (Medium.Renamed rename) storage twin) :
    Alike rename { session with storage } { other with storage := twin } :=
  ⟨storages, alike.stores, alike.handles⟩

/-- The memories below both sessions may be changed at once, if they stay alike. -/
theorem onMemory (alike : session.Alike rename other) {memory twin : Memory}
    (renamed : memory.Renamed rename twin) :
    Alike rename (session.onMedium (.inMemory memory)) (other.onMedium (.inMemory twin)) :=
  alike.onStorage ⟨.intro renamed, alike.storage.quiet, alike.storage.faults, alike.storage.exchanges⟩

theorem rested (alike : session.Alike rename other) : session.rested.Alike rename other.rested :=
  alike.onStorage ⟨alike.storage.storage, alike.storage.quiet, alike.storage.faults, rfl⟩

/-- A store meets the world that its renamed self would meet. -/
theorem world (alike : session.Alike rename other) (store : Store) :
    World.Alike rename (Monitored.Alike rename (Medium.Renamed rename)) (store.world session.storage)
      ((store.renamed rename).world other.storage) :=
  ⟨alike.storage, rfl, rfl, rfl⟩

section Distinct

variable (distinct : Function.Injective rename)
include distinct

theorem answersAlike :
    AnswersAlike rename (Monitored.Alike rename (Medium.Renamed rename)) :=
  Monitored.answersAlike (Medium.answersAlike distinct)

theorem closeHandle (alike : session.Alike rename other) (handle : Handle) :
    Alike rename (session.closeHandle handle) (other.closeHandle (rename handle)) :=
  alike.onStorage ((answersAlike distinct).closes handle alike.storage)

/-- Vanishing stores give up handles that correspond. -/
theorem crash (alike : session.Alike rename other) (store : Store) :
    Monitored.Alike rename (Medium.Renamed rename) (store.crash session.storage)
      ((store.renamed rename).crash other.storage) := by
  obtain ⟨target, cached, state, held, locked, associated⟩ := store
  cases held with
  | none => exact alike.storage
  | some handle => exact (answersAlike distinct).closes handle alike.storage

theorem removeStore (alike : session.Alike rename other) (name : String) :
    Alike rename (session.removeStore name) (other.removeStore name) := by
  unfold Session.removeStore
  rw [alike.stores]
  cases session.stores.get? name with
  | none => exact alike
  | some store =>
    refine ⟨alike.crash distinct store, fun one => ?_, alike.handles⟩
    change (other.stores.erase name).get? one = ((session.stores.erase name).get? one).map _
    rw [Table.get?_erase, Table.get?_erase, alike.stores]
    split <;> rfl

theorem removeHandle (alike : session.Alike rename other) (name : String) :
    Alike rename (session.removeHandle name) (other.removeHandle name) := by
  unfold Session.removeHandle
  rw [alike.handles]
  cases session.handles.get? name with
  | none => exact alike
  | some bare =>
    refine ⟨(alike.closeHandle distinct bare.handle).storage, alike.stores, fun one => ?_⟩
    change (other.handles.erase name).get? one = ((session.handles.erase name).get? one).map _
    rw [Table.get?_erase, Table.get?_erase, alike.handles]
    split <;> rfl

/-- A script that goes by renamed tokens is run in step. -/
theorem storeRun (alike : session.Alike rename other) {α : Type} {script : Script α}
    (scripts : Script.Alike rename id script script) (store : Store) (budget : Nat) :
    Option.Rel
      (fun one two : Store.Ran (Monitored Medium) α => two.result = one.result ∧
        two.store = one.store.renamed rename ∧ two.events = one.events ∧
        Monitored.Alike rename (Medium.Renamed rename) one.storage two.storage)
      (store.run budget script session.storage)
      ((store.renamed rename).run budget script other.storage) := by
  have ran := scripts.run (answersAlike distinct) (alike.world store) budget
  unfold Store.run
  generalize script.run budget (store.world session.storage) = one at ran
  generalize script.run budget ((store.renamed rename).world other.storage) = two at ran
  cases ran with
  | none => exact .none
  | some related =>
    obtain ⟨same, storage, cached, lifecycle, events⟩ := related
    refine .some ⟨same, ?_, events, storage⟩
    simp only [Store.after, Store.renamed, cached, lifecycle]

/-- A script that tells no tokens apart may be run for a store in both. -/
theorem runFor (alike : session.Alike rename other) {α : Type}
    {script : Target → Script (Except StoreError α)}
    (scripts : ∀ target, Script.Alike rename id (script target) (script target)) (name : String)
    (reply : α → Reply) :
    Raw.Alike rename (session.runFor name script reply) (other.runFor name script reply) := by
  unfold Session.runFor
  rw [alike.stores, alike.budget]
  cases session.stores.get? name with
  | none => exact ⟨alike, rfl, rfl, rfl, rfl, rfl⟩
  | some store =>
    have ran : Option.Rel _ (store.run (session.budget 0) (script store.target) session.storage)
        ((store.renamed rename).run (session.budget 0) (script (store.renamed rename).target)
          other.storage) :=
      alike.storeRun distinct (scripts store.target) store (session.budget 0)
    simp only [Option.map_some]
    generalize store.run (session.budget 0) (script store.target) session.storage = one at ran ⊢
    generalize (store.renamed rename).run (session.budget 0) (script (store.renamed rename).target)
      other.storage = two at ran ⊢
    cases ran with
    | none => exact ⟨alike, rfl, rfl, rfl, rfl, rfl⟩
    | some related =>
      obtain ⟨same, after, events, storage⟩ := related
      refine ⟨?_, congrArg (outcomeOf reply) same, rfl, events, rfl, rfl⟩
      simp only [after]
      exact (alike.setStore name _).onStorage storage

/-- One run after the other of an operation. -/
theorem runTimes (alike : session.Alike rename other) (name : String) (operation : Operation)
    (count : Nat) :
    (session.runTimes name operation count).1.Alike rename (other.runTimes name operation count).1 ∧
      (other.runTimes name operation count).2 = (session.runTimes name operation count).2 := by
  induction count with
  | zero => exact ⟨alike, rfl⟩
  | succ count inductionHypothesis =>
    obtain ⟨alike, same⟩ := inductionHypothesis
    unfold Session.runTimes
    generalize session.runTimes name operation count = reached at alike same ⊢
    generalize other.runTimes name operation count = twin at alike same ⊢
    obtain ⟨session, outcomes, events⟩ := reached
    obtain ⟨other, rest⟩ := twin
    obtain rfl : rest = (outcomes, events) := same
    change session.Alike rename other at alike
    simp only [alike.stores, alike.budget]
    cases session.stores.get? name with
    | none => exact ⟨alike, rfl⟩
    | some store =>
      have ran : Option.Rel _
          (store.run (session.budget 0) (operation.script store.target) session.storage)
          ((store.renamed rename).run (session.budget 0)
            (operation.script (store.renamed rename).target) other.storage) :=
        alike.storeRun distinct (operation.alike store.target) store (session.budget 0)
      simp only [Option.map_some]
      generalize store.run (session.budget 0) (operation.script store.target) session.storage = one
        at ran ⊢
      generalize (store.renamed rename).run (session.budget 0)
        (operation.script (store.renamed rename).target) other.storage = two at ran ⊢
      cases ran with
      | none => exact ⟨alike, rfl⟩
      | some related =>
        obtain ⟨result, after, told, storage⟩ := related
        simp only [after, result, told]
        exact ⟨(alike.setStore name _).onStorage storage, trivial⟩

theorem runBare (alike : session.Alike rename other) {α : Type} {script twin : Script α}
    (scripts : Script.Alike rename id script twin) (bytes : Nat) :
    Option.Rel (fun one two => two.1 = one.1 ∧ one.2.Alike rename two.2)
      (session.runBare bytes script) (other.runBare bytes twin) := by
  have ran := scripts.run (answersAlike distinct)
    (⟨alike.storage, rfl, rfl, rfl⟩ : World.Alike rename _ { storage := session.storage }
      { storage := other.storage }) (session.budget bytes)
  unfold Session.runBare
  rw [alike.budget]
  simp only
  generalize script.run (session.budget bytes) { storage := session.storage } = one at ran ⊢
  generalize twin.run (session.budget bytes) { storage := other.storage } = two at ran ⊢
  cases ran with
  | none => exact .none
  | some related => exact .some ⟨related.1, alike.onStorage related.2.storage⟩

theorem runScript (alike : session.Alike rename other) {α : Type}
    {script : Script (Except StoreError α)} (scripts : Script.Alike rename id script script)
    (reply : α → Reply) :
    Raw.Alike rename (session.runScript script reply) (other.runScript script reply) := by
  have ran := alike.runBare distinct scripts 0
  unfold Session.runScript
  generalize session.runBare 0 script = one at ran ⊢
  generalize other.runBare 0 script = two at ran ⊢
  cases ran with
  | none => exact ⟨alike, rfl, rfl, rfl, rfl, rfl⟩
  | some related => exact ⟨related.2, congrArg (outcomeOf reply) related.1, rfl, rfl, rfl, rfl⟩

/-- Calls are answered alike, with renamed handles in the answers. -/
theorem ask (alike : session.Alike rename other) (request : Request) :
    (other.ask (request.renamed rename)).1 = request.answerRenamed rename (session.ask request).1 ∧
      (session.ask request).2.Alike rename (other.ask (request.renamed rename)).2 := by
  obtain ⟨same, kept⟩ := (answersAlike distinct).answers request alike.storage
  exact ⟨same, alike.onStorage kept⟩

/-- What is replied to a call on the grounds of its answer. -/
theorem reply (alike : session.Alike rename other) (request : Request)
    (reply : request.Value → Reply) (twin : (request.renamed rename).Value → Reply)
    (blind : ∀ value, twin (request.valueRenamed rename value) = reply value) :
    outcomeOfCall twin (other.ask (request.renamed rename)).1 =
        outcomeOfCall reply (session.ask request).1 ∧
      (session.ask request).2.Alike rename (other.ask (request.renamed rename)).2 := by
  obtain ⟨same, kept⟩ := alike.ask distinct request
  refine ⟨?_, kept⟩
  rw [same]
  cases (session.ask request).1 with
  | ok value => exact congrArg Except.ok (blind value)
  | error cause => rfl

theorem callPath (alike : session.Alike rename other) (path : Path) (call : PathCall) :
    Raw.Alike rename (session.callPath path call) (other.callPath path call) := by
  cases call with
  | present =>
    obtain ⟨same, kept⟩ := alike.reply distinct (.present path) .flag .flag fun _ => rfl
    exact ⟨kept, same, rfl, rfl, rfl, rfl⟩
  | createNew =>
    obtain ⟨same, kept⟩ := alike.reply distinct (.createNew path) (fun _ => .nothing)
      (fun _ => .nothing) fun _ => rfl
    exact ⟨kept, same, rfl, rfl, rfl, rfl⟩
  | remove =>
    obtain ⟨same, kept⟩ := alike.reply distinct (.remove path) (fun _ => .nothing)
      (fun _ => .nothing) fun _ => rfl
    exact ⟨kept, same, rfl, rfl, rfl, rfl⟩

/-- Calls on handles go alike if the handles correspond. -/
theorem callOn (alike : session.Alike rename other) (handle : Handle) (call : HandleCall) :
    (other.callOn (rename handle) call).1 = (session.callOn handle call).1 ∧
      (session.callOn handle call).2.Alike rename (other.callOn (rename handle) call).2 := by
  cases call with
  | read offset count =>
    exact alike.reply distinct (.readAt handle offset count) .transferred .transferred fun _ => rfl
  | write offset bytes =>
    exact alike.reply distinct (.writeAt handle offset bytes) .number .number fun _ => rfl
  | size => exact alike.reply distinct (.size handle) .number .number fun _ => rfl
  | sync =>
    exact alike.reply distinct (.sync handle) (fun _ => .nothing) (fun _ => .nothing) fun _ => rfl
  | lock => exact alike.reply distinct (.tryLock handle) .flag .flag fun _ => rfl
  | unlock =>
    exact alike.reply distinct (.unlock handle) (fun _ => .nothing) (fun _ => .nothing) fun _ => rfl

/-- Buffers are filled alike. -/
theorem fill (alike : session.Alike rename other) (handle : Handle) (offset count : Nat) :
    Raw.Alike rename (session.fill handle offset count) (other.fill (rename handle) offset count) := by
  have ran := alike.runBare distinct (alike_readFull handle offset count) count
  unfold Session.fill
  generalize session.runBare count (CrashMarker.readFull handle offset count) = one at ran ⊢
  generalize other.runBare count (CrashMarker.readFull (rename handle) offset count) = two at ran ⊢
  cases ran with
  | none => exact ⟨alike, rfl, rfl, rfl, rfl, rfl⟩
  | some related =>
    obtain ⟨same, kept⟩ := related
    refine ⟨kept, ?_, ?_, rfl, rfl, rfl⟩
    · simp only [same]
    · simp only [kept.history, bufferAfter_renamed]

theorem writeFull (alike : session.Alike rename other) (handle : Handle) (offset : Nat)
    (bytes : List UInt8) :
    Raw.Alike rename
      (match session.runBare bytes.length (CrashMarker.writeFull handle offset bytes) with
      | none => { session, outcome := .error .unfinished }
      | some (outcome, session) => { session, outcome := outcomeOf (fun _ => .nothing) outcome })
      (match other.runBare bytes.length (CrashMarker.writeFull (rename handle) offset bytes) with
      | none => { session := other, outcome := .error .unfinished }
      | some (outcome, session) => { session, outcome := outcomeOf (fun _ => .nothing) outcome }) := by
  have ran := alike.runBare distinct (alike_writeFull handle offset bytes) bytes.length
  generalize session.runBare bytes.length (CrashMarker.writeFull handle offset bytes) = one at ran ⊢
  generalize other.runBare bytes.length (CrashMarker.writeFull (rename handle) offset bytes) = two
    at ran ⊢
  cases ran with
  | none => exact ⟨alike, rfl, rfl, rfl, rfl, rfl⟩
  | some related =>
    exact ⟨related.2, congrArg (outcomeOf fun _ => .nothing) related.1, rfl, rfl, rfl, rfl⟩

/-- A handle that is opened in both gets tokens that correspond. -/
theorem openHandle (alike : session.Alike rename other) (name : String) (path : Path) :
    Raw.Alike rename (session.take (.openHandle name path)) (other.take (.openHandle name path)) := by
  obtain ⟨same, kept⟩ := (alike.removeHandle distinct name).ask distinct (.openFile path)
  change ((other.removeHandle name).ask (.openFile path)).1 =
    ((session.removeHandle name).ask (.openFile path)).1.map rename at same
  change (((session.removeHandle name).ask (.openFile path)).2).Alike rename
    ((other.removeHandle name).ask (.openFile path)).2 at kept
  simp only [take]
  generalize (session.removeHandle name).ask (.openFile path) = one at same kept ⊢
  generalize (other.removeHandle name).ask (.openFile path) = two at same kept ⊢
  obtain ⟨answer, session⟩ := one
  obtain ⟨twin, other⟩ := two
  obtain rfl : twin = answer.map rename := same
  cases answer with
  | ok handle => exact ⟨kept.setHandle name ⟨handle, path⟩, rfl, rfl, rfl, rfl, rfl⟩
  | error cause => exact ⟨kept, rfl, rfl, rfl, rfl, rfl⟩

end Distinct

/-- Steps on a named handle are alike if they are alike on every handle. -/
theorem withHandle (alike : session.Alike rename other) (name : String) {body twin : BareHandle → Raw}
    (bodies : ∀ bare, Raw.Alike rename (body bare) (twin (bare.renamed rename))) :
    Raw.Alike rename (session.withHandle name body) (other.withHandle name twin) := by
  unfold Session.withHandle
  rw [alike.handles]
  cases session.handles.get? name with
  | none => exact ⟨alike, rfl, rfl, rfl, rfl, rfl⟩
  | some bare =>
    obtain ⟨kept, outcome, buffer, events, subject, -⟩ := bodies bare
    exact ⟨kept, outcome, buffer, events, subject, rfl⟩

theorem withStore (alike : session.Alike rename other) (name : String) {reply : Store → Reply}
    (blind : ∀ store, reply (store.renamed rename) = reply store) :
    Raw.Alike rename (session.withStore name reply) (other.withStore name reply) := by
  unfold Session.withStore
  rw [alike.stores]
  cases session.stores.get? name with
  | none => exact ⟨alike, rfl, rfl, rfl, rfl, rfl⟩
  | some store => exact ⟨alike, congrArg Except.ok (blind store), rfl, rfl, rfl, rfl⟩

theorem withMemory (alike : session.Alike rename other) {body : Memory → Reply × Memory}
    (bodies : ∀ {memory twin}, memory.Renamed rename twin →
      (body twin).1 = (body memory).1 ∧ (body memory).2.Renamed rename (body twin).2) :
    Raw.Alike rename (session.withMemory body) (other.withMemory body) := by
  obtain ⟨memory, twin, one, two, renamed⟩ := alike.memories
  obtain ⟨same, kept⟩ := bodies renamed
  unfold Session.withMemory
  rw [one, two]
  exact ⟨alike.onMemory kept, congrArg Except.ok same, rfl, rfl, rfl, rfl⟩

theorem withTree (alike : session.Alike rename other) (body : FileTree → FileTree) :
    Raw.Alike rename (session.withTree body) (other.withTree body) := by
  obtain ⟨memory, twin, one, two, -⟩ := alike.memories
  unfold Session.withTree
  rw [one, two]
  exact ⟨alike, rfl, rfl, rfl, rfl, rfl⟩

end Alike

end Session

/-- Whether a step puts no fault in store, and asks for no interruption and for no opening to be denied. -/
def Step.Calm : Step → Prop
  | .fault _ faults => faults = []
  | .misbehave .interrupts amount => amount = 0
  | .misbehave .failingOpens amount => amount = 0
  | _ => True

namespace Session

variable {session other : Session}

/-- Two sessions that differ in tokens only take a step alike. -/
theorem Alike.take (alike : session.Alike rename other) (distinct : Function.Injective rename)
    {step : Step} (calm : step.Calm) : Raw.Alike rename (session.take step) (other.take step) := by
  cases step with
  | make name target =>
    exact ⟨(alike.removeStore distinct name).setStore name { target }, rfl, rfl, rfl, rfl, rfl⟩
  | crash name =>
    refine ⟨alike.removeStore distinct name, ?_, rfl, rfl, rfl, rfl⟩
    exact congrArg (fun found => Except.ok (Reply.flag found)) (alike.contains name)
  | operate name operation => exact alike.runFor distinct operation.alike name fun _ => .nothing
  | concurrently name threads operation =>
    obtain ⟨kept, same⟩ := alike.runTimes distinct name operation threads
    simp only [Session.take, alike.contains name]
    split
    · refine ⟨kept, ?_, rfl, congrArg Prod.snd same, rfl, rfl⟩
      simp only [same]
    · exact ⟨alike, rfl, rfl, rfl, rfl, rfl⟩
  | present name => exact alike.runFor distinct Target.alike_present name .flag
  | flags name => exact alike.withStore name fun _ => rfl
  | path name => exact alike.withStore name fun _ => rfl
  | config name => exact alike.withStore name fun _ => rfl
  | describe name => exact alike.withStore name fun _ => rfl
  | inspect path => exact alike.runScript distinct (alike_inspect path) .snapshot
  | readRecord path => exact alike.runScript distinct (alike_readRecord path) .record
  | callPath path call => exact alike.callPath distinct path call
  | contents path =>
    have same := congrArg FileView.contents (alike.view path)
    exact ⟨alike, congrArg (fun found => Except.ok (Reply.contents found)) same, rfl, rfl, rfl, rfl⟩
  | fault call faults =>
    obtain rfl : faults = [] := calm
    cases call with
    | none => exact ⟨alike, rfl, rfl, rfl, rfl, rfl⟩
    | some call =>
      obtain ⟨⟨storage, quiet, faults, exchanges⟩, stores, handles⟩ := alike
      refine ⟨⟨⟨storage, quiet.clear call, ?_, exchanges⟩, stores, handles⟩, rfl, rfl, rfl, rfl, rfl⟩
      exact congrArg (·.set call []) faults
  | openHandle name path => exact alike.openHandle distinct name path
  | dropHandle name =>
    refine ⟨alike.removeHandle distinct name, ?_, rfl, rfl, rfl, rfl⟩
    have same : other.handles.contains name = session.handles.contains name := by
      unfold Table.contains
      rw [alike.handles]
      exact Option.isSome_map
    exact congrArg (fun found => Except.ok (Reply.flag found)) same
  | callHandle name call =>
    refine alike.withHandle name fun bare => ?_
    obtain ⟨same, kept⟩ := alike.callOn distinct bare.handle call
    exact ⟨kept, same, rfl, rfl, rfl, rfl⟩
  | handlePath name =>
    refine alike.withHandle name fun bare => ?_
    obtain ⟨memory, twin, one, two, -⟩ := alike.memories
    rw [one, two]
    exact ⟨alike, rfl, rfl, rfl, rfl, rfl⟩
  | readFull name offset count =>
    exact alike.withHandle name fun bare => alike.fill distinct bare.handle offset count
  | writeFull name offset bytes =>
    exact alike.withHandle name fun bare => alike.writeFull distinct bare.handle offset bytes
  | put path bytes =>
    refine ⟨?_, rfl, rfl, rfl, rfl, rfl⟩
    obtain ⟨memory, twin, one, two, renamed⟩ := alike.memories
    change Alike rename (session.onMedium (session.storage.storage.put path bytes))
      (other.onMedium (other.storage.storage.put path bytes))
    rw [one, two]
    exact alike.onMemory (renamed.put path bytes)
  | misbehave misbehaviour amount =>
    simp only [Session.take]
    refine alike.withMemory ?_
    exact fun renamed => ⟨rfl, renamed.misbehave amount misbehaviour⟩
  | isLocked path =>
    simp only [Session.take]
    refine alike.withMemory ?_
    exact fun renamed => ⟨congrArg Reply.flag (renamed.isLocked path), renamed⟩
  | writeCalls =>
    simp only [Session.take]
    refine alike.withMemory ?_
    exact fun renamed =>
      ⟨congrArg Reply.number (renamed.counter Memory.writeCalls fun _ _ _ _ => rfl), renamed⟩
  | makeDirectories path => exact alike.withTree _
  | makeLink target path => exact alike.withTree _
  | unknown store handle => exact ⟨alike, rfl, rfl, rfl, rfl, rfl⟩

/-! ## What is told about a step -/

/-- The stores that two alike steps are about correspond. -/
theorem Raw.Alike.store {raw twin : Raw} (alike : Raw.Alike rename raw twin) :
    twin.subject.bind twin.session.stores.get? =
      (raw.subject.bind raw.session.stores.get?).map (·.renamed rename) := by
  rw [alike.subject]
  cases raw.subject with
  | none => rfl
  | some name => exact alike.session.stores name

theorem Raw.Alike.shownPath {raw twin : Raw} (alike : Raw.Alike rename raw twin) :
    Session.shownPath twin = Session.shownPath raw := by
  unfold Session.shownPath
  rw [alike.store, alike.holder]
  cases raw.subject.bind raw.session.stores.get? with
  | some store => rfl
  | none =>
    cases raw.holder with
    | none => rfl
    | some name =>
      change (twin.session.handles.get? name).map _ = (raw.session.handles.get? name).map _
      rw [alike.session.handles]
      cases raw.session.handles.get? name <;> rfl

/-- Two sessions that differ in tokens only tell the same about a step, up to tokens. -/
theorem Alike.perform (alike : session.rested.Alike rename other.rested)
    (distinct : Function.Injective rename) {step : Step} (calm : step.Calm) :
    (other.perform step).1 = (session.perform step).1.renamed rename ∧
      (session.perform step).2.rested.Alike rename (other.perform step).2.rested := by
  have taken := alike.take distinct calm
  have views : (other.rested.take step).session.view = (session.rested.take step).session.view :=
    funext taken.session.view
  refine ⟨?_, taken.session.rested⟩
  change Report.mk _ _ _ _ _ _ = Report.mk _ _ _ _ _ _
  congr 1
  · exact taken.outcome
  · exact taken.buffer
  · exact taken.store
  · change (Session.shownPath (other.rested.take step)).map (other.rested.take step).session.view = _
    rw [taken.shownPath, views]
    rfl
  · exact taken.session.history
  · exact taken.events

end Session

end CrashMarker
