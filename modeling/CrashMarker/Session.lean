/-
Module: CrashMarker.Session
Purpose: Several stores and bare handles at work on one storage, one step at a time.
Main exports: BareHandle, Session, FileView, Report, Session.begin, Session.perform
-/
import CrashMarker.Session.Step
import CrashMarker.Storage.Medium

namespace CrashMarker

/-!
A session names its stores and its bare handles.  A step acts on one of them or on the storage that
they all share, and is answered by a report: the result, the calls made and the events reported
meanwhile, and how the store and its file look afterwards.
-/

/-- An open file that belongs to no store. -/
structure BareHandle where
  handle : Handle
  /-- The path with which the file was opened. -/
  path : Path
deriving Repr, DecidableEq, Inhabited

/-- Named stores and bare handles on one storage. -/
structure Session where
  storage : Monitored Medium
  stores : Table String Store := {}
  handles : Table String BareHandle := {}

/-- How a file looks: its contents, and in memory also whether it is locked and how many writes the
storage has seen. -/
structure FileView where
  contents : Option (List UInt8)
  locked : Option Bool := none
  writes : Option Nat := none
deriving Repr, DecidableEq, Inhabited

/-- What is told about a step. -/
structure Report where
  outcome : Except StepError Reply
  /-- The whole buffer of a read that had to fill it. -/
  buffer : Option (List UInt8) := none
  /-- The store that the step names, as it is afterwards. -/
  store : Option Store := none
  /-- The file of that store, or the file that a handle was opened for. -/
  file : Option FileView := none
  exchanges : List Exchange := []
  events : List Event := []

namespace Session

def begin (medium : Medium) : Session := { storage := { storage := medium } }

/-- The number of actions after which an operation that moves so many bytes cannot end any more:
every action either makes progress or uses up a fault. -/
def budget (session : Session) (bytes : Nat) : Nat :=
  64 + 4 * (bytes + session.storage.storage.patience + session.storage.pending)

def view (session : Session) (path : Path) : FileView :=
  match session.storage.storage with
  | .inMemory memory => ⟨memory.contents path, some (memory.isLocked path), some memory.writeCalls⟩
  | .onDisk tree => ⟨tree.read? path, none, none⟩

/-- The outcome of a step and the session after it, before the views are added. -/
structure Raw where
  session : Session
  outcome : Except StepError Reply
  buffer : Option (List UInt8) := none
  events : List Event := []
  /-- The store whose view is shown. -/
  subject : Option String := none
  /-- The handle whose file is shown. -/
  holder : Option String := none

def onMedium (session : Session) (medium : Medium) : Session :=
  { session with storage := { session.storage with storage := medium } }

def closeHandle (session : Session) (handle : Handle) : Session :=
  { session with storage := Storage.close handle session.storage }

def removeStore (session : Session) (name : String) : Session :=
  match session.stores.get? name with
  | some store =>
    { session with
      storage := store.crash session.storage
      stores := session.stores.erase name }
  | none => session

def removeHandle (session : Session) (name : String) : Session :=
  match session.handles.get? name with
  | some bare => { session.closeHandle bare.handle with handles := session.handles.erase name }
  | none => session

/-- The outcome of a store operation as the outcome of a step. -/
def outcomeOf {α : Type} (reply : α → Reply) : Except StoreError α → Except StepError Reply
  | .ok value => .ok (reply value)
  | .error error => .error (.store error)

def runFor {α : Type} (session : Session) (name : String)
    (script : Target → Script (Except StoreError α)) (reply : α → Reply) : Raw :=
  match session.stores.get? name with
  | none => { session, outcome := .error .noStore }
  | some store =>
    match store.run (session.budget 0) (script store.target) session.storage with
    | none => { session, outcome := .error .unfinished, subject := some name }
    | some ran =>
      { session :=
          { session with storage := ran.storage, stores := session.stores.set name ran.store }
        outcome := outcomeOf reply ran.result
        events := ran.events
        subject := some name }

/-- Run an operation a number of times for a named store.  The mutex of the store lets one run after
the other, so that their results are those of as many runs in a row.  A run that does not end has
no result. -/
def runTimes (session : Session) (name : String) (operation : Operation) :
    Nat → Session × List (Except StoreError Unit) × List Event
  | 0 => (session, [], [])
  | count + 1 =>
    let (session, outcomes, events) := runTimes session name operation count
    match session.stores.get? name with
    | none => (session, outcomes, events)
    | some store =>
      match store.run (session.budget 0) (operation.script store.target) session.storage with
      | none => (session, outcomes, events)
      | some ran =>
        ({ session with storage := ran.storage, stores := session.stores.set name ran.store },
          outcomes ++ [ran.result], events ++ ran.events)

/-- Run a script that concerns no store. -/
def runBare {α : Type} (session : Session) (bytes : Nat) (script : Script α) :
    Option (α × Session) :=
  let world : World (Monitored Medium) := { storage := session.storage }
  (script.run (session.budget bytes) world).map fun (result, world) =>
    (result, { session with storage := world.storage })

/-- Run a script that concerns no store and may fail. -/
def runScript {α : Type} (session : Session) (script : Script (Except StoreError α))
    (reply : α → Reply) : Raw :=
  match session.runBare 0 script with
  | none => { session, outcome := .error .unfinished }
  | some (outcome, session) => { session, outcome := outcomeOf reply outcome }

def ask (session : Session) (request : Request) : request.Answer × Session :=
  let (answer, storage) := Storage.answer request session.storage
  (answer, { session with storage })

/-- The answer to a call as the outcome of a step. -/
def outcomeOfCall {α : Type} (reply : α → Reply) : Except StorageError α → Except StepError Reply
  | .ok value => .ok (reply value)
  | .error error => .error (.storage error)

def callPath (session : Session) (path : Path) : PathCall → Raw
  | .present =>
    let (answer, session) := session.ask (.present path)
    { session, outcome := outcomeOfCall .flag answer }
  | .createNew =>
    let (answer, session) := session.ask (.createNew path)
    { session, outcome := outcomeOfCall (fun _ => .nothing) answer }
  | .remove =>
    let (answer, session) := session.ask (.remove path)
    { session, outcome := outcomeOfCall (fun _ => .nothing) answer }

def callOn (session : Session) (handle : Handle) : HandleCall → Except StepError Reply × Session
  | .read offset count =>
    let (answer, session) := session.ask (.readAt handle offset count)
    (outcomeOfCall .transferred answer, session)
  | .write offset bytes =>
    let (answer, session) := session.ask (.writeAt handle offset bytes)
    (outcomeOfCall .number answer, session)
  | .size =>
    let (answer, session) := session.ask (.size handle)
    (outcomeOfCall .number answer, session)
  | .sync =>
    let (answer, session) := session.ask (.sync handle)
    (outcomeOfCall (fun _ => .nothing) answer, session)
  | .lock =>
    let (answer, session) := session.ask (.tryLock handle)
    (outcomeOfCall .flag answer, session)
  | .unlock =>
    let (answer, session) := session.ask (.unlock handle)
    (outcomeOfCall (fun _ => .nothing) answer, session)

def withHandle (session : Session) (name : String) (body : BareHandle → Raw) : Raw :=
  match session.handles.get? name with
  | none => { session, outcome := .error .noHandle }
  | some bare => { body bare with holder := some name }

def withStore (session : Session) (name : String) (reply : Store → Reply) : Raw :=
  match session.stores.get? name with
  | none => { session, outcome := .error .noStore }
  | some store => { session, outcome := .ok (reply store), subject := some name }

/-- Work on a memory storage; other storages are not asked this. -/
def withMemory (session : Session) (body : Memory → Reply × Memory) : Raw :=
  match session.storage.storage with
  | .inMemory memory =>
    let (reply, memory) := body memory
    { session := session.onMedium (.inMemory memory), outcome := .ok reply }
  | .onDisk _ => { session, outcome := .error .badStep }

/-- Work on a tree of files; other storages are not asked this. -/
def withTree (session : Session) (body : FileTree → FileTree) : Raw :=
  match session.storage.storage with
  | .inMemory _ => { session, outcome := .error .badStep }
  | .onDisk tree => { session := session.onMedium (.onDisk (body tree)), outcome := .ok .nothing }

/-- A buffer of `count` zeros after the reads of a history, for which the buffer stands at
`offset`. -/
def bufferAfter (offset count : Nat) (history : List Exchange) : List UInt8 :=
  history.foldl (fun buffer exchange =>
    match exchange.request with
    | .readAt _ position _ => overlay buffer (position - offset) exchange.received
    | _ => buffer) (List.replicate count 0)

def fill (session : Session) (handle : Handle) (offset count : Nat) : Raw :=
  match session.runBare count (readFull handle offset count) with
  | none => { session, outcome := .error .unfinished }
  | some (filled, session) =>
    { session
      outcome := outcomeOf (fun _ => .nothing) filled.outcome
      buffer := some (bufferAfter offset count session.storage.history) }

def take (session : Session) : Step → Raw
  | .make name target =>
    let session := session.removeStore name
    { session := { session with stores := session.stores.set name { target } }
      outcome := .ok .nothing
      subject := some name }
  | .crash name =>
    { session := session.removeStore name
      outcome := .ok (.flag (session.stores.contains name)) }
  | .operate name operation =>
    session.runFor name (fun target => operation.script target) fun _ => .nothing
  | .concurrently name threads operation =>
    if session.stores.contains name then
      let (session, outcomes, events) := session.runTimes name operation threads
      let failed := outcomes.filter fun outcome => !outcome.isOk
      let succeeded := outcomes.filter fun outcome => outcome.isOk
      { session
        outcome := .ok (.outcomes (failed ++ succeeded))
        events
        subject := some name }
    else { session, outcome := .error .noStore }
  | .present name => session.runFor name Target.present .flag
  | .flags name => session.withStore name fun store => .record (some store.cached)
  | .path name => session.withStore name fun store => .text store.target.path.text
  | .config name => session.withStore name fun store => .config store.target.config
  | .describe name => session.withStore name fun store => .text store.describe
  | .inspect path => session.runScript (CrashMarker.inspect path) .snapshot
  | .readRecord path => session.runScript (CrashMarker.readRecord path) .record
  | .callPath path call => session.callPath path call
  | .contents path => { session, outcome := .ok (.contents (session.view path).contents) }
  | .fault none _ => { session, outcome := .ok .nothing }
  | .fault (some call) faults =>
    let storage := { session.storage with faults := session.storage.faults.set call faults }
    { session := { session with storage }, outcome := .ok .nothing }
  | .openHandle name path =>
    let session := session.removeHandle name
    let (answer, session) := session.ask (.openFile path)
    match answer with
    | .ok handle =>
      { session := { session with handles := session.handles.set name ⟨handle, path⟩ }
        outcome := .ok .nothing }
    | .error cause => { session, outcome := .error (.storage cause) }
  | .dropHandle name =>
    { session := session.removeHandle name
      outcome := .ok (.flag (session.handles.contains name)) }
  | .callHandle name call => session.withHandle name fun bare =>
    let (outcome, session) := session.callOn bare.handle call
    { session, outcome }
  | .handlePath name => session.withHandle name fun bare =>
    match session.storage.storage with
    | .inMemory _ => { session, outcome := .error .badStep }
    | .onDisk _ => { session, outcome := .ok (.text bare.path.text) }
  | .readFull name offset count => session.withHandle name fun bare =>
    session.fill bare.handle offset count
  | .writeFull name offset bytes => session.withHandle name fun bare =>
    match session.runBare bytes.length (CrashMarker.writeFull bare.handle offset bytes) with
    | none => { session, outcome := .error .unfinished }
    | some (outcome, session) => { session, outcome := outcomeOf (fun _ => .nothing) outcome }
  | .put path bytes =>
    { session := session.onMedium (session.storage.storage.put path bytes)
      outcome := .ok .nothing }
  | .misbehave misbehaviour amount => session.withMemory fun memory =>
    (.nothing, memory.misbehave amount misbehaviour)
  | .isLocked path => session.withMemory fun memory => (.flag (memory.isLocked path), memory)
  | .writeCalls => session.withMemory fun memory => (.number memory.writeCalls, memory)
  | .makeDirectories path => session.withTree (·.makeDirectories path)
  | .makeLink target path => session.withTree (·.makeLink target path)
  | .unknown store handle =>
    { session, outcome := .error .badStep, subject := some store, holder := some handle }

/-- The path whose file a report shows. -/
def shownPath (raw : Raw) : Option Path :=
  match raw.subject.bind raw.session.stores.get? with
  | some store => some store.target.path
  | none => (raw.holder.bind raw.session.handles.get?).map (·.path)

def perform (session : Session) (step : Step) : Report × Session :=
  let raw := { session with storage := { session.storage with exchanges := [] } }.take step
  ({ outcome := raw.outcome
     buffer := raw.buffer
     store := raw.subject.bind raw.session.stores.get?
     file := (shownPath raw).map raw.session.view
     exchanges := raw.session.storage.history
     events := raw.events },
    raw.session)

end Session

end CrashMarker
