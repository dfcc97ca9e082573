/-
Module: CrashMarker.Storage.Monitored
Purpose: A storage under observation, with calls that can be made to fail or to lie.
Main exports: CallName, Fault, Exchange, Exchange.describe, Monitored
-/
import CrashMarker.Storage.Request
import CrashMarker.Table

namespace CrashMarker

/-!
Every call is looked up by its name in a table of fault queues.  The next fault of the queue decides
what becomes of the call; an empty queue lets it through.  Every call is recorded together with the
answer the caller saw.
-/

/-- The name of a call, whatever its arguments. -/
inductive CallName where
  | present
  | createNew
  | remove
  | openFile
  | readAt
  | writeAt
  | size
  | sync
  | tryLock
  | unlock
deriving Repr, DecidableEq, Inhabited

namespace CallName

def word : CallName → String
  | .present => "exists"
  | .createNew => "create_new"
  | .remove => "remove"
  | .openFile => "open"
  | .readAt => "read_at"
  | .writeAt => "write_at"
  | .size => "size"
  | .sync => "sync"
  | .tryLock => "try_lock"
  | .unlock => "unlock"

def all : List CallName :=
  [.present, .createNew, .remove, .openFile, .readAt, .writeAt, .size, .sync, .tryLock, .unlock]

def ofWord? (word : String) : Option CallName := all.find? fun name => name.word == word

end CallName

def Request.name : Request → CallName
  | .present _ => .present
  | .createNew _ => .createNew
  | .remove _ => .remove
  | .openFile _ => .openFile
  | .readAt _ _ _ => .readAt
  | .writeAt _ _ _ => .writeAt
  | .size _ => .size
  | .sync _ => .sync
  | .tryLock _ => .tryLock
  | .unlock _ => .unlock

/-- An error to inject, before it is known which path it will mention. -/
inductive InjectedError where
  | notFound
  | alreadyExists
  | io (cause : IoError)
deriving Repr, DecidableEq, Inhabited

/-- The error as it arises at a path. -/
def InjectedError.at (error : InjectedError) (path : Path) : StorageError :=
  match error with
  | .notFound => .notFound path
  | .alreadyExists => .alreadyExists path
  | .io cause => .io cause

/-- A value to answer a call with.  Each call takes the part that fits it. -/
structure FeignedValue where
  flag : Bool := false
  number : Nat := 0
  bytes : List UInt8 := []
deriving Repr, DecidableEq, Inhabited

/-- What becomes of a call. -/
inductive Fault where
  /-- It goes through. -/
  | none
  /-- It fails; if `afterwards`, only after it has taken effect. -/
  | fail (error : InjectedError) (afterwards : Bool)
  /-- It is answered without being made.  A handle cannot be feigned, so opening goes through. -/
  | feign (value : FeignedValue)
deriving Repr, DecidableEq, Inhabited

/-- The answer that a feigned call gets, if it can be feigned. -/
def FeignedValue.answer? (value : FeignedValue) :
    (request : Request) → Option request.Answer
  | .present _ => some (.ok value.flag)
  | .createNew _ => some (.ok ())
  | .remove _ => some (.ok ())
  | .openFile _ => none
  | .readAt _ _ count => some (.ok (value.bytes.take count))
  | .writeAt _ _ bytes => some (.ok (min value.number bytes.length))
  | .size _ => some (.ok value.number)
  | .sync _ => some (.ok ())
  | .tryLock _ => some (.ok value.flag)
  | .unlock _ => some (.ok ())

/-- The bytes that the answer to a call puts into the buffer of the caller. -/
def Request.received : (request : Request) → request.Answer → List UInt8
  | .readAt _ _ _, .ok bytes => bytes
  | _, _ => []

/-- A call and what it got back. -/
structure Exchange where
  request : Request
  answer : request.Answer
  /-- The bytes that reached the buffer of the caller.  They are more than the answer tells if a
  read failed after it had taken effect. -/
  received : List UInt8

namespace Exchange

/-- The arguments of a call in a record. -/
def arguments : Request → String
  | .readAt _ offset count => s!"{offset},{count}"
  | .writeAt _ offset bytes => s!"{offset},[" ++ ",".intercalate (bytes.map toString) ++ "]"
  | _ => ""

/-- The result of a call in a record: a flag, a number of bytes, or whether it went well. -/
def result : (request : Request) → request.Answer → String
  | .present _, .ok found => toString found
  | .createNew _, .ok _ => "ok"
  | .remove _, .ok _ => "ok"
  | .openFile _, .ok _ => "ok"
  | .readAt _ _ _, .ok bytes => toString bytes.length
  | .writeAt _ _ _, .ok moved => toString moved
  | .size _, .ok size => toString size
  | .sync _, .ok _ => "ok"
  | .tryLock _, .ok taken => toString taken
  | .unlock _, .ok _ => "ok"
  | _, .error _ => "err"

/-- The exchange as a record shows it. -/
def describe (exchange : Exchange) : String :=
  exchange.request.name.word ++ "(" ++ arguments exchange.request ++ ")=" ++
    result exchange.request exchange.answer

end Exchange

/-- A storage under observation. -/
structure Monitored (σ : Type) where
  storage : σ
  /-- The faults in store for each call name. -/
  faults : Table CallName (List Fault) := {}
  /-- The calls made, the latest one first. -/
  exchanges : List Exchange := []

namespace Monitored

variable {σ : Type}

/-- The fault for a call, and the storage with that fault used up. -/
def nextFault (monitored : Monitored σ) (name : CallName) : Fault × Monitored σ :=
  match monitored.faults.get? name with
  | some (fault :: faults) =>
    (fault, { monitored with faults := monitored.faults.set name faults })
  | _ => (.none, monitored)

def history (monitored : Monitored σ) : List Exchange := monitored.exchanges.reverse

def forward [Storage σ] (monitored : Monitored σ) (request : Request) :
    request.Answer × Monitored σ :=
  let (answer, storage) := Storage.answer request monitored.storage
  (answer, { monitored with storage })

/-- Let a call take effect and keep its answer from the caller.  Nobody will ever use a handle that
was opened this way, so it is closed. -/
def forwardUnseen [Storage σ] (monitored : Monitored σ) (request : Request) :
    List UInt8 × Monitored σ :=
  match request, monitored.forward request with
  | .openFile _, (.ok handle, monitored) =>
    ([], { monitored with storage := Storage.close handle monitored.storage })
  | request, (answer, monitored) => (request.received answer, monitored)

/-- What becomes of a call under a fault: its answer, the bytes that reach the buffer of the caller,
and the storage afterwards. -/
def underFault [Storage σ] (monitored : Monitored σ) (request : Request) (fault : Fault) :
    request.Answer × List UInt8 × Monitored σ :=
  match fault with
  | .none =>
    let (answer, monitored) := monitored.forward request
    (answer, request.received answer, monitored)
  | .fail error false => (.error (error.at request.path), [], monitored)
  | .fail error true =>
    let (received, monitored) := monitored.forwardUnseen request
    (.error (error.at request.path), received, monitored)
  | .feign value =>
    match value.answer? request with
    | some answer => (answer, request.received answer, monitored)
    | none =>
      let (answer, monitored) := monitored.forward request
      (answer, request.received answer, monitored)

instance [Storage σ] : Storage (Monitored σ) where
  answer request monitored :=
    let (fault, monitored) := monitored.nextFault request.name
    let (answer, received, monitored) := monitored.underFault request fault
    (answer, { monitored with exchanges := ⟨request, answer, received⟩ :: monitored.exchanges })
  close handle monitored :=
    { monitored with storage := Storage.close handle monitored.storage }

def pending (monitored : Monitored σ) : Nat :=
  monitored.faults.entries.foldl (fun total entry => total + entry.2.length) 0

end Monitored

end CrashMarker
