/-
Module: CrashMarker.Session.Step
Purpose: The steps of a session and what they yield.
Main exports: HandleCall, PathCall, Step, Reply, StepError
-/
import CrashMarker.Store
import CrashMarker.Storage.Memory
import CrashMarker.Storage.Monitored

namespace CrashMarker

inductive HandleCall where
  | read (offset count : Nat)
  | write (offset : Nat) (bytes : List UInt8)
  | size
  | sync
  | lock
  | unlock
deriving Repr, DecidableEq, Inhabited

inductive PathCall where
  | present
  | createNew
  | remove
deriving Repr, DecidableEq, Inhabited

inductive Step where
  /-- Make a store under a name, in the place of one that has it. -/
  | make (store : String) (target : Target)
  /-- Let a store vanish without closing it. -/
  | crash (store : String)
  | operate (store : String) (operation : Operation)
  /-- Start the same operation a number of times at once. -/
  | concurrently (store : String) (threads : Nat) (operation : Operation)
  | present (store : String)
  | flags (store : String)
  | path (store : String)
  | config (store : String)
  | describe (store : String)
  | inspect (path : Path)
  | readRecord (path : Path)
  | callPath (path : Path) (call : PathCall)
  /-- Look at a file without a call. -/
  | contents (path : Path)
  /-- Put faults in store for a call, in the place of those that are left. -/
  | fault (call : Option CallName) (faults : List Fault)
  | openHandle (handle : String) (path : Path)
  | dropHandle (handle : String)
  | callHandle (handle : String) (call : HandleCall)
  | handlePath (handle : String)
  | readFull (handle : String) (offset count : Nat)
  | writeFull (handle : String) (offset : Nat) (bytes : List UInt8)
  | put (path : Path) (bytes : List UInt8)
  | misbehave (misbehaviour : Misbehaviour) (amount : Nat)
  | isLocked (path : Path)
  | writeCalls
  | makeDirectories (path : Path)
  | makeLink (target path : Path)
  /-- A step of no known kind, which may name a store or a handle. -/
  | unknown (store handle : String)
deriving Repr, DecidableEq, Inhabited

/-- What a step yields when it goes well. -/
inductive Reply where
  | nothing
  | flag (value : Bool)
  | number (value : Nat)
  | text (value : String)
  | record (value : Option Record)
  | config (value : Config)
  | snapshot (value : Snapshot)
  | contents (value : Option (List UInt8))
  | transferred (bytes : List UInt8)
  | outcomes (value : List (Except StoreError Unit))

inductive StepError where
  | store (error : StoreError)
  | storage (error : StorageError)
  /-- There is no store of that name. -/
  | noStore
  /-- There is no handle of that name. -/
  | noHandle
  /-- The step makes no sense, at least not on this storage. -/
  | badStep
  /-- The operation was given up because it does not end. -/
  | unfinished
deriving Repr, DecidableEq, Inhabited

end CrashMarker
