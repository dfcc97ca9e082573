/-
Module: CrashMarker.Store.Inspection
Purpose: Looking at a marker without locking, creating or changing it.
Main exports: Snapshot, inspect, readRecord
-/
import CrashMarker.Store.Operation

namespace CrashMarker

/-- What a marker file holds. -/
structure Snapshot where
  layout : Layout
  /-- The size of the file; zero if there is none. -/
  size : Nat
  /-- The flags, unless the file is missing or empty. -/
  record : Option Record
deriving Repr, DecidableEq, Inhabited

/-- What is seen where no marker is. -/
def Snapshot.missing : Snapshot := ⟨.missing, 0, none⟩

def inspectHandle (handle : Handle) : Script (Except StoreError Snapshot) := do
  match ← Script.ask (.size handle) with
  | .error cause => return .error (.storage cause)
  | .ok size =>
    match ← Target.load handle with
    | .error error => return .error error
    | .ok (layout, record) => return .ok ⟨layout, size, record⟩

/-- Look at the marker at a path.  A file that vanishes before it is opened counts as missing. -/
def inspect (path : Path) : Script (Except StoreError Snapshot) := do
  match ← Script.ask (.present path) with
  | .error cause => return .error (.storage cause)
  | .ok false => return .ok .missing
  | .ok true =>
    match ← Script.ask (.openFile path) with
    | .error (.notFound _) => return .ok .missing
    | .error cause => return .error (.storage cause)
    | .ok handle =>
      let outcome ← inspectHandle handle
      Script.close handle
      return outcome

/-- Read only the flags of the marker at a path. -/
def readRecord (path : Path) : Script (Except StoreError (Option Record)) := do
  match ← inspect path with
  | .error error => return .error error
  | .ok snapshot => return .ok snapshot.record

end CrashMarker
