/-
Module: CrashMarker.Store.Error
Purpose: What can go wrong in an operation on a store.
Main exports: StoreError, StoreError.message, StoreError.diagnostic, StoreError.sources
-/
import CrashMarker.Storage.Error

namespace CrashMarker

open Text

inductive StoreError where
  /-- The place where the marker lives failed. -/
  | storage (cause : StorageError)
  /-- A transfer failed for a reason of its own. -/
  | io (cause : IoError)
  /-- The marker file could not be prepared. -/
  | setup (explanation : String)
  /-- Someone else holds the lock on the marker. -/
  | locked (path : Path)
  /-- The file ended before a whole record was read. -/
  | truncated (expected read : Nat)
  /-- A flag was to be changed on a store that holds no marker. -/
  | closed
  /-- The store is in no state for the operation. -/
  | invalidOperation (explanation : String)
deriving Repr, DecidableEq, Inhabited

namespace StoreError

/-- The file in the way of a new marker could not be removed. -/
def cannotDelete (path : Path) (cause : StorageError) : StoreError :=
  .setup s!"cannot delete file {path.text}: {cause.message}"

/-- The file for a new marker could not be made. -/
def cannotCreate (path : Path) (cause : StorageError) : StoreError :=
  .setup s!"cannot create file {path.text}: {cause.message}"

/-- The named operation needs a store that is not open. -/
def alreadyOpen (operation : String) : StoreError :=
  .invalidOperation s!"cannot {operation}: dirty flag store is already open"

/-- A write stopped being accepted after some of its bytes. -/
def stalled (written total : Nat) : StoreError :=
  .io (.explained .writeZero s!"marker write stalled after {written} of {total} bytes")

/-- Whether the error means that the marker is in use elsewhere. -/
def isLocked : StoreError → Bool
  | .locked _ => true
  | _ => false

def message : StoreError → String
  | .storage cause => s!"storage error: {cause.message}"
  | .io cause => s!"I/O error: {cause.message}"
  | .setup explanation => s!"marker setup failed: {explanation}"
  | .locked path => s!"storage is already open by another process: {path.text}"
  | .truncated expected read =>
    s!"unexpected end of marker file: expected {expected} bytes, read {read}"
  | .closed => "dirty flag store is not open"
  | .invalidOperation explanation => s!"invalid operation: {explanation}"

/-- The error as it is built. -/
def diagnostic : StoreError → String
  | .storage cause => s!"Storage({cause.diagnostic})"
  | .io cause => s!"Io({cause.diagnostic})"
  | .setup explanation => s!"Setup \x7b message: {quoted explanation} \x7d"
  | .locked path => s!"StorageLocked \x7b path: {quoted path.text} \x7d"
  | .truncated expected read => s!"UnexpectedEof \x7b expected: {expected}, read: {read} \x7d"
  | .closed => "StoreClosed"
  | .invalidOperation explanation => s!"InvalidOperation \x7b message: {quoted explanation} \x7d"

/-- The sentences of the errors behind this one, the nearest first. -/
def sources : StoreError → List String
  | .storage cause => cause.message :: cause.sources
  | .io cause => [cause.message]
  | _ => []

end StoreError

end CrashMarker
