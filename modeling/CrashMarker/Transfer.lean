/-
Module: CrashMarker.Transfer
Purpose: Moving a whole buffer through a handle that may move less at a time.
Main exports: Filled, readFull, writeFull
-/
import CrashMarker.Script
import CrashMarker.Store.Error

namespace CrashMarker

/-!
One transfer may move fewer bytes than it was asked to, and an interrupted one moves none.  Both
operations here go on from where the last transfer stopped, try an interrupted transfer again, and
give any other error back unchanged.  A transfer that moves nothing ends them: for a read the file
has ended too early, for a write the handle accepts no more.
-/

/-- How far a read came: the bytes that reached the buffer, and whether it was filled. -/
structure Filled where
  bytes : List UInt8
  outcome : Except StoreError Unit

/-- What the answer to one read means after the bytes read so far. -/
def readTurn (count : Nat) (sofar : List UInt8) :
    Except StorageError (List UInt8) → Turn (List UInt8) Filled
  | .ok [] => .stop ⟨sofar, .error (.truncated count sofar.length)⟩
  | .ok (byte :: bytes) =>
    let filled := sofar ++ byte :: bytes
    if filled.length < count then .again filled else .stop ⟨filled, .ok ()⟩
  | .error cause =>
    if cause.isInterrupted then .again sofar else .stop ⟨sofar, .error (.storage cause)⟩

/-- Read exactly `count` bytes from `offset` on.  Reading no bytes makes no call. -/
def readFull (handle : Handle) (offset count : Nat) : Script Filled :=
  if count = 0 then .done ⟨[], .ok ()⟩
  else
    .cycle []
      (fun sofar => .ask (.readAt handle (offset + sofar.length) (count - sofar.length)))
      (fun sofar answer => .done (readTurn count sofar answer))
      .done

/-- What the answer to one write means after a number of bytes have been accepted. -/
def writeTurn (total written : Nat) :
    Except StorageError Nat → Turn Nat (Except StoreError Unit)
  | .ok 0 => .stop (.error (.stalled written total))
  | .ok (moved + 1) =>
    if written + (moved + 1) < total then .again (written + (moved + 1)) else .stop (.ok ())
  | .error cause =>
    if cause.isInterrupted then .again written else .stop (.error (.storage cause))

/-- Write all of `bytes` at `offset`.  Writing no bytes makes no call. -/
def writeFull (handle : Handle) (offset : Nat) (bytes : List UInt8) :
    Script (Except StoreError Unit) :=
  if bytes.length = 0 then .done (.ok ())
  else
    .cycle 0
      (fun written => .ask (.writeAt handle (offset + written) (bytes.drop written)))
      (fun written answer => .done (writeTurn bytes.length written answer))
      .done

end CrashMarker
