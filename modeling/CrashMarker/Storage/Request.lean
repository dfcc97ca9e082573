/-
Module: CrashMarker.Storage.Request
Purpose: The calls a store makes on the place where markers live, and what it gets back.
Main exports: Handle, Request, Request.Value, Request.Answer, Storage, Exchange
-/
import CrashMarker.Storage.Error

namespace CrashMarker

/-!
A place for marker files knows nothing of flags.  It creates, removes and opens files by path, and
moves bytes, syncs and locks through handles.  One transfer may move fewer bytes than it was asked
to; reading no bytes into a nonempty buffer means the end of the file.  The advisory lock is
exclusive between handles, and closing a handle gives up the lock it holds.
-/

/-- A token for an open file.  No two open files have the same one. -/
structure Handle where
  serial : Nat
deriving Repr, DecidableEq, Inhabited

inductive Request where
  /-- Is there a file at the path? -/
  | present (path : Path)
  /-- Make a new empty file. -/
  | createNew (path : Path)
  /-- Remove the file at the path; open handles on it stay usable. -/
  | remove (path : Path)
  /-- Open an existing file for reading and writing. -/
  | openFile (path : Path)
  /-- Read at most `count` bytes from `offset` on. -/
  | readAt (handle : Handle) (offset count : Nat)
  /-- Write a beginning of `bytes` at `offset`. -/
  | writeAt (handle : Handle) (offset : Nat) (bytes : List UInt8)
  /-- The size of the file in bytes. -/
  | size (handle : Handle)
  /-- Bring written bytes to durable storage. -/
  | sync (handle : Handle)
  /-- Try to take the exclusive lock without waiting. -/
  | tryLock (handle : Handle)
  /-- Give the lock up. -/
  | unlock (handle : Handle)
deriving Repr, DecidableEq, Inhabited

namespace Request

/-- What a successful call yields: the bytes read, the number of bytes written, the size, whether
a file is there, whether the lock was taken, or a handle. -/
abbrev Value : Request → Type
  | .present _ => Bool
  | .createNew _ => Unit
  | .remove _ => Unit
  | .openFile _ => Handle
  | .readAt _ _ _ => List UInt8
  | .writeAt _ _ _ => Nat
  | .size _ => Nat
  | .sync _ => Unit
  | .tryLock _ => Bool
  | .unlock _ => Unit

abbrev Answer (request : Request) : Type := Except StorageError request.Value

/-- The path that an error of the call mentions.  Calls on handles know none. -/
def path : Request → Path
  | .present path => path
  | .createNew path => path
  | .remove path => path
  | .openFile path => path
  | .readAt _ _ _ => ⟨""⟩
  | .writeAt _ _ _ => ⟨""⟩
  | .size _ => ⟨""⟩
  | .sync _ => ⟨""⟩
  | .tryLock _ => ⟨""⟩
  | .unlock _ => ⟨""⟩

end Request

/-- A place for marker files: how it answers calls, and what closing a handle does to it. -/
class Storage (σ : Type) where
  answer : (request : Request) → σ → request.Answer × σ
  close : Handle → σ → σ

end CrashMarker
