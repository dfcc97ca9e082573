/-
Module: CrashMarker.Proofs.Transfers
Purpose: What a whole transfer comes to on a memory that may move any part of its bytes at a time and
  fail.
Main exports: upholds_writeFull, Memory.serves
-/
import CrashMarker.Proofs.Memory.Unreliable
import CrashMarker.Proofs.Serving

namespace CrashMarker

open Memory (Unreliable Shows)

variable {failures : StorageError → Prop} {permitted : Option (List UInt8) → Prop} {path : Path}
  {handle : Handle} {file : FileObject} {memory after : Memory} {world : World Memory}

/-- Writing a piece to where it belongs shows nothing but what is permitted, whatever file the handle
is on. -/
theorem Memory.Shows.writeAt {bytes : List UInt8} {written : Nat}
    {answer : (Request.writeAt handle (0 + written) (bytes.drop written)).Answer}
    (shows : memory.Shows path permitted) (safe : SafeToWrite permitted bytes)
    (answered : Unreliable failures (.writeAt handle (0 + written) (bytes.drop written)) memory
      answer after) : after.Shows path permitted := by
  unfold Shows at shows ⊢
  rcases answered.contents_writeAt path with same | ⟨old, moved, here, now⟩
  · rw [same]
    exact shows
  · rw [here] at shows
    rw [now, Nat.zero_add]
    exact safe old written moved shows

/-- Wherever the writing of a buffer ends, and whatever file it goes to, the file at the path shows
nothing but what is permitted. -/
theorem upholds_writeFull {bytes : List UInt8} (safe : SafeToWrite permitted bytes) :
    (writeFull handle 0 bytes).Upholds (Unreliable failures) (Shows path permitted) world
      fun _ after => after.cached = world.cached := by
  unfold writeFull
  split
  · exact Script.upholds_done rfl
  · apply Script.upholds_cycle (fun _ after => after.cached = world.cached) rfl
    intro written before cached
    refine Script.upholds_of_start fun start => Script.upholds_act ?_
    rintro answer after ⟨storage, answered, rfl⟩
    refine ⟨start.writeAt safe answered, Script.upholds_done ?_⟩
    split
    · exact cached
    · exact Script.upholds_done cached

/-- A memory serves the handle of a file in hand. -/
theorem Memory.serves (permitted : Option (List UInt8) → Prop) (path : Path) (handle : Handle)
    (file : FileObject) :
    Serves (Unreliable failures) (Shows path permitted) handle failures
      (fun bytes memory => memory.InHand path handle { file with bytes })
      fun bytes => permitted (some bytes) where
  shows inHand fits := inHand.shows_iff.2 fits
  size inHand answered := inHand.size answered
  sync inHand answered := inHand.sync answered
  readAt wanted inHand answered := inHand.readAt wanted answered
  writeAt nonempty inHand _ _ answered := inHand.writeAt nonempty answered

end CrashMarker
