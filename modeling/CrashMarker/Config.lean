/-
Module: CrashMarker.Config
Purpose: The choices a store is made with.
Main exports: Config, Config.readOnly, Config.describe
-/

namespace CrashMarker

/-- How a store treats its marker file. -/
structure Config where
  /-- Take the exclusive advisory lock whenever the marker is created or opened. -/
  fileLock : Bool := true
  /-- Sync the marker file after every record it is given. -/
  syncOnWrite : Bool := true
deriving Repr, DecidableEq, Inhabited

namespace Config

/-- The choices of a storage engine: lock and sync. -/
def standard : Config := {}

/-- The choices of a tool that looks on and must not contend for the lock. -/
def readOnly : Config := { standard with fileLock := false }

/-- A configuration in words, as diagnostics print it. -/
def describe (config : Config) : String :=
  s!"Config \x7b file_lock: {config.fileLock}, sync_on_write: {config.syncOnWrite} \x7d"

end Config

end CrashMarker
