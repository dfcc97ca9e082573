/-
Module: CrashMarker.Event
Purpose: What a store reports to the log while it works.
Main exports: Level, Event, Event.level, Event.message, Event.fields, Event.line
-/
import CrashMarker.Record
import CrashMarker.Storage.Error

namespace CrashMarker

open Text

/-- How much an event matters. -/
inductive Level where
  | debug
  | info
  | warn
deriving Repr, DecidableEq, Inhabited

def Level.name : Level → String
  | .debug => "DEBUG"
  | .info => "INFO"
  | .warn => "WARN"

/-- Something worth a log line. -/
inductive Event where
  /-- A fresh marker was made. -/
  | created (path : Path) (locked : Bool)
  /-- A marker was opened and said this. -/
  | opened (path : Path) (record : Record) (locked : Bool)
  /-- A one-byte marker was given both flags. -/
  | upgraded (path : Path)
  /-- The marker was let go of. -/
  | closed (path : Path)
  /-- The marker was removed. -/
  | deleted (path : Path)
  /-- A flag got a new value on disk. -/
  | persisted (path : Path) (flag : Flag) (value : Bool)
  /-- Someone else holds the lock. -/
  | contended (path : Path)
  /-- It could not be found out whether the file to be replaced is locked. -/
  | probeSkipped (path : Path) (cause : StorageError)
  /-- The lock taken to find that out could not be given up again. -/
  | probeUnlockFailed (path : Path) (cause : StorageError)
  /-- Removing the marker failed for the first time. -/
  | removalRetried (path : Path) (cause : StorageError)
  /-- The command line starts to change a flag. -/
  | applying (command : String) (path : Path)
  /-- The command line starts to replace a marker. -/
  | resetting (path : Path)
deriving Repr, DecidableEq, Inhabited

inductive FieldValue where
  /-- Text shown as it is. -/
  | shown (text : String)
  /-- Text that log lines put in quotes. -/
  | literal (text : String)
  | flag (value : Bool)
deriving Repr, DecidableEq, Inhabited

def FieldValue.describe : FieldValue → String
  | .shown text => text
  | .literal text => quoted text
  | .flag value => toString value

namespace Event

/-- How much the event matters. -/
def level : Event → Level
  | .created _ _ => .debug
  | .opened _ _ _ => .debug
  | .upgraded _ => .info
  | .closed _ => .debug
  | .deleted _ => .debug
  | .persisted _ _ _ => .debug
  | .contended _ => .warn
  | .probeSkipped _ _ => .debug
  | .probeUnlockFailed _ _ => .debug
  | .removalRetried _ _ => .warn
  | .applying _ _ => .info
  | .resetting _ => .info

def message : Event → String
  | .created _ _ => "created dirty flag marker"
  | .opened _ _ _ => "opened dirty flag marker"
  | .upgraded _ => "upgraded legacy dirty flag marker"
  | .closed _ => "closed dirty flag marker"
  | .deleted _ => "deleted dirty flag marker"
  | .persisted _ _ _ => "persisted flag transition"
  | .contended _ => "storage is open by another process"
  | .probeSkipped _ _ => "skipping lock probe on stale marker"
  | .probeUnlockFailed _ _ => "stale marker unlock failed"
  | .removalRetried _ _ => "retrying dirty flag marker removal"
  | .applying command path => s!"Applying {command} to {quoted path.text}"
  | .resetting path => s!"Resetting marker {quoted path.text}"

/-- The named details of the event, in the order in which log lines give them. -/
def fields : Event → List (String × FieldValue)
  | .created path locked => [("path", .shown path.text), ("locked", .flag locked)]
  | .opened path record locked =>
    [("path", .shown path.text), (Flag.dirty.name, .flag record.dirty),
      (Flag.rebuild.name, .flag record.rebuild), ("locked", .flag locked)]
  | .upgraded path => [("path", .shown path.text)]
  | .closed path => [("path", .shown path.text)]
  | .deleted path => [("path", .shown path.text)]
  | .persisted path flag value =>
    [("path", .shown path.text), ("flag", .literal flag.name), ("value", .flag value)]
  | .contended path => [("path", .shown path.text)]
  | .probeSkipped path cause => [("path", .shown path.text), ("error", .shown cause.message)]
  | .probeUnlockFailed path cause => [("path", .shown path.text), ("error", .shown cause.message)]
  | .removalRetried path cause => [("path", .shown path.text), ("error", .shown cause.message)]
  | .applying _ _ => []
  | .resetting _ => []

def line (event : Event) : String :=
  event.fields.foldl (fun text (name, value) => s!"{text} {name}={value.describe}")
    s!"{event.level.name} {event.message}"

end Event

end CrashMarker
