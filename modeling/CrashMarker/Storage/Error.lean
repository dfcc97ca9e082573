/-
Module: CrashMarker.Storage.Error
Purpose: What can go wrong between a store and the place where its marker lives.
Main exports: IoKind, SystemError, IoError, StorageError, their message and diagnostic texts
-/
import CrashMarker.Path
import CrashMarker.Text.Quoted

namespace CrashMarker

open Text

/-!
Each error has two texts: `message`, a sentence for people, and `diagnostic`, which shows how the
error is built.
-/

inductive IoKind where
  | notFound
  | permissionDenied
  | alreadyExists
  | wouldBlock
  | notADirectory
  | isADirectory
  | filesystemLoop
  | invalidInput
  | invalidData
  | timedOut
  | writeZero
  | fileTooLarge
  | invalidFilename
  | interrupted
  | unsupported
  | unexpectedEof
  | brokenPipe
  | outOfMemory
  | other
  | uncategorized
deriving Repr, DecidableEq, Inhabited

namespace IoKind

/-- The name of a kind as diagnostics print it. -/
def name : IoKind → String
  | .notFound => "NotFound"
  | .permissionDenied => "PermissionDenied"
  | .alreadyExists => "AlreadyExists"
  | .wouldBlock => "WouldBlock"
  | .notADirectory => "NotADirectory"
  | .isADirectory => "IsADirectory"
  | .filesystemLoop => "FilesystemLoop"
  | .invalidInput => "InvalidInput"
  | .invalidData => "InvalidData"
  | .timedOut => "TimedOut"
  | .writeZero => "WriteZero"
  | .fileTooLarge => "FileTooLarge"
  | .invalidFilename => "InvalidFilename"
  | .interrupted => "Interrupted"
  | .unsupported => "Unsupported"
  | .unexpectedEof => "UnexpectedEof"
  | .brokenPipe => "BrokenPipe"
  | .outOfMemory => "OutOfMemory"
  | .other => "Other"
  | .uncategorized => "Uncategorized"

def message : IoKind → String
  | .notFound => "entity not found"
  | .permissionDenied => "permission denied"
  | .alreadyExists => "entity already exists"
  | .wouldBlock => "operation would block"
  | .notADirectory => "not a directory"
  | .isADirectory => "is a directory"
  | .filesystemLoop => "filesystem loop or indirection limit (e.g. symlink loop)"
  | .invalidInput => "invalid input parameter"
  | .invalidData => "invalid data"
  | .timedOut => "timed out"
  | .writeZero => "write zero"
  | .fileTooLarge => "file too large"
  | .invalidFilename => "invalid filename"
  | .interrupted => "operation interrupted"
  | .unsupported => "unsupported"
  | .unexpectedEof => "unexpected end of file"
  | .brokenPipe => "broken pipe"
  | .outOfMemory => "out of memory"
  | .other => "other error"
  | .uncategorized => "uncategorized error"

end IoKind

/-- The errors by which an operating system refuses a file operation. -/
inductive SystemError where
  | noSuchEntry
  | badDescriptor
  | permissionDenied
  | entryExists
  | notADirectory
  | isADirectory
  | invalidArgument
  | fileTooLarge
  | nameTooLong
  | tooManyLinks
deriving Repr, DecidableEq, Inhabited

namespace SystemError

def code : SystemError → Nat
  | .noSuchEntry => 2
  | .badDescriptor => 9
  | .permissionDenied => 13
  | .entryExists => 17
  | .notADirectory => 20
  | .isADirectory => 21
  | .invalidArgument => 22
  | .fileTooLarge => 27
  | .nameTooLong => 36
  | .tooManyLinks => 40

def message : SystemError → String
  | .noSuchEntry => "No such file or directory"
  | .badDescriptor => "Bad file descriptor"
  | .permissionDenied => "Permission denied"
  | .entryExists => "File exists"
  | .notADirectory => "Not a directory"
  | .isADirectory => "Is a directory"
  | .invalidArgument => "Invalid argument"
  | .fileTooLarge => "File too large"
  | .nameTooLong => "File name too long"
  | .tooManyLinks => "Too many levels of symbolic links"

def kind : SystemError → IoKind
  | .noSuchEntry => .notFound
  | .badDescriptor => .uncategorized
  | .permissionDenied => .permissionDenied
  | .entryExists => .alreadyExists
  | .notADirectory => .notADirectory
  | .isADirectory => .isADirectory
  | .invalidArgument => .invalidInput
  | .fileTooLarge => .fileTooLarge
  | .nameTooLong => .invalidFilename
  | .tooManyLinks => .filesystemLoop

def all : List SystemError :=
  [.noSuchEntry, .badDescriptor, .permissionDenied, .entryExists, .notADirectory, .isADirectory,
    .invalidArgument, .fileTooLarge, .nameTooLong, .tooManyLinks]

def ofCode? (code : Nat) : Option SystemError := all.find? fun error => error.code = code

end SystemError

inductive IoError where
  /-- Nothing but the kind is known. -/
  | bare (kind : IoKind)
  /-- A kind with its own explanation. -/
  | explained (kind : IoKind) (explanation : String)
  /-- The operating system refused. -/
  | system (error : SystemError)
deriving Repr, DecidableEq, Inhabited

namespace IoError

def kind : IoError → IoKind
  | .bare kind => kind
  | .explained kind _ => kind
  | .system error => error.kind

def message : IoError → String
  | .bare kind => kind.message
  | .explained _ explanation => explanation
  | .system error => s!"{error.message} (os error {error.code})"

/-- The error as it is built. -/
def diagnostic : IoError → String
  | .bare kind => s!"Kind({kind.name})"
  | .explained kind explanation =>
    s!"Custom \x7b kind: {kind.name}, error: {quoted explanation} \x7d"
  | .system error =>
    s!"Os \x7b code: {error.code}, kind: {error.kind.name}, message: {quoted error.message} \x7d"

end IoError

/-- An error of the place where marker files live. -/
inductive StorageError where
  | io (cause : IoError)
  /-- The file does not exist. -/
  | notFound (path : Path)
  /-- A file is already there although a new one was asked for. -/
  | alreadyExists (path : Path)
deriving Repr, DecidableEq, Inhabited

namespace StorageError

/-- Whether the failed transfer moved nothing and may simply be tried again. -/
def isInterrupted : StorageError → Bool
  | .io cause => cause.kind = .interrupted
  | .notFound _ => false
  | .alreadyExists _ => false

/-- The error that a refusal by the system amounts to, at a given path. -/
def ofSystem (path : Path) (error : SystemError) : StorageError :=
  match error.kind with
  | .notFound => .notFound path
  | .alreadyExists => .alreadyExists path
  | _ => .io (.system error)

def message : StorageError → String
  | .io cause => s!"I/O error: {cause.message}"
  | .notFound path => s!"file not found: {path.text}"
  | .alreadyExists path => s!"file already exists: {path.text}"

/-- The error as it is built. -/
def diagnostic : StorageError → String
  | .io cause => s!"Io({cause.diagnostic})"
  | .notFound path => s!"NotFound \x7b path: {quoted path.text} \x7d"
  | .alreadyExists path => s!"AlreadyExists \x7b path: {quoted path.text} \x7d"

/-- The sentences of the errors behind this one, the nearest first. -/
def sources : StorageError → List String
  | .io cause => [cause.message]
  | .notFound _ => []
  | .alreadyExists _ => []

end StorageError

end CrashMarker
