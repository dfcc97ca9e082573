/-
Module: CrashMarker.Path
Purpose: Paths of marker files, and when two of them name the same place.
Main exports: Path, Path.names, Path.Key, Path.key
-/

namespace CrashMarker

/-- A path as it was given.  Messages show it in exactly this form. -/
structure Path where
  text : String
deriving Repr, DecidableEq, Inhabited

namespace Path

/-- What the path consists of, independent of its spelling: whether it starts at the root, and the
components that matter. -/
structure Key where
  absolute : Bool
  components : List (List Char)
deriving Repr, DecidableEq, Inhabited

/-- The stretches between slashes, including empty ones. -/
def names (path : Path) : List (List Char) := path.text.toList.splitOnP (· == '/')

def isAbsolute (path : Path) : Bool := path.text.toList.head? == some '/'

/-- A component that does not change where a path leads: an empty one, which comes from repeated or
trailing slashes, or a single dot. -/
def isIdle (name : List Char) : Bool := name.isEmpty || name == ['.']

/-- The identity of a path.  Idle components do not count, except for a dot that opens a relative
path; two dots are an ordinary component. -/
def key (path : Path) : Key where
  absolute := path.isAbsolute
  components :=
    match path.names with
    | ['.'] :: rest => ['.'] :: rest.filter (!isIdle ·)
    | names => names.filter (!isIdle ·)

end Path

end CrashMarker
