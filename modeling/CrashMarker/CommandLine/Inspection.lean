/-
Module: CrashMarker.CommandLine.Inspection
Purpose: The two forms in which the command line shows a marker.
Main exports: Inspection, Inspection.text, Inspection.json
-/
import CrashMarker.Store.Inspection

namespace CrashMarker.CommandLine

/-- A marker as the command line shows it. -/
structure Inspection where
  path : Path
  snapshot : Snapshot
deriving Repr, DecidableEq, Inhabited

namespace Inspection

def exists? (inspection : Inspection) : Bool := inspection.snapshot.layout ≠ .missing

/-- Whether opening the marker would find the storage in need of recovery. -/
def recoveryNeeded (inspection : Inspection) : Bool :=
  (inspection.snapshot.record.map (·.dirty)).getD false

/-- Whether opening the marker would find a pending index rebuild. -/
def rebuildNeeded (inspection : Inspection) : Bool :=
  (inspection.snapshot.record.map (·.rebuild)).getD false

def flagWord : Option Bool → String
  | some true => "set"
  | some false => "clear"
  | none => "-"

def answerWord (value : Bool) : String := if value then "yes" else "no"

/-- The form for people. -/
def text (inspection : Inspection) : String :=
  let snapshot := inspection.snapshot
  "\n".intercalate [
    "dirtymark Marker Inspection",
    "===========================",
    "",
    s!"Path:   {inspection.path.text}",
    s!"Layout: {snapshot.layout.name} ({snapshot.size} bytes)",
    "",
    "Flags:",
    "  Dirty:                   " ++ flagWord (snapshot.record.map (·.dirty)),
    "  Index rebuild scheduled: " ++ flagWord (snapshot.record.map (·.rebuild)),
    "",
    "On next open:",
    "  Recovery:      " ++ answerWord inspection.recoveryNeeded,
    "  Index rebuild: " ++ answerWord inspection.rebuildNeeded,
    ""]

/-- The members of the JSON form.  The flags are left out where there is no record. -/
def members (inspection : Inspection) : List (String × String) :=
  let snapshot := inspection.snapshot
  let flags := match snapshot.record with
    | none => []
    | some record =>
      [(Flag.dirty.name, toString record.dirty), (Flag.rebuild.name, toString record.rebuild)]
  [("path", Text.jsonQuoted inspection.path.text),
    ("exists", toString inspection.exists?),
    ("layout", Text.jsonQuoted snapshot.layout.name),
    ("size", toString snapshot.size)] ++
  flags ++
  [("recovery_needed", toString inspection.recoveryNeeded),
    ("rebuild_needed", toString inspection.rebuildNeeded)]

/-- The form for programs: a JSON object with one member a line. -/
def json (inspection : Inspection) : String :=
  let lines := inspection.members.map fun (name, value) => s!"  {Text.jsonQuoted name}: {value}"
  "\x7b\n" ++ ",\n".intercalate lines ++ "\n\x7d\n"

/-- The form of a given name.  Every name but that of the JSON form stands for the text. -/
def render (inspection : Inspection) (format : String) : String :=
  if format == "json" then inspection.json else inspection.text

end Inspection

end CrashMarker.CommandLine
