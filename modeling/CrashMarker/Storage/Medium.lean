/-
Module: CrashMarker.Storage.Medium
Purpose: The choice between files in memory and a tree of files.
Main exports: Medium, Medium.put, Medium.patience
-/
import CrashMarker.Storage.FileTree

namespace CrashMarker

/-- Either of the two storages. -/
inductive Medium where
  | inMemory (memory : Memory)
  | onDisk (tree : FileTree)
deriving Inhabited

namespace Medium

instance : Storage Medium where
  answer request
    | .inMemory memory =>
      let (answer, memory) := Storage.answer request memory
      (answer, .inMemory memory)
    | .onDisk tree =>
      let (answer, tree) := Storage.answer request tree
      (answer, .onDisk tree)
  close handle
    | .inMemory memory => .inMemory (Storage.close handle memory)
    | .onDisk tree => .onDisk (Storage.close handle tree)

def put (path : Path) (bytes : List UInt8) : Medium → Medium
  | .inMemory memory => .inMemory (memory.put path bytes)
  | .onDisk tree => .onDisk (tree.write path bytes)

/-- The most calls that can be answered with an error that makes an operation try again. -/
def patience : Medium → Nat
  | .inMemory memory => memory.patience
  | .onDisk _ => 0

end Medium

end CrashMarker
