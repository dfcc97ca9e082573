/-
Module: CrashMarker.Table
Purpose: Finite tables with at most one value per key.
Main exports: Table, Table.get?, Table.set, Table.erase
-/

namespace CrashMarker

/-!
A table is seen through `get?`: setting a key changes the answer for that key and for no other, and
so does erasing it.
-/

/-- Bindings from keys to values, the latest one first. -/
structure Table (κ ν : Type) where
  entries : List (κ × ν) := []
deriving Repr, DecidableEq, Inhabited

namespace Table

variable {κ ν : Type} [DecidableEq κ]

def empty : Table κ ν := {}

def get? (table : Table κ ν) (key : κ) : Option ν :=
  (table.entries.find? fun entry => entry.1 = key).map (·.2)

def contains (table : Table κ ν) (key : κ) : Bool := (table.get? key).isSome

def erase (table : Table κ ν) (key : κ) : Table κ ν :=
  ⟨table.entries.filter fun entry => entry.1 ≠ key⟩

/-- The table with the key bound to the value and to nothing else. -/
def set (table : Table κ ν) (key : κ) (value : ν) : Table κ ν :=
  ⟨(key, value) :: (table.erase key).entries⟩

def update (table : Table κ ν) (key : κ) (change : ν → ν) : Table κ ν :=
  match table.get? key with
  | some value => table.set key (change value)
  | none => table

@[simp] theorem get?_erase_self (table : Table κ ν) (key : κ) : (table.erase key).get? key = none := by
  simp [get?, erase]

theorem get?_erase_of_ne (table : Table κ ν) {key other : κ} (different : other ≠ key) :
    (table.erase key).get? other = table.get? other := by
  rcases table with ⟨entries⟩
  simp only [get?, erase, List.find?_filter]
  congr 2
  funext entry
  by_cases same : entry.1 = other
  · simp [same, different]
  · simp [same]

@[simp] theorem get?_set_self (table : Table κ ν) (key : κ) (value : ν) :
    (table.set key value).get? key = some value := by
  simp [get?, set]

theorem get?_set_of_ne (table : Table κ ν) {key other : κ} (value : ν) (different : other ≠ key) :
    (table.set key value).get? other = table.get? other := by
  rw [← get?_erase_of_ne table different]
  simp [get?, set, Ne.symm different]

theorem get?_set (table : Table κ ν) (key other : κ) (value : ν) :
    (table.set key value).get? other = if other = key then some value else table.get? other := by
  by_cases same : other = key
  · subst same; simp
  · simp [same, get?_set_of_ne table value same]

/-- Erasing a key affects no other key. -/
theorem get?_erase (table : Table κ ν) (key other : κ) :
    (table.erase key).get? other = if other = key then none else table.get? other := by
  by_cases same : other = key
  · subst same; simp
  · simp [same, get?_erase_of_ne table same]

/-- Updating a key changes the value that it has, if it has one. -/
theorem get?_update (table : Table κ ν) (key other : κ) (change : ν → ν) :
    (table.update key change).get? other =
      if other = key then (table.get? key).map change else table.get? other := by
  unfold update
  split
  next value found => simp [get?_set, found]
  next absent =>
    by_cases same : other = key
    · subst same; simp [absent]
    · simp [same]

end Table

end CrashMarker
