/-
Module: CrashMarker.Proofs.Atomicity
Purpose: An operation that is cut anywhere leaves the record before it or the record after it.
Main exports: Memory.closeAll, openMarker_cut, transition_cut, cut_leaves_old_or_new
-/
import CrashMarker.Proofs.Conducts
import CrashMarker.Proofs.Operations

namespace CrashMarker

open Memory (Unreliable Shows)

/-!
A machine that stops in the middle of an operation leaves the memory as the last action has left it,
with every handle closed.  An operation that gives up after a failed call leaves it in the same way.
So the record that the next opening will find has to be right after every passage of the operation,
and not only after those that come to an end.
-/

/-- The memory after the system has closed some handles. -/
def Memory.closeAll (memory : Memory) (handles : List Handle) : Memory :=
  handles.foldl Memory.close memory

/-- Closing handles gives locks up and leaves the bytes of all files. -/
theorem Memory.contents_closeAll (memory : Memory) (handles : List Handle) (path : Path) :
    (memory.closeAll handles).contents path = memory.contents path := by
  unfold closeAll
  induction handles generalizing memory with
  | nil => rfl
  | cons handle handles inductionHypothesis =>
    rw [List.foldl_cons, inductionHypothesis, contents_close]

variable {failures : StorageError → Prop} {store : Store} {memory : Memory} {taken : List Taken}
  {last : Script (Except StoreError Unit)} {after : World Memory}

/-- Wherever opening stops, the file stands for the record it stood for. -/
theorem openMarker_cut (sound : memory.Sound) (quiet : memory.Quiet)
    (passes : Script.Passes (Unreliable failures) store.target.openMarker (store.world memory) taken
      last after) :
    Record.loaded (after.storage.contents store.target.path) =
      Record.loaded (memory.contents store.target.path) := by
  by_cases opened : store.lifecycle.state = .opened
  · have refused : store.target.openMarker.Upholds (Unreliable failures)
        (Shows store.target.path fun contents =>
          Record.loaded contents = Record.loaded (memory.contents store.target.path))
        (store.world memory) _ := upholds_openMarker_refused opened
    exact (refused rfl passes).1
  · have atRest : memory.AtRest store.target.path (memory.file store.target.path) :=
      ⟨sound, quiet, rfl⟩
    have upholds : store.target.openMarker.Upholds (Unreliable failures) _ (store.world memory) _ :=
      atRest.upholds_openMarker opened
    exact (upholds rfl passes).1

/-- Wherever a transition stops, the file stands for the record with the flag as it was or as it is to
be. -/
theorem transition_cut {flag : Flag} {value : Bool}
    (coherent : Record.loaded (memory.contents store.target.path) = store.cached)
    (passes : Script.Passes (Unreliable failures) (store.target.transition flag value)
      (store.world memory) taken last after) :
    Record.loaded (after.storage.contents store.target.path) = store.cached ∨
      Record.loaded (after.storage.contents store.target.path) = store.cached.set flag value := by
  have upholds : (store.target.transition flag value).Upholds (Unreliable failures)
      (Shows store.target.path fun contents => Record.loaded contents = store.cached ∨
        Record.loaded contents = store.cached.set flag value) (store.world memory) _ :=
    Memory.upholds_transition_anywhere (safeToWrite_set store.cached flag value)
  exact (upholds (Or.inl coherent) passes).1

/-- Opening and transitions are atomic: whichever calls fail, with or without effect, however little
a write moves, and wherever the operation is cut, opening leaves the record that the file stands for
as it was, and a transition leaves it as it was or changes the flag it is about and no other. -/
theorem cut_leaves_old_or_new (failures : StorageError → Prop) (store : Store) (memory : Memory)
    (handles : List Handle) :
    (memory.Sound → memory.Quiet → ∀ {taken last after},
      Script.Passes (Unreliable failures) store.target.openMarker (store.world memory) taken last
        after →
      Record.loaded ((after.storage.closeAll handles).contents store.target.path) =
        Record.loaded (memory.contents store.target.path)) ∧
    (∀ flag value, Record.loaded (memory.contents store.target.path) = store.cached →
      ∀ {taken last after},
        Script.Passes (Unreliable failures) (store.target.transition flag value)
          (store.world memory) taken last after →
        (Record.loaded ((after.storage.closeAll handles).contents store.target.path) =
            store.cached ∨
          Record.loaded ((after.storage.closeAll handles).contents store.target.path) =
            store.cached.set flag value) ∧
        ∀ other, other ≠ flag →
          (Record.loaded ((after.storage.closeAll handles).contents store.target.path)).get other =
            store.cached.get other) := by
  constructor
  · intro sound quiet taken last after passes
    rw [Memory.contents_closeAll]
    exact openMarker_cut sound quiet passes
  · intro flag value coherent taken last after passes
    rw [Memory.contents_closeAll]
    have either := transition_cut coherent passes
    refine ⟨either, fun other different => ?_⟩
    rcases either with old | new
    · rw [old]
    · rw [new, store.cached.get_set_of_ne value different]

/-- A store that is about to open an empty marker. -/
def emptyMarker : Store := { target := { path := ⟨"marker"⟩ } }

/-- What opening an empty marker comes to after so many actions, if one byte moves at a time. -/
def openingSlowly (count : Nat) : World Memory :=
  emptyMarker.target.openMarker.advanced count (emptyMarker.world (.slow ⟨"marker"⟩ []))

/-- What marking it dirty comes to afterwards. -/
def markingSlowly (count : Nat) : World Memory :=
  (emptyMarker.target.transition .dirty true).advanced count
    ((emptyMarker.after (openingSlowly 40)).world (openingSlowly 40).storage)

/-- Halfway through its first record the empty marker has the legacy layout and still says clean; halfway
through its second it says dirty already. -/
theorem cut_leaves_old_or_new_halfway :
    (openingSlowly 6).storage.contents ⟨"marker"⟩ = some [0] ∧
      Record.loaded (((openingSlowly 6).storage.closeAll [⟨0⟩]).contents ⟨"marker"⟩) = .clean ∧
      (markingSlowly 6).storage.contents ⟨"marker"⟩ = some [1, 0] ∧
      (Record.loaded (((markingSlowly 6).storage.closeAll [⟨0⟩]).contents ⟨"marker"⟩)).get .rebuild =
        false := by
  have opening : ∃ taken last, Script.Passes (Unreliable fun _ => True)
      emptyMarker.target.openMarker _ taken last (openingSlowly 6) :=
    Script.passes_unreliable _ 6 _ _
  have marking : ∃ taken last, Script.Passes (Unreliable fun _ => True)
      (emptyMarker.target.transition .dirty true) _ taken last (markingSlowly 6) :=
    Script.passes_unreliable _ 6 _ _
  obtain ⟨taken, last, passes⟩ := opening
  obtain ⟨more, other, further⟩ := marking
  refine ⟨by decide, ?_, by decide, ?_⟩
  · exact (cut_leaves_old_or_new (fun _ => True) emptyMarker _ [⟨0⟩]).1
      (Memory.atRest_slow _ _).sound (Memory.atRest_slow _ _).quiet passes
  · exact ((cut_leaves_old_or_new (fun _ => True) (emptyMarker.after (openingSlowly 40)) _ [⟨0⟩]).2
      .dirty true (by decide) further).2 .rebuild nofun

end CrashMarker
