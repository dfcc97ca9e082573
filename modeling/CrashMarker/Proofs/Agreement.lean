/-
Module: CrashMarker.Proofs.Agreement
Purpose: Stores that open the same marker at the same time agree on who has it, call by call.
Main exports: Crowd.Sharing, Crowd.openers_agree
-/
import CrashMarker.Proofs.Company.Crowd

namespace CrashMarker

/-!
Stores that open, change and close one marker never remove its file.  So whoever makes the file when it is
missing makes the only one, all others open the same one, and its lock decides.  All this holds call by
call: between any two calls of a store others may do whatever they like, and any store may vanish.
-/

namespace Crowd

variable {ι : Type} [DecidableEq ι] {path : Path} {start crowd after : Crowd ι} {scenes : ι → Scene}

/-- Operations of stores that share a marker: they neither replace nor delete it. -/
def Sharing (operation : Operation) : Prop := operation ≠ .create ∧ operation ≠ .delete

instance : DecidablePred Sharing := fun operation =>
  inferInstanceAs (Decidable (operation ≠ .create ∧ operation ≠ .delete))

/-- A step of one store leaves the shared file and the flags that it does not touch. -/
theorem Accounted.lasts {actor : ι} (accounted : crowd.Accounted path True scenes)
    (step : Step Sharing crowd actor after) :
    crowd.memory.Lasts ⟨path, True, False, crowd.Changing actor⟩ after.memory := by
  obtain ⟨scene, moves⟩ :=
    accounted.step (fun _ shares => shares.2) (fun _ shares => shares.1 rfl) step
  exact moves.lasts trivial

/-! ## What opening and changing come to -/

omit [DecidableEq ι] in
/-- An opening that fails has found the marker locked. -/
theorem Accounted.refused (accounted : crowd.Accounted path True scenes) {index : ι}
    {running : Running} {error : StoreError}
    (runs : (crowd.processes index).running = some running)
    (opens : running.operation = .openMarker)
    (notOpen : (crowd.processes index).store.lifecycle.state ≠ .opened)
    (failed : running.rest = .done (.error error)) : error = .locked path := by
  have account := accounted.accounts index
  obtain ⟨scene, -, -, -, ends⟩ := (account.underway running runs).reached account.locking
  rw [← accounted.paths index]
  exact (ends _ failed).opens opens notOpen trivial error rfl

omit [DecidableEq ι] in
/-- Between operations the file of an open store tells the cached flags. -/
theorem Accounted.tells (accounted : crowd.Accounted path True scenes) {holder : ι}
    (idle : (crowd.processes holder).running = none)
    (opened : (crowd.processes holder).store.lifecycle.state = .opened) :
    ∃ bytes, crowd.memory.contents path = some bytes ∧
      Record.decode? bytes = some (crowd.processes holder).store.cached := by
  have account := accounted.accounts holder
  have isOpen : (crowd.processes holder).isOpen := by
    unfold Process.isOpen
    rw [idle]
    exact opened
  obtain ⟨handle, bytes, holding, -, inHand⟩ := (accounted.attached trivial).inHand accounted isOpen
  refine ⟨bytes, inHand.atRest.contents, ?_⟩
  cases account.idle idle with
  | waits _ notOpen => exact absurd opened notOpen
  | holds held _ long told =>
    cases holding.symm.trans held
    rw [Record.decode?_eq_loaded (by omega), told]
    rfl

omit [DecidableEq ι] in
/-- A store that has its marker open always gets its flag changed. -/
theorem Accounted.changed (accounted : crowd.Accounted path True scenes) {holder : ι}
    {running : Running} {flag : Flag} {value : Bool} {outcome : Except StoreError Unit}
    (runs : (crowd.processes holder).running = some running)
    (changes : running.operation = .transition flag value)
    (opened : (crowd.processes holder).store.lifecycle.state = .opened)
    (finished : running.rest = .done outcome) :
    outcome = .ok () ∧ ∃ bytes, crowd.memory.contents path = some bytes ∧
      Record.decode? bytes = some ((crowd.processes holder).store.cached.set flag value) := by
  have account := accounted.accounts holder
  obtain ⟨start, -, -, abides, ends⟩ := (account.underway running runs).reached account.locking
  have comes := ends outcome finished
  obtain ⟨done, cached⟩ := comes.changes flag value changes opened
  have isOpen : (crowd.processes holder).isOpen := by
    unfold Process.isOpen
    rw [runs]
    refine Or.inl ⟨opened, ?_⟩
    rw [changes]
    nofun
  obtain ⟨handle, bytes, holding, -, inHand⟩ := (accounted.attached trivial).inHand accounted isOpen
  refine ⟨done, bytes, inHand.atRest.contents, ?_⟩
  cases comes.idle with
  | waits away =>
    cases holding.symm.trans away
  | holds held _ long told =>
    cases holding.symm.trans held
    rw [Record.decode?_eq_loaded (by omega), told]
    exact congrArg some cached

/-- The file comes to tell another value of a flag only while the open store changes that flag. -/
theorem Accounted.changes (accounted : crowd.Accounted path True scenes) {actor : ι} {flag : Flag}
    (step : Step Sharing crowd actor after)
    (different : (Record.loaded (after.memory.contents path)).get flag ≠
      (Record.loaded (crowd.memory.contents path)).get flag) :
    (crowd.processes actor).isOpen ∧ ∃ running value,
      (crowd.processes actor).running = some running ∧
      running.operation = .transition flag value := by
  have lasts := accounted.lasts step
  have changing : crowd.Changing actor flag := by
    apply Classical.byContradiction
    intro untouched
    exact different (lasts.told flag untouched)
  obtain ⟨running, runs, creates | ⟨opened, value, changes⟩⟩ := changing
  · obtain ⟨start, -, guarded, -⟩ := ((accounted.accounts actor).underway running runs).begun
    exact (guarded creates trivial).1.elim
  · refine ⟨?_, running, value, runs, changes⟩
    unfold Process.isOpen
    rw [runs]
    refine Or.inl ⟨opened, ?_⟩
    rw [changes]
    nofun

/-! ## Along every interleaving -/

/-- Since the start at most one file has been made, and it is at the path. -/
theorem Steps.madeOnce (starts : start.Starts path) (steps : Steps (Step Sharing) start crowd) :
    start.memory.MadeOnce path crowd.memory := by
  induction steps with
  | here => exact Or.inl ⟨rfl, rfl⟩
  | on before step inductionHypothesis =>
    obtain ⟨scenes, accounted⟩ := before.accounted starts (fun _ shares => shares.2)
      (fun _ shares => shares.1 rfl) (fun _ _ _ step => step)
    have lasts := accounted.lasts step
    exact inductionHypothesis.trans lasts.names

/-- Stores that open, change and close one marker, which is missing or holds any bytes, or vanish at any
moment.  However their calls are interleaved, at most one of them is open, and it has the lock on the file
at the path.  A store that is not open fails to open the marker only because somebody else has the lock.
At most one file is ever made, and a file at the path stays there.  Between its operations the file of the
open store tells the cached flags; the changes it asks for succeed, and then the file tells them.  No step
of any store makes the file tell another value of a flag, but for the open store that changes this flag. -/
theorem openers_agree (starts : start.Starts path) (steps : Steps (Step Sharing) start crowd) :
    (∀ first second, (crowd.processes first).isOpen → (crowd.processes second).isOpen →
      first = second) ∧
    (∀ holder, (crowd.processes holder).isOpen →
      ∃ handle file, (crowd.processes holder).handles = [handle] ∧
        crowd.memory.InHand path handle file ∧ file.owner = some handle) ∧
    (∀ index running error, (crowd.processes index).running = some running →
      running.operation = .openMarker → (crowd.processes index).store.lifecycle.state ≠ .opened →
      running.rest = .done (.error error) → error = .locked path) ∧
    (crowd.memory.nextObject ≤ start.memory.nextObject + 1 ∧
      ∀ object, start.memory.named path = some object →
        crowd.memory.nextObject = start.memory.nextObject ∧
        crowd.memory.named path = some object) ∧
    (∀ holder, (crowd.processes holder).running = none →
      (crowd.processes holder).store.lifecycle.state = .opened →
      ∃ bytes, crowd.memory.contents path = some bytes ∧
        Record.decode? bytes = some (crowd.processes holder).store.cached) ∧
    (∀ holder running flag value outcome, (crowd.processes holder).running = some running →
      running.operation = .transition flag value →
      (crowd.processes holder).store.lifecycle.state = .opened → running.rest = .done outcome →
      outcome = .ok () ∧ ∃ bytes, crowd.memory.contents path = some bytes ∧
        Record.decode? bytes = some ((crowd.processes holder).store.cached.set flag value)) ∧
    ∀ actor after, Step Sharing crowd actor after →
      (∀ object, crowd.memory.named path = some object →
        after.memory.nextObject = crowd.memory.nextObject ∧
        after.memory.named path = some object) ∧
      ∀ flag, (Record.loaded (after.memory.contents path)).get flag ≠
          (Record.loaded (crowd.memory.contents path)).get flag →
        (crowd.processes actor).isOpen ∧ ∃ running value,
          (crowd.processes actor).running = some running ∧
          running.operation = .transition flag value := by
  obtain ⟨scenes, accounted⟩ := steps.accounted starts (fun _ shares => shares.2)
    (fun _ shares => shares.1 rfl) (fun _ _ _ step => step)
  have names := steps.madeOnce starts
  refine ⟨?_, ?_, ?_, ⟨names.nextObject_le, ?_⟩, ?_, ?_, ?_⟩
  · intro first second opened also
    exact (accounted.attached trivial).one_open accounted opened also
  · intro holder opened
    obtain ⟨handle, bytes, -, handles, inHand⟩ := (accounted.attached trivial).inHand accounted opened
    exact ⟨handle, _, handles, inHand, rfl⟩
  · intro index running error runs opens notOpen failed
    exact accounted.refused runs opens notOpen failed
  · intro object there
    exact names.of_named there
  · intro holder idle opened
    exact accounted.tells idle opened
  · intro holder running flag value outcome runs changes opened finished
    exact accounted.changed runs changes opened finished
  · intro actor after step
    have lasts := accounted.lasts step
    constructor
    · intro object there
      exact lasts.names.of_named there
    · intro flag different
      exact accounted.changes step different

/-- Two stores find the marker missing.  The one makes the file, but the other one opens it first and
gets the lock. -/
def race : Crowd Bool :=
  (turns true .openMarker 2 ++ turns false .openMarker 3 ++ List.replicate 12 (true, none) ++
    List.replicate 5 (false, none)).foldl Crowd.move (couple none)

/-- The store that has made the file is refused, and there is no other file. -/
theorem openers_agree_race :
    (race.processes true).isOpen ∧ ¬ (race.processes false).isOpen ∧
    (∃ running error, (race.processes false).running = some running ∧
      running.rest = .done (.error error) ∧ error = .locked ⟨"marker"⟩) ∧
    race.memory.nextObject ≤ 1 := by
  have steps : Steps (Step Sharing) (couple none) race := steps_moves _ (by decide)
  obtain ⟨one, -, refused, ⟨files, -⟩, -⟩ := openers_agree (starts_couple none) steps
  have opened : (race.processes true).isOpen := rfl
  refine ⟨opened, ?_, ?_, files⟩
  · intro also
    cases one true false opened also
  · obtain ⟨running, error, runs, opens, failed⟩ : ∃ running error,
        (race.processes false).running = some running ∧ running.operation = .openMarker ∧
          running.rest = .done (.error error) := ⟨_, _, rfl, rfl, rfl⟩
    exact ⟨running, error, runs, failed, refused false running error runs opens nofun failed⟩

end Crowd

end CrashMarker
