/-
Module: CrashMarker.Proofs.Usability
Purpose: A store that calls itself open holds a handle, unless a deletion has stranded it.
Main exports: stranded, Lifecycle.Fits, Career.usable_unless_stranded, deletion_strands
-/
import CrashMarker.Proofs.Careers
import CrashMarker.Proofs.Traces.Operations
import CrashMarker.Storage.Memory
import CrashMarker.Storage.Monitored

namespace CrashMarker

/-!
Closing a marker says that the store is closed before it gives up the lock.  Deleting a marker lets go
of the handle first and says so only after the lock has been given up.  If the storage refuses that,
the store goes on calling itself open with nothing in hand: it answers transitions as a store that is
not open, and it cannot be opened again, until it is asked to delete once more.
-/

/-- Whether an episode leaves its store stranded, given whether it was so before. -/
def Episode.strands (before : Bool) (episode : Episode) : Bool :=
  match episode.operation with
  | .delete => unlockRefused episode.taken
  | _ => before

/-- The lock was not given up when the store was last asked to delete. -/
def stranded (episodes : List Episode) : Bool := episodes.foldl Episode.strands false

@[simp] theorem stranded_append (episodes : List Episode) (episode : Episode) :
    stranded (episodes ++ [episode]) = episode.strands (stranded episodes) := by
  simp [stranded]

/-- How the fields of a lifecycle fit together. -/
structure Lifecycle.Fits (lifecycle : Lifecycle) (config : Config) (stranded : Bool) : Prop where
  opened : lifecycle.state = .opened ↔ lifecycle.handle.isSome ∨ stranded = true
  letGo : stranded = true → lifecycle.handle = none
  locked : lifecycle.locked = true → lifecycle.handle.isSome ∧ config.fileLock = true

variable {σ : Type} {conduct : Conduct σ} {target : Target} {lifecycle : Lifecycle} {config : Config}
  {before : Bool}

theorem Lifecycle.fits_fresh : ({} : Lifecycle).Fits config false :=
  ⟨⟨nofun, nofun⟩, nofun, nofun⟩

namespace Lifecycle.Fits

/-- A store that does not call itself open holds nothing and is not stranded. -/
theorem of_notOpen (fits : lifecycle.Fits config before) (notOpen : lifecycle.state ≠ .opened) :
    lifecycle.handle = none ∧ before = false := by
  have neither := mt fits.opened.2 notOpen
  rw [not_or, Option.not_isSome_iff_eq_none, Bool.not_eq_true] at neither
  exact neither

/-- A store with a handle is open, and was not stranded. -/
theorem of_holds (fits : lifecycle.Fits config before) (holds : lifecycle.handle.isSome) :
    lifecycle.state = .opened ∧ before = false := by
  refine ⟨fits.opened.2 (Or.inl holds), Bool.eq_false_iff.2 fun isStranded => ?_⟩
  rw [fits.letGo isStranded] at holds
  cases holds

/-- Attempts to set a marker up keep the fields fitting together. -/
theorem attempts {name : String} {evidence : Handle → Record → List Taken → Prop}
    {world after : World σ} {taken : List Taken} {outcome : Except StoreError Unit}
    (fits : world.lifecycle.Fits target.config before)
    (attempts : Attempts target name evidence world taken outcome after) :
    after.lifecycle.Fits target.config before := by
  unfold Attempts at attempts
  split at attempts
  · obtain ⟨-, rfl, -⟩ := attempts
    exact fits
  next notOpen =>
    obtain ⟨nothing, rfl⟩ := fits.of_notOpen notOpen
    generalize after.lifecycle = left at attempts ⊢
    cases attempts with
    | opened locking => exact ⟨by simp, nofun, fun locked => ⟨rfl, locking locked⟩⟩
    | failed _ kept =>
      rw [kept]
      exact ⟨fits.opened, fits.letGo, fits.locked⟩

/-- Closing leaves the fields fitting together. -/
theorem close (fits : lifecycle.Fits config before) : lifecycle.afterClose.Fits config before := by
  unfold afterClose
  cases held : lifecycle.handle with
  | none => exact fits
  | some handle =>
    obtain ⟨-, rfl⟩ := fits.of_holds (by rw [held]; rfl)
    exact ⟨⟨nofun, nofun⟩, nofun, nofun⟩

/-- A deletion is what strands a store, and it is what ends it. -/
theorem delete {taken : List Taken} (fits : lifecycle.Fits config before)
    (refused : unlockRefused taken = true → lifecycle.handle.isSome) :
    (lifecycle.afterDelete taken).Fits config (unlockRefused taken) := by
  have given : lifecycle.handle = none → unlockRefused taken = false := by
    intro nothing
    rw [nothing] at refused
    exact Bool.eq_false_iff.2 fun isRefused => nomatch refused isRefused
  unfold afterDelete
  split
  next unconcerned =>
    obtain ⟨nothing, rfl⟩ := fits.of_notOpen (by rw [unconcerned.1]; nofun)
    rw [given nothing]
    exact fits
  next =>
    cases held : lifecycle.handle with
    | none =>
      rw [given held]
      refine ⟨?_, nofun, fun locked => ?_⟩
      · simp
      · have holds := (fits.locked locked).1
        rw [held] at holds
        cases holds
    | some handle =>
      obtain ⟨opened, -⟩ := fits.of_holds (by rw [held]; rfl)
      refine ⟨?_, fun _ => rfl, nofun⟩
      simp [opened]

end Lifecycle.Fits

/-- An attempt to set a marker up is refused exactly on a store that calls itself open. -/
theorem Attempts.refused_iff {name : String} {evidence : Handle → Record → List Taken → Prop}
    {world after : World σ} {taken : List Taken} {outcome : Except StoreError Unit}
    (attempts : Attempts target name evidence world taken outcome after) :
    outcome = .error (.alreadyOpen name) ↔ world.lifecycle.state = .opened := by
  unfold Attempts at attempts
  split at attempts
  next opened => exact ⟨fun _ => opened, fun _ => attempts.1⟩
  next notOpen =>
    refine ⟨?_, (absurd · notOpen)⟩
    rintro rfl
    generalize after.lifecycle = left at attempts
    cases attempts with
    | failed other => cases other

/-- A transition is refused exactly if it would change a flag and nothing is in hand. -/
theorem Transits.refused_iff {flag : Flag} {value : Bool} {world after : World σ}
    {taken : List Taken} {outcome : Except StoreError Unit}
    (transits : Transits target flag value world taken outcome after) :
    outcome = .error .closed ↔
      world.cached.get flag ≠ value ∧ world.lifecycle.handle = none := by
  cases transits with
  | idle same => exact ⟨nofun, fun changes => absurd same changes.1⟩
  | refused changes letGo => exact ⟨fun _ => ⟨changes, letGo⟩, fun _ => rfl⟩
  | changed changes holds =>
    refine ⟨nofun, fun letGo => ?_⟩
    rw [holds] at letGo
    cases letGo.2
  | failed changes holds other =>
    refine ⟨?_, fun letGo => ?_⟩
    · rintro ⟨⟩
      cases other
    · rw [holds] at letGo
      cases letGo.2

variable [Storage σ]

/-- Every operation keeps the fields of the lifecycle fitting together, whatever its calls come to. -/
theorem Lifecycle.Fits.after {operation : Operation} {store : Store} {storage : σ}
    {taken : List Taken} {outcome : Except StoreError Unit} {world : World σ}
    (fits : store.lifecycle.Fits target.config before)
    (ended : (operation.script target).Ends conduct (store.world storage) taken outcome world) :
    world.lifecycle.Fits target.config
      (Episode.strands before ⟨operation, store, taken, outcome, store.after world⟩) := by
  cases operation with
  | create => exact fits.attempts ((tells_create target).of_ends ended)
  | openMarker => exact fits.attempts ((tells_openMarker target).of_ends ended)
  | closeMarker =>
    obtain ⟨-, -, -, closed, -⟩ := (tells_closeMarker target).of_ends ended
    rw [closed]
    exact fits.close
  | delete =>
    obtain ⟨-, -, -, deleted, refused, -⟩ := (tells_delete target).of_ends ended
    rw [deleted]
    exact fits.delete refused
  | transition flag value =>
    obtain ⟨kept, -⟩ := (tells_transition target flag value).of_ends ended
    rw [kept]
    exact fits

namespace Career

variable {episodes : List Episode} {store : Store}

/-- In every career the fields of the lifecycle fit together. -/
theorem fits (career : Career conduct target episodes store) :
    store.lifecycle.Fits target.config (stranded episodes) := by
  induction career with
  | fresh => exact Lifecycle.fits_fresh
  | next _ ended inductionHypothesis =>
    rw [stranded_append]
    exact inductionHypothesis.after ended

/-- Between operations a store calls itself open exactly if it holds a handle or a deletion has stranded
it, and it believes in a lock only with a handle in hand.  Only a stranded store refuses to change a
flag although it calls itself open, or to be set up although it holds nothing. -/
theorem usable_unless_stranded (career : Career conduct target episodes store) :
    (store.lifecycle.state = .opened ↔
        store.lifecycle.handle.isSome ∨ stranded episodes = true) ∧
      (stranded episodes = true → store.lifecycle.handle = none) ∧
      (store.lifecycle.locked = true →
        store.lifecycle.handle.isSome ∧ target.config.fileLock = true) ∧
      ∀ (storage : σ) (operation : Operation) (taken : List Taken)
          (outcome : Except StoreError Unit) (world : World σ),
        (operation.script target).Ends conduct (store.world storage) taken outcome world →
          (∀ flag value, operation = .transition flag value → store.lifecycle.state = .opened →
            (outcome = .error .closed ↔
              stranded episodes = true ∧ store.cached.get flag ≠ value)) ∧
          (operation = .create → store.lifecycle.handle = none →
            (outcome = .error (.alreadyOpen "create") ↔ stranded episodes = true)) ∧
          (operation = .openMarker → store.lifecycle.handle = none →
            (outcome = .error (.alreadyOpen "open") ↔ stranded episodes = true)) := by
  have fits := career.fits
  -- On a store that holds nothing, to call itself open is to be stranded.
  have called : store.lifecycle.handle = none →
      (store.lifecycle.state = .opened ↔ stranded episodes = true) := by
    intro letGo
    rw [fits.opened, letGo]
    simp
  refine ⟨fits.opened, fits.letGo, fits.locked, ?_⟩
  intro storage operation taken outcome world ended
  refine ⟨?_, ?_, ?_⟩
  · rintro flag value rfl opened
    obtain ⟨-, transits⟩ := (tells_transition target flag value).of_ends ended
    refine transits.refused_iff.trans ⟨?_, ?_⟩
    · rintro ⟨changes, letGo⟩
      exact ⟨(called letGo).1 opened, changes⟩
    · rintro ⟨isStranded, changes⟩
      exact ⟨changes, fits.letGo isStranded⟩
  · rintro rfl letGo
    exact ((tells_create target).of_ends ended).refused_iff.trans (called letGo)
  · rintro rfl letGo
    exact ((tells_openMarker target).of_ends ended).refused_iff.trans (called letGo)

end Career

/-! ## A store that is stranded -/

/-- A memory that refuses to give up a lock once. -/
def unlockFails : Monitored Memory where
  storage := {}
  faults := Table.empty.set .unlock [.fail (.io (.bare .other)) false]

/-- A new store creates its marker and is asked to delete it, then to mark it clean and to open it. -/
def strandedLife : List Episode × Store × Monitored Memory :=
  ((Store.fresh { path := ⟨"marker"⟩ }).live 40
    [.create, .delete, .transition .dirty false, .openMarker] unlockFails).get (by decide)

theorem career_strandedLife :
    Career (Conduct.honest (Monitored Memory)) { path := ⟨"marker"⟩ } strandedLife.1
      strandedLife.2.1 := by
  have lived : (Store.fresh { path := ⟨"marker"⟩ }).live 40
      [.create, .delete, .transition .dirty false, .openMarker] unlockFails = some strandedLife :=
    (Option.some_get _).symm
  exact career_of_live lived

/-- The store is open with nothing in hand, and refuses to change a flag. -/
theorem usable_unless_stranded_marker :
    strandedLife.2.1.lifecycle.state = .opened ∧ strandedLife.2.1.lifecycle.handle = none ∧
      ∃ taken world, ((Operation.transition .dirty false).script { path := ⟨"marker"⟩ }).Ends
        (Conduct.honest (Monitored Memory)) (strandedLife.2.1.world strandedLife.2.2) taken
        (.error .closed) world := by
  have isStranded : stranded strandedLife.1 = true := by decide
  obtain ⟨opened, letGo, -, refusals⟩ := career_strandedLife.usable_unless_stranded
  have recorded : (((Operation.transition .dirty false).script { path := ⟨"marker"⟩ }).record 40
      (strandedLife.2.1.world strandedLife.2.2)).isSome := by decide
  obtain ⟨⟨taken, outcome, world⟩, same⟩ := Option.isSome_iff_exists.1 recorded
  have ended := Script.ends_of_record same
  have refused := ((refusals _ _ _ _ _ ended).1 .dirty false rfl (opened.2 (Or.inr isStranded))).2
    ⟨isStranded, by decide⟩
  rw [refused] at ended
  exact ⟨opened.2 (Or.inr isStranded), letGo isStranded, taken, world, ended⟩

/-- Where the lock was not given up, a store that holds nothing calls itself open, and then it neither
changes a flag nor opens its marker again. -/
theorem deletion_strands :
    Career (Conduct.honest (Monitored Memory)) { path := ⟨"marker"⟩ } strandedLife.1
        strandedLife.2.1 ∧
      strandedLife.1.map (fun episode => (episode.outcome, episode.next.lifecycle)) =
        [(.ok (), ⟨.opened, some ⟨0⟩, true, true⟩),
          (.error (.storage (.io (.bare .other))), ⟨.opened, none, false, true⟩),
          (.error .closed, ⟨.opened, none, false, true⟩),
          (.error (.alreadyOpen "open"), ⟨.opened, none, false, true⟩)] :=
  ⟨career_strandedLife, rfl⟩

end CrashMarker
