/-
Module: CrashMarker.Proofs.Company.Operations
Purpose: What each operation on a store comes to while others use the same memory.
Main exports:
  Idle, upholds_openMarker_amid, upholds_create_amid, upholds_closeMarker_amid,
  upholds_transition_amid, Abides, Operation.Fits, Operation.Comes, Operation.upholds_amid
-/
import CrashMarker.Proofs.Company.Scene
import CrashMarker.Proofs.Operations

namespace CrashMarker

/-!
Between its operations a store either has nothing open, or it has its marker open under the lock and
knows what the file tells.  Each operation leads from one of these to one of these, whatever others do
between its calls, and it makes no call that they do not reckon with.
-/

variable {setting : Setting} {target : Target} {handle : Handle} {lifecycle : Lifecycle}
  {world : World Scene}

/-- A store between two operations: either it has let go of everything, or it has its marker open. -/
inductive Idle (world : World Scene) : Prop where
  | waits {seen : Bool} (storage : world.storage = .away seen)
      (notOpen : world.lifecycle.state ≠ .opened) (letGo : world.lifecycle.handle = none)
  | holds {handle : Handle} {bytes : List UInt8} (storage : world.storage = .holding handle bytes)
      (lifecycle : world.lifecycle = ⟨.opened, some handle, true, true⟩) (long : 2 ≤ bytes.length)
      (told : Record.loaded (some bytes) = world.cached)

/-! ## Parts -/

/-- The lock is taken unless somebody else has it. -/
theorem upholds_acquireLock_amid (locking : target.config.fileLock = true)
    (watching : world.storage = .watching handle) :
    (target.acquireLock handle).Upholds (Amid setting) Scene.Sane lifecycle world
      fun outcome left after => left = lifecycle ∧
        ((outcome = .ok true ∧ ¬ setting.barred ∧ ∃ bytes, after.storage = .holding handle bytes) ∨
          outcome = .error (.locked target.path) ∧ after.storage = .watching handle) := by
  unfold Target.acquireLock
  simp only [locking]
  apply Guarded.upholds_bind
  apply Guarded.upholds_call
  rw [watching]
  intro answer after answered
  cases answered with
  | locked free =>
    refine ⟨Scene.sane_holding _ _, Guarded.upholds_pure ⟨rfl, Or.inl ⟨rfl, free, _, rfl⟩⟩⟩
  | contended =>
    refine ⟨Scene.sane_watching _, Guarded.upholds_bind (Guarded.upholds_emit ?_)⟩
    exact Guarded.upholds_throw ⟨rfl, Or.inr ⟨rfl, rfl⟩⟩
  | strays improper => exact absurd rfl improper

/-- The lock comes first of what is done with a marker that has been opened, and a store that does not
get it closes its handle. -/
theorem upholds_locking_amid {next : Bool → Guarded Unit}
    {ends : Except StoreError Unit → Lifecycle → World Scene → Prop}
    (locking : target.config.fileLock = true) (watching : world.storage = .watching handle)
    (locked : ∀ after : World Scene, after.storage = .away true →
      ends (.error (.locked target.path)) lifecycle after)
    (taken : ∀ (after : World Scene) bytes, after.storage = .holding handle bytes →
      ¬ setting.barred → (next true).Upholds (Amid setting) Scene.Sane lifecycle after
        fun outcome left last => outcome = .ok () ∧ ends outcome left last) :
    (Guarded.closingOnFailure handle (target.acquireLock handle >>= next)).Upholds (Amid setting)
      Scene.Sane lifecycle world ends := by
  apply Guarded.upholds_closing
  apply Guarded.upholds_bind
  apply (upholds_acquireLock_amid locking watching).mono
  rintro outcome left after _ ⟨rfl, ⟨rfl, free, bytes, holding⟩ | ⟨rfl, refused⟩⟩
  · apply (taken after bytes holding free).mono
    rintro outcome left last _ ⟨rfl, reached⟩
    exact reached
  · have closed : Storage.close handle after.storage = .away true := by
      rw [refused]
      simp
    simp only [closed]
    exact ⟨Scene.sane_away true, locked _ rfl⟩

/-- Where nobody ever removes a file, a file that is made at the path stays for the store to open. -/
theorem upholds_ensurePresent_amid {seen : Bool} (here : target.path = setting.path)
    (away : world.storage = .away seen) :
    target.ensurePresent.Upholds (Amid setting) Scene.Sane lifecycle world
      fun outcome left after => left = { lifecycle with associated := left.associated } ∧
        outcome = .ok () ∧ after.storage = .away true := by
  unfold Target.ensurePresent
  apply Guarded.upholds_bind
  apply Guarded.upholds_call
  rw [away]
  intro answer after answered
  cases answered with
  | @present _ _ found sure =>
    refine ⟨Scene.sane_away _, ?_⟩
    cases found with
    | true => exact Guarded.upholds_pure ⟨rfl, rfl, rfl⟩
    | false =>
      apply Guarded.upholds_bind
      apply Guarded.upholds_ask
      intro answer after answered
      cases answered with
      | taken => exact ⟨Scene.sane_away _, Guarded.upholds_pure ⟨rfl, rfl, rfl⟩⟩
      | made => exact ⟨Scene.sane_away _, Guarded.upholds_modify ⟨rfl, rfl, rfl⟩⟩
      | strays improper => exact absurd here improper
  | strays improper => exact absurd here improper

/-- Whatever bytes the store finds behind its lock, it makes a marker of them, and what they tell stays
as it is. -/
theorem upholds_normalize_amid {bytes : List UInt8} (holding : world.storage = .holding handle bytes) :
    (target.normalize handle).Upholds (Amid setting) Scene.Sane lifecycle world
      fun outcome left after => left = lifecycle ∧ ∃ now, after.storage = .holding handle now ∧
        2 ≤ now.length ∧ outcome = .ok (Record.loaded (some now)) := by
  have serves : Serves (Amid setting)
      (fun scene => ∃ now, scene = .holding handle now ∧
        Record.loaded (some now) = Record.loaded (some bytes))
      handle (fun _ => False) (fun bytes scene => scene = .holding handle bytes)
      fun now => Record.loaded (some now) = Record.loaded (some bytes) := by
    apply Amid.serves
    · intro now same
      exact ⟨now, rfl, same⟩
    · intro before after same also flag _
      rw [same, also]
  apply Guarded.Upholds.widen
  · apply (serves.upholds_normalize target rfl holding).mono
    rintro outcome left after ⟨shown, there, same⟩ ⟨rfl, _, now, here, ⟨rfl, long⟩ |
      ⟨_, _, impossible, _⟩⟩
    · have one : shown = now := by injection there.symm.trans here
      rw [one] at same
      exact ⟨rfl, now, here, long, by rw [same]⟩
    · exact impossible.elim
  · exact ⟨bytes, holding, rfl⟩
  · rintro scene ⟨now, rfl, _⟩
    exact Scene.sane_holding _ _

/-! ## Setting up -/

/-- Opening a marker fails only because somebody else has the lock, if files are never removed. -/
theorem upholds_openMarker_amid {seen : Bool} (here : target.path = setting.path)
    (locking : target.config.fileLock = true) (notOpen : world.lifecycle.state ≠ .opened)
    (letGo : world.lifecycle.handle = none) (away : world.storage = .away seen) :
    target.openMarker.Upholds (Amid setting) Scene.Sane world fun outcome after =>
      Idle after ∧ (setting.lasting → ∀ error, outcome = .error error →
        error = .locked target.path) := by
  unfold Target.openMarker
  apply Guarded.upholds_script
  refine Guarded.upholds_bind (Guarded.upholds_ensureNotOpen (absurd · notOpen) fun _ => ?_)
  apply Guarded.upholds_bind
  apply (upholds_ensurePresent_amid here away).mono
  rintro outcome left middle _ ⟨lifecycle, rfl, there⟩
  have state : left.state ≠ .opened := by
    rw [lifecycle]
    exact notOpen
  have nothing : left.handle = none := by
    rw [lifecycle]
    exact letGo
  apply Guarded.upholds_bind
  apply Guarded.upholds_call
  rw [there]
  intro answer after answered
  cases answered with
  | nowhere unsure =>
    refine ⟨Scene.sane_away _, .waits rfl state nothing, ?_⟩
    intro lasting
    cases unsure lasting
  | opened =>
    refine ⟨Scene.sane_watching _, upholds_locking_amid locking rfl ?_ ?_⟩
    · intro after closed
      refine ⟨.waits closed state nothing, ?_⟩
      rintro lasting error refused
      cases refused
      rfl
    · intro after bytes holding free
      apply Guarded.upholds_bind
      apply (upholds_normalize_amid holding).mono
      rintro outcome left last _ ⟨rfl, now, held, long, rfl⟩
      apply Guarded.upholds_bind
      apply upholds_publish
      apply Guarded.upholds_bind
      apply Guarded.upholds_set
      apply Guarded.upholds_emit
      exact ⟨rfl, .holds held rfl long rfl, nofun⟩
  | strays improper => exact absurd here improper

/-- Who finds the lock free may remove the file afterwards, but where somebody else has the lock all the
time nobody finds it free. -/
theorem upholds_probeLock_amid {seen : Bool} (here : target.path = setting.path)
    (away : world.storage = .away seen)
    (guarded : setting.lasting → setting.barred ∧ seen = true) :
    target.probeLock.Upholds (Amid setting) Scene.Sane lifecycle world fun outcome left after =>
      left = lifecycle ∧ (∃ seen, after.storage = .away seen) ∧
        (outcome = .ok () ∧ ¬ setting.lasting ∨ outcome = .error (.locked target.path)) := by
  unfold Target.probeLock
  apply Guarded.upholds_bind
  apply Guarded.upholds_ask
  rw [away]
  intro answer after answered
  cases answered with
  | nowhere unsure =>
    have passing : ¬ setting.lasting := by
      intro lasting
      cases (unsure lasting).symm.trans (guarded lasting).2
    exact ⟨Scene.sane_away _, Guarded.upholds_emit ⟨rfl, ⟨_, rfl⟩, Or.inl ⟨rfl, passing⟩⟩⟩
  | @opened _ _ handle =>
    refine ⟨Scene.sane_watching _, Guarded.upholds_bind (Guarded.upholds_closing ?_)⟩
    apply Guarded.upholds_bind
    apply Guarded.upholds_ask
    intro answer after answered
    cases answered with
    | locked free =>
      have passing : ¬ setting.lasting := fun lasting => free (guarded lasting).1
      refine ⟨Scene.sane_holding _ _, Guarded.upholds_bind (Guarded.upholds_ask ?_)⟩
      intro answer after answered
      cases answered with
      | unlocked =>
        refine ⟨Scene.sane_watching _, Guarded.upholds_pure (Guarded.upholds_lift ?_)⟩
        apply Script.upholds_close
        · simp
        · exact ⟨rfl, ⟨true, by simp⟩, Or.inl ⟨rfl, passing⟩⟩
      | strays improper => exact absurd rfl improper
    | contended =>
      refine ⟨Scene.sane_watching _, Guarded.upholds_bind (Guarded.upholds_emit ?_)⟩
      apply Guarded.upholds_throw
      simp
    | strays improper => exact absurd rfl improper
  | strays improper => exact absurd here improper

/-- Clearing the path gets no further than the lock that somebody else has all the time. -/
theorem upholds_clear_amid {seen : Bool} (here : target.path = setting.path)
    (locking : target.config.fileLock = true) (away : world.storage = .away seen)
    (guarded : setting.lasting → setting.barred ∧ seen = true) :
    target.clear.Upholds (Amid setting) Scene.Sane lifecycle world fun outcome left after =>
      left = lifecycle ∧ (∃ seen, after.storage = .away seen) ∧
        (¬ setting.lasting ∨ outcome = .error (.locked target.path)) := by
  unfold Target.clear
  simp only [locking, if_true]
  apply Guarded.upholds_bind
  apply Guarded.upholds_call
  rw [away]
  intro answer after answered
  cases answered with
  | @present _ _ found sure =>
    refine ⟨Scene.sane_away _, ?_⟩
    have still : setting.lasting → setting.barred ∧ found = true := by
      intro lasting
      exact ⟨(guarded lasting).1, sure lasting (guarded lasting).2⟩
    cases found with
    | false =>
      refine Guarded.upholds_pure ⟨rfl, ⟨_, rfl⟩, Or.inl ?_⟩
      intro lasting
      cases (still lasting).2
    | true =>
      apply Guarded.upholds_bind
      apply (upholds_probeLock_amid here rfl still).mono
      rintro outcome left middle _ ⟨rfl, ⟨now, there⟩, ⟨rfl, passing⟩ | rfl⟩
      · unfold Target.removeOld
        apply Guarded.upholds_bind
        apply Guarded.upholds_ask
        rw [there]
        intro answer after answered
        cases answered with
        | missing =>
          exact ⟨Scene.sane_away _, Guarded.upholds_throw ⟨rfl, ⟨_, rfl⟩, Or.inl passing⟩⟩
        | removed =>
          exact ⟨Scene.sane_away _, Guarded.upholds_pure ⟨rfl, ⟨_, rfl⟩, Or.inl passing⟩⟩
        | strays improper => exact absurd ⟨here, passing⟩ improper
      · exact ⟨rfl, ⟨now, there⟩, Or.inr rfl⟩
  | strays improper => exact absurd here improper

/-- A new marker is open under the lock, or else nothing is open.  Others may have been faster. -/
theorem upholds_make_amid {seen : Bool} (here : target.path = setting.path)
    (locking : target.config.fileLock = true) (writes : ∀ flag, setting.touched flag)
    (notOpen : lifecycle.state ≠ .opened) (letGo : lifecycle.handle = none)
    (away : world.storage = .away seen) :
    target.make.Upholds (Amid setting) Scene.Sane lifecycle world fun _ left after =>
      Idle { after with lifecycle := left } := by
  unfold Target.make
  apply Guarded.upholds_bind
  apply Guarded.upholds_ask
  rw [away]
  intro answer after answered
  cases answered with
  | taken => exact ⟨Scene.sane_away _, Guarded.upholds_throw (.waits rfl notOpen letGo)⟩
  | made =>
    refine ⟨Scene.sane_away _, Guarded.upholds_bind (Guarded.upholds_modify ?_)⟩
    apply Guarded.upholds_bind
    apply Guarded.upholds_call
    intro answer after answered
    cases answered with
    | nowhere => exact ⟨Scene.sane_away _, .waits rfl notOpen letGo⟩
    | @opened _ _ handle =>
      refine ⟨Scene.sane_watching _, upholds_locking_amid locking rfl ?_ ?_⟩
      · intro after closed
        exact .waits closed notOpen letGo
      · intro after bytes holding free
        have serves : Serves (Amid setting) Scene.Sane handle (fun _ => False)
            (fun bytes scene => scene = .holding handle bytes) fun _ => True :=
          Amid.serves (fun _ => Scene.sane_holding _ _)
            fun _ _ flag untouched => absurd (writes flag) untouched
        apply Guarded.upholds_bind
        apply (serves.upholds_persist target (fun _ => trivial) holding).mono
        rintro outcome left last _ ⟨rfl, -, ⟨rfl, written⟩ | ⟨⟨_, _, impossible, _⟩, _⟩⟩
        · apply Guarded.upholds_bind
          apply upholds_publish
          apply Guarded.upholds_bind
          apply Guarded.upholds_set
          apply Guarded.upholds_emit
          exact ⟨rfl, .holds written rfl (Record.two_le_length_overlay _ _)
            (Record.loaded_overlay_encode _ _)⟩
        · exact impossible.elim
    | strays improper => exact absurd here improper
  | strays improper => exact absurd here improper

/-- Creating a marker gets no further than the lock that somebody else has all the time. -/
theorem upholds_create_amid {seen : Bool} (here : target.path = setting.path)
    (locking : target.config.fileLock = true) (writes : ∀ flag, setting.touched flag)
    (notOpen : world.lifecycle.state ≠ .opened) (letGo : world.lifecycle.handle = none)
    (away : world.storage = .away seen)
    (guarded : setting.lasting → setting.barred ∧ seen = true) :
    target.create.Upholds (Amid setting) Scene.Sane world fun outcome after =>
      Idle after ∧ (setting.lasting → outcome = .error (.locked target.path)) := by
  rw [Target.create_eq]
  apply Guarded.upholds_script
  refine Guarded.upholds_bind (Guarded.upholds_ensureNotOpen (absurd · notOpen) fun _ => ?_)
  apply Guarded.upholds_bind
  apply (upholds_clear_amid here locking away guarded).mono
  rintro outcome left middle _ ⟨rfl, ⟨now, there⟩, passing | rfl⟩
  · cases outcome with
    | ok done =>
      apply (upholds_make_amid here locking writes notOpen letGo there).mono
      intro outcome left after _ idle
      exact ⟨idle, (absurd · passing)⟩
    | error error => exact ⟨.waits there notOpen letGo, (absurd · passing)⟩
  · exact ⟨.waits there notOpen letGo, fun _ => rfl⟩

/-! ## Letting go -/

theorem upholds_closeMarker_amid {bytes : List UInt8}
    (opened : world.lifecycle = ⟨.opened, some handle, true, true⟩)
    (holding : world.storage = .holding handle bytes) :
    target.closeMarker.Upholds (Amid setting) Scene.Sane world fun _ after => Idle after := by
  unfold Target.closeMarker
  apply Guarded.upholds_script
  apply Guarded.upholds_bind
  apply Guarded.upholds_get
  simp only [opened]
  apply Guarded.upholds_bind
  apply Guarded.upholds_set
  apply Guarded.upholds_bind
  unfold Target.letGo
  apply Guarded.upholds_bind
  apply Guarded.upholds_closing
  apply Guarded.upholds_call
  rw [holding]
  intro answer after answered
  cases answered with
  | unlocked =>
    refine ⟨Scene.sane_watching _, Guarded.upholds_lift ?_⟩
    apply Script.upholds_close
    · simp
    · have closed : Storage.close handle (Scene.watching handle) = .away true :=
        Scene.close_watching handle
      exact Guarded.upholds_emit (.waits closed nofun rfl)
  | strays improper => exact absurd rfl improper

/-! ## Changing a flag -/

/-- Changing a flag spares the other flag, and the marker stays in hand meanwhile. -/
theorem upholds_transition_amid {bytes : List UInt8} {flag : Flag} {value : Bool}
    (writes : setting.touched flag)
    (opened : world.lifecycle = ⟨.opened, some handle, true, true⟩)
    (holding : world.storage = .holding handle bytes) (long : 2 ≤ bytes.length)
    (told : Record.loaded (some bytes) = world.cached) :
    (target.transition flag value).Upholds (Amid setting)
      (fun scene => ∃ now, scene = .holding handle now) world fun outcome after =>
        Idle after ∧ outcome = .ok () ∧ after.cached = world.cached.set flag value := by
  by_cases changes : world.cached.get flag = value
  · apply (upholds_transition_idle changes).mono
    rintro outcome after _ ⟨rfl, rfl⟩
    refine ⟨.holds holding opened long told, rfl, ?_⟩
    rw [← changes, Record.set_get]
  · unfold Target.transition
    apply Script.upholds_bind
    apply Script.upholds_load
    rw [if_neg changes]
    apply Guarded.upholds_script
    apply Guarded.upholds_bind
    apply Guarded.upholds_lift
    apply Script.upholds_load
    simp only [if_neg changes]
    apply Guarded.upholds_bind
    apply Guarded.upholds_get
    simp only [opened]
    apply Guarded.upholds_bind
    apply Guarded.upholds_lift
    apply Script.upholds_load
    apply Guarded.upholds_bind
    apply Guarded.upholds_lift
    apply Script.upholds_load
    apply Guarded.upholds_bind
    have serves : Serves (Amid setting) (fun scene => ∃ now, scene = .holding handle now) handle
        (fun _ => False) (fun bytes scene => scene = .holding handle bytes)
        fun now => ∀ other, other ≠ flag →
          (Record.loaded (some now)).get other = (world.cached.set flag value).get other := by
      apply Amid.serves
      · intro now _
        exact ⟨now, rfl⟩
      · intro before after same also other untouched
        have different : other ≠ flag := by
          rintro rfl
          exact untouched writes
        rw [also other different, same other different]
    have prefixes : ∀ laid, ∀ other, other ≠ flag →
        (Record.loaded (some (overlay bytes 0
          ((world.cached.set flag value).encode.take laid)))).get other =
            (world.cached.set flag value).get other := by
      intro laid other different
      apply (safeToWrite_get (world.cached.set flag value) other).prefixes
      rw [told, Record.get_set_of_ne _ _ different]
    apply (serves.upholds_persist target prefixes holding).mono
    rintro outcome left after _ ⟨rfl, cached, ⟨rfl, written⟩ | ⟨⟨_, _, impossible, _⟩, _⟩⟩
    · apply Guarded.upholds_bind
      apply Guarded.upholds_lift
      apply Script.upholds_store
      have told : Record.loaded (some (overlay bytes 0 (world.cached.set flag value).encode)) =
          after.cached.set flag value := by
        rw [cached]
        exact Record.loaded_overlay_encode _ _
      apply Guarded.upholds_emit
      refine ⟨.holds written rfl (Record.two_le_length_overlay _ _) told, rfl, ?_⟩
      rw [cached]
    · exact impossible.elim

/-! ## All operations -/

/-- How far an operation gets at most: it makes no call that the others do not reckon with, and a marker
that was open stays in hand unless it is to be closed. -/
structure Abides (operation : Operation) (start scene : Scene) : Prop where
  sane : scene.Sane
  stays : operation ≠ .closeMarker → ∀ handle bytes, start = .holding handle bytes →
    ∃ now, scene = .holding handle now

/-- When an operation may be begun.  Deleting takes the file away whoever has it, and replacing it can
only be told of where files do not last, or where somebody else has the lock. -/
structure Operation.Fits (operation : Operation) (setting : Setting) (world : World Scene) : Prop where
  spares : operation ≠ .delete
  changes : ∀ flag value, operation = .transition flag value → world.lifecycle.state = .opened →
    setting.touched flag
  replaces : operation = .create → ∀ flag, setting.touched flag
  guarded : operation = .create → setting.lasting →
    setting.barred ∧ ∀ seen, world.storage = .away seen → seen = true

/-- What an operation comes to: the store is between operations again.  If it had its marker open, it has
changed its flag; if it had not and files last, it can fail to open or to create one only because somebody
else has the lock. -/
structure Operation.Comes (operation : Operation) (setting : Setting) (target : Target)
    (before : World Scene) (outcome : Except StoreError Unit) (after : World Scene) : Prop where
  idle : Idle after
  opens : operation = .openMarker → before.lifecycle.state ≠ .opened → setting.lasting →
    ∀ error, outcome = .error error → error = .locked target.path
  creates : operation = .create → before.lifecycle.state ≠ .opened → setting.lasting →
    outcome = .error (.locked target.path)
  changes : ∀ flag value, operation = .transition flag value → before.lifecycle.state = .opened →
    outcome = .ok () ∧ after.cached = before.cached.set flag value

/-- A store that is away has nothing in hand that would have to stay there. -/
theorem abides_of_away {operation : Operation} {seen : Bool} {scene : Scene} (sane : scene.Sane) :
    Abides operation (.away seen) scene where
  sane := sane
  stays := by
    intro _ handle bytes impossible
    cases impossible

/-- A store with its marker in hand may change what it says. -/
theorem abides_of_holding {operation : Operation} {handle : Handle} {bytes now : List UInt8} :
    Abides operation (.holding handle bytes) (.holding handle now) where
  sane := Scene.sane_holding _ _
  stays := by
    rintro _ other bytes same
    cases same
    exact ⟨now, rfl⟩

/-- An idle store may stay where it is, whatever it is asked to do. -/
theorem Idle.abides (idle : Idle world) (operation : Operation) :
    Abides operation world.storage world.storage := by
  cases idle with
  | waits away =>
    rw [away]
    exact abides_of_away (Scene.sane_away _)
  | holds holding =>
    rw [holding]
    exact abides_of_holding

/-- A store that has nothing open gets its marker or is refused, and has nothing to change or to let go
of. -/
theorem Operation.upholds_amid_waiting {operation : Operation} {seen : Bool}
    (here : target.path = setting.path) (locking : target.config.fileLock = true)
    (fits : operation.Fits setting world) (away : world.storage = .away seen)
    (notOpen : world.lifecycle.state ≠ .opened) (letGo : world.lifecycle.handle = none) :
    (operation.script target).Upholds (Amid setting) (Abides operation (.away seen)) world
      (operation.Comes setting target world) := by
  have sane : world.storage.Sane := by
    rw [away]
    exact Scene.sane_away seen
  cases operation with
  | create =>
    have guarded : setting.lasting → setting.barred ∧ seen = true := by
      intro lasting
      exact (fits.guarded rfl lasting).imp_right fun same => same seen away
    apply Script.Upholds.widen _ sane fun _ => abides_of_away
    apply (upholds_create_amid here locking (fits.replaces rfl) notOpen letGo away guarded).mono
    rintro outcome after _ ⟨idle, refused⟩
    exact ⟨idle, nofun, fun _ _ => refused, nofun⟩
  | openMarker =>
    apply Script.Upholds.widen _ sane fun _ => abides_of_away
    apply (upholds_openMarker_amid here locking notOpen letGo away).mono
    rintro outcome after _ ⟨idle, refused⟩
    exact ⟨idle, fun _ _ => refused, nofun, nofun⟩
  | closeMarker =>
    apply (upholds_closeMarker_idle letGo).mono
    rintro outcome after _ ⟨-, rfl⟩
    exact ⟨.waits away notOpen letGo, nofun, nofun, nofun⟩
  | delete => exact absurd rfl fits.spares
  | transition flag value =>
    by_cases same : world.cached.get flag = value
    · apply (upholds_transition_idle same).mono
      rintro outcome after _ ⟨-, rfl⟩
      exact ⟨.waits away notOpen letGo, nofun, nofun, fun _ _ _ opened => absurd opened notOpen⟩
    · apply (upholds_transition_refused same letGo).mono
      rintro outcome after _ ⟨-, rfl⟩
      exact ⟨.waits away notOpen letGo, nofun, nofun, fun _ _ _ opened => absurd opened notOpen⟩

/-- A store that has its marker open keeps it, unless it is to close it. -/
theorem Operation.upholds_amid_holding {operation : Operation} {bytes : List UInt8}
    (fits : operation.Fits setting world) (holding : world.storage = .holding handle bytes)
    (lifecycle : world.lifecycle = ⟨.opened, some handle, true, true⟩) (long : 2 ≤ bytes.length)
    (told : Record.loaded (some bytes) = world.cached) :
    (operation.script target).Upholds (Amid setting) (Abides operation (.holding handle bytes)) world
      (operation.Comes setting target world) := by
  have opened : world.lifecycle.state = .opened := by rw [lifecycle]
  cases operation with
  | create =>
    apply (upholds_create_refused opened).mono
    rintro outcome after _ ⟨-, rfl⟩
    exact ⟨.holds holding lifecycle long told, nofun, fun _ notOpen => absurd opened notOpen, nofun⟩
  | openMarker =>
    apply (upholds_openMarker_refused opened).mono
    rintro outcome after _ ⟨-, rfl⟩
    exact ⟨.holds holding lifecycle long told, fun _ notOpen => absurd opened notOpen, nofun, nofun⟩
  | closeMarker =>
    have sane : world.storage.Sane := by
      rw [holding]
      exact Scene.sane_holding _ _
    have wide : ∀ scene : Scene, scene.Sane → Abides .closeMarker (.holding handle bytes) scene := by
      intro scene sane
      exact ⟨sane, fun keeps => absurd rfl keeps⟩
    apply Script.Upholds.widen _ sane wide
    apply (upholds_closeMarker_amid lifecycle holding).mono
    rintro outcome after _ idle
    exact ⟨idle, nofun, nofun, nofun⟩
  | delete => exact absurd rfl fits.spares
  | transition flag value =>
    have writes := fits.changes flag value rfl opened
    have wide : ∀ scene : Scene, (∃ now, scene = .holding handle now) →
        Abides (.transition flag value) (.holding handle bytes) scene := by
      rintro scene ⟨now, rfl⟩
      exact abides_of_holding
    apply Script.Upholds.widen _ ⟨bytes, holding⟩ wide
    apply (upholds_transition_amid writes lifecycle holding long told).mono
    rintro outcome after _ ⟨idle, done, changed⟩
    refine ⟨idle, nofun, nofun, ?_⟩
    rintro _ _ same _
    cases same
    exact ⟨done, changed⟩

/-- From one idle moment to the next, whatever others do meanwhile. -/
theorem Operation.upholds_amid {operation : Operation} (here : target.path = setting.path)
    (locking : target.config.fileLock = true) (fits : operation.Fits setting world)
    (idle : Idle world) :
    (operation.script target).Upholds (Amid setting) (Abides operation world.storage) world
      (operation.Comes setting target world) := by
  cases idle with
  | waits away notOpen letGo =>
    rw [away]
    exact upholds_amid_waiting here locking fits away notOpen letGo
  | holds holding lifecycle long told =>
    rw [holding]
    exact upholds_amid_holding fits holding lifecycle long told

end CrashMarker
