/-
Module: CrashMarker.Proofs.Displacement
Purpose: When creating a marker takes it away from a store that has it open, and when it does not.
Main exports:
  Crowd.Sparing, Crowd.Beset, Crowd.Considerate, Crowd.create_respects_lock_if_considerate,
  Crowd.create_displaces_live_marker
-/
import CrashMarker.Proofs.Company.Crowd

namespace CrashMarker

/-!
Before it removes the file in its way, creating a marker takes the lock on that file, to see that nobody
else has it, and gives the lock up again.  Between that and the removal another store may open the file and
take the lock.  Its file is then removed all the same, and the store that creates the marker makes and locks
another one.  The probe helps against a lock that somebody has all the time, and against nothing else: what
is needed beyond it is that nobody else has the file open when it is removed.
-/

namespace Crowd

variable {ι : Type} [DecidableEq ι] {path : Path} {start crowd after : Crowd ι} {scenes : ι → Scene}
  {scene : Scene} {actor : ι}

/-- Operations of stores that do not delete their marker, though they may replace it. -/
def Sparing (operation : Operation) : Prop := operation ≠ .delete

instance : DecidablePred Sparing := fun operation =>
  inferInstanceAs (Decidable (operation ≠ .delete))

/-- A store that spares its marker moves the crowd as any store does. -/
theorem Accounted.moves (accounted : crowd.Accounted path False scenes)
    (step : Step Sparing crowd actor after) :
    ∃ scene, Moves path False crowd scenes actor after scene :=
  accounted.step (fun _ spares => spares) False.elim step

/-! ## While somebody has the lock -/

/-- The file at the path is this one, and somebody has its lock. -/
def Beset (path : Path) (object : ObjectId) (crowd : Crowd ι) : Prop :=
  crowd.memory.named path = some object ∧ crowd.memory.isLocked path = true

instance (object : ObjectId) : DecidablePred (Beset (ι := ι) path object) := fun crowd =>
  inferInstanceAs (Decidable (crowd.memory.named path = some object ∧
    crowd.memory.isLocked path = true))

omit [DecidableEq ι] in
/-- A beset file is there, and somebody has its lock. -/
theorem Beset.exists_owned {object : ObjectId} (beset : crowd.Beset path object) :
    ∃ file, crowd.memory.objects.get? object = some file ∧ file.owner.isSome := by
  obtain ⟨named, locked⟩ := beset
  unfold Memory.isLocked Memory.file at locked
  rw [named, Option.bind_some] at locked
  split at locked
  next file there => exact ⟨file, there, locked⟩
  next => cases locked

/-- A store that has seen the file at the path, and can rely on that somebody else has its lock. -/
structure Excluded (path : Path) (crowd : Crowd ι) (creator : ι) (scene : Scene) : Prop where
  account : Account True True (crowd.processes creator) scene
  sees : Sees path True crowd.memory scene

omit [DecidableEq ι] in
/-- A store that waits knows that there is a file, since somebody has its lock. -/
theorem Beset.excluded {object : ObjectId} {creator : ι} (beset : crowd.Beset path object)
    (locking : (crowd.processes creator).store.target.config.fileLock)
    (idle : (crowd.processes creator).running = none)
    (handles : (crowd.processes creator).handles = [])
    (notOpen : (crowd.processes creator).store.lifecycle.state ≠ .opened)
    (letGo : (crowd.processes creator).store.lifecycle.handle = none) :
    crowd.Excluded path creator (.away true) where
  account := by
    refine ⟨locking, handles, fun _ => .waits rfl notOpen letGo, ?_⟩
    intro running runs
    cases idle.symm.trans runs
  sees := by
    intro _ _
    rw [beset.1]
    rfl

/-- What the others do makes no difference to the store. -/
theorem Excluded.beside {object : ObjectId} {creator : ι}
    (excluded : crowd.Excluded path creator scene) (accounted : crowd.Accounted path False scenes)
    (beset : crowd.Beset path object) (still : after.Beset path object) (different : creator ≠ actor)
    (step : Step Sparing crowd actor after) : after.Excluded path creator scene := by
  obtain ⟨other, moves⟩ := accounted.moves step
  have unchanged := moves.others creator different
  constructor
  · rw [unchanged]
    exact excluded.account
  · apply excluded.sees.beside moves.keeps
    · intro handle mine theirs
      rw [← excluded.account.handles, (accounted.accounts creator).handles] at mine
      exact different (accounted.apart _ _ _ mine theirs)
    · intro _ found there
      rw [still.1, ← beset.1, there]

/-- What the store does itself leads no further than the lock of somebody else. -/
theorem Excluded.act {object : ObjectId} {creator : ι} (excluded : crowd.Excluded path creator scene)
    (accounted : crowd.Accounted path False scenes) (beset : crowd.Beset path object)
    (step : Step Sparing crowd creator after) : ∃ next, after.Excluded path creator next := by
  have account := excluded.account
  have here := accounted.paths creator
  cases step with
  | @begins operation idle allowed =>
    obtain ⟨known, again, sure⟩ : ∃ known, crowd.Excluded path creator known ∧
        ∀ seen, known = .away seen → seen = true := by
      have waiting := account.idle idle
      cases waiting with
      | @waits seen away notOpen letGo =>
        have nothing : (crowd.processes creator).handles = [] := by
          rw [account.handles]
          exact congrArg Scene.handles away
        refine ⟨.away true, beset.excluded account.locking idle nothing notOpen letGo, ?_⟩
        rintro other same
        cases same
        rfl
      | holds holding =>
        refine ⟨scene, excluded, ?_⟩
        intro other same
        cases holding.symm.trans same
    refine ⟨known, ?_, again.sees⟩
    rw [put_self]
    exact again.account.begin idle allowed fun _ _ => ⟨trivial, sure⟩
  | finishes runs finished =>
    refine ⟨scene, ?_, excluded.sees⟩
    rw [put_self]
    exact account.finish runs finished
  | acts runs acting allowed =>
    obtain ⟨file, there, owned⟩ := beset.exists_owned
    have named := beset.1
    rw [← here] at named
    obtain ⟨reached, further, goes⟩ :=
      account.act here runs acting allowed accounted.orderly excluded.sees
        fun _ => ⟨trivial, object, file, named, there, owned⟩
    refine ⟨reached, ?_, ?_⟩
    · rw [put_self]
      exact further
    · rw [← here]
      exact goes.sees
  | crashes =>
    refine ⟨.away false, ?_, nofun⟩
    rw [put_self]
    exact account_fresh account.locking

/-- As long as somebody has the lock on the file at the path, a store that waits is kept out. -/
theorem Steps.excluded {object : ObjectId} {creator : ι}
    (excluded : crowd.Excluded path creator scene) (accounted : crowd.Accounted path False scenes)
    (beset : crowd.Beset path object) {later : Crowd ι}
    (steps : Steps (fun before actor after => Step Sparing before actor after ∧
      after.Beset path object) crowd later) :
    ∃ next others, later.Excluded path creator next ∧ later.Accounted path False others ∧
      later.Beset path object := by
  induction steps with
  | here => exact ⟨scene, scenes, excluded, accounted, beset⟩
  | @on middle last actor before step inductionHypothesis =>
    obtain ⟨now, others, out, told, held⟩ := inductionHypothesis
    obtain ⟨step, still⟩ := step
    obtain ⟨other, moves⟩ := told.moves step
    by_cases same : creator = actor
    · subst same
      obtain ⟨next, further⟩ := out.act told held step
      exact ⟨next, _, further, moves.accounted, still⟩
    · exact ⟨now, _, out.beside told held still same step, moves.accounted, still⟩

omit [DecidableEq ι] in
/-- Creating a marker does not remove the file, and fails. -/
theorem Excluded.refused {creator : ι} {running : Running}
    (excluded : crowd.Excluded path creator scene)
    (here : (crowd.processes creator).store.target.path = path)
    (runs : (crowd.processes creator).running = some running)
    (creates : running.operation = .create) :
    (∀ next, running.rest.head ≠ .acting (.ask (.remove path)) next) ∧
    ∀ outcome, (crowd.processes creator).store.lifecycle.state ≠ .opened →
      running.rest = .done outcome → outcome = .error (.locked path) := by
  have account := excluded.account
  constructor
  · intro next acting
    have proper := account.proper runs acting
    cases scene with
    | away seen => exact proper.2 trivial
    | _ => exact proper
  · intro outcome notOpen finished
    obtain ⟨start, -, -, -, ends⟩ := (account.underway running runs).reached account.locking
    rw [← here]
    exact (ends outcome finished).creates creates notOpen trivial

/-! ## While nobody else has the file open when it is removed -/

/-- No store takes the file at the path away while another one has it open. -/
def Considerate (path : Path) (crowd : Crowd ι) (actor : ι) (after : Crowd ι) : Prop :=
  ∀ other handle object, other ≠ actor → handle ∈ (crowd.processes other).handles →
    crowd.memory.handles.get? handle = some object → crowd.memory.named path = some object →
    after.memory.named path = some object

/-- Where nobody takes away the file of another, every open store keeps the file at the path. -/
theorem Attached.step (attached : crowd.Attached path) (accounted : crowd.Accounted path False scenes)
    (considerate : crowd.Considerate path actor after)
    (moves : Moves path False crowd scenes actor after scene) : after.Attached path := by
  intro index handle object mine bound
  by_cases same : index = actor
  · rw [same, (moves.accounted.accounts actor).handles, place_self] at mine
    obtain ⟨other, there, named | ⟨old, before, names⟩⟩ := moves.opens handle mine
    · cases bound.symm.trans there
      exact named
    · cases bound.symm.trans there
      rw [names]
      rw [← (accounted.accounts actor).handles] at old
      exact attached actor handle object old before
  · rw [moves.others index same] at mine
    have theirs := mine
    rw [(accounted.accounts index).handles] at theirs
    obtain ⟨found, file, behind⟩ := (accounted.sees index).exists_behind theirs
    have apart : handle ∉ (scenes actor).handles :=
      fun own => same (accounted.apart _ _ _ theirs own)
    obtain ⟨now, there, -⟩ := moves.keeps handle found file apart behind
    cases bound.symm.trans there.bound
    have named := attached index handle object mine behind.bound
    exact considerate index handle object same mine behind.bound named

/-- So it is along every interleaving of stores that spare each other. -/
theorem Steps.attached (starts : start.Starts path)
    (steps : Steps (fun before actor after => Step Sparing before actor after ∧
      before.Considerate path actor after) start crowd) :
    ∃ scenes, crowd.Accounted path False scenes ∧ crowd.Attached path := by
  induction steps with
  | here =>
    refine ⟨_, starts.accounted, ?_⟩
    intro index handle object mine
    obtain ⟨config, -, fresh⟩ := starts.fresh index
    rw [fresh] at mine
    cases mine
  | on _ step inductionHypothesis =>
    obtain ⟨scenes, accounted, attached⟩ := inductionHypothesis
    obtain ⟨step, considerate⟩ := step
    obtain ⟨scene, moves⟩ := accounted.moves step
    exact ⟨_, moves.accounted, attached.step accounted considerate moves⟩

/-! ## Along every interleaving -/

/-- Stores that create, open, change and close one marker, or vanish at any moment.  However their calls
are interleaved, an open store has the lock on the file it has open, and no two open stores have the same
file.  While somebody has the lock on the file at the path, from before a store begins to create the marker
until it comes to an end of that, the store does not remove the file and is refused.  And if no store
removes the file while another one has it open, then at most one store is open at a time, and it has the
lock on the file at the path. -/
theorem create_respects_lock_if_considerate (starts : start.Starts path)
    (steps : Steps (Step Sparing) start crowd) :
    (∀ holder, (crowd.processes holder).isOpen →
      ∃ handle object file, (crowd.processes holder).handles = [handle] ∧
        crowd.memory.Behind handle object file ∧ file.owner = some handle) ∧
    (∀ first second handle other object, (crowd.processes first).isOpen →
      (crowd.processes second).isOpen → handle ∈ (crowd.processes first).handles →
      other ∈ (crowd.processes second).handles → crowd.memory.handles.get? handle = some object →
      crowd.memory.handles.get? other = some object → first = second) ∧
    (∀ creator object, (crowd.processes creator).running = none →
      (crowd.processes creator).store.lifecycle.state ≠ .opened → crowd.Beset path object →
      ∀ later, Steps (fun before actor after => Step Sparing before actor after ∧
          after.Beset path object) crowd later →
        ∀ running, (later.processes creator).running = some running →
          running.operation = .create →
          (∀ next, running.rest.head ≠ .acting (.ask (.remove path)) next) ∧
          ∀ outcome, (later.processes creator).store.lifecycle.state ≠ .opened →
            running.rest = .done outcome → outcome = .error (.locked path)) ∧
    (Steps (fun before actor after => Step Sparing before actor after ∧
        before.Considerate path actor after) start crowd →
      (∀ first second, (crowd.processes first).isOpen → (crowd.processes second).isOpen →
        first = second) ∧
      ∀ holder, (crowd.processes holder).isOpen →
        ∃ handle file, (crowd.processes holder).handles = [handle] ∧
          crowd.memory.InHand path handle file ∧ file.owner = some handle) := by
  obtain ⟨scenes, accounted⟩ := steps.accounted starts (fun _ spares => spares) False.elim
    (fun _ _ _ step => step)
  refine ⟨?_, ?_, ?_, ?_⟩
  · intro holder opened
    obtain ⟨handle, object, bytes, -, only, behind⟩ := accounted.behind_of_isOpen opened
    exact ⟨handle, object, _, only, behind, rfl⟩
  · intro first second handle other object opened also mine theirs bound alsoBound
    exact accounted.eq_of_same_file opened also mine theirs bound alsoBound
  · intro creator object idle notOpen beset later onward running runs creates
    have account := accounted.accounts creator
    have excluded : crowd.Excluded path creator (.away true) := by
      cases account.idle idle with
      | waits away _ letGo =>
        have nothing : (crowd.processes creator).handles = [] := by
          rw [account.handles]
          exact congrArg Scene.handles away
        exact beset.excluded account.locking idle nothing notOpen letGo
      | holds _ opened => exact absurd (congrArg Lifecycle.state opened) notOpen
    obtain ⟨next, others, out, told, -⟩ := onward.excluded excluded accounted beset
    exact out.refused (told.paths creator) runs creates
  · intro considerate
    obtain ⟨others, told, attached⟩ := considerate.attached starts
    constructor
    · intro first second opened also
      exact attached.one_open told opened also
    · intro holder opened
      obtain ⟨handle, bytes, -, only, inHand⟩ := attached.inHand told opened
      exact ⟨handle, _, only, inHand, rfl⟩

/-! ## Two stores, one of them in the way -/

/-- A store has the marker open. -/
def occupied : Crowd Bool := (turns true .openMarker 12).foldl Crowd.move (couple (some [1, 0]))

/-- Another store has tried to create it. -/
def keptOut : Crowd Bool := (turns false .create 7).foldl Crowd.move occupied

/-- The lock is taken all the while, and so the store that is to create the marker is refused. -/
theorem create_respects_lock_if_considerate_kept_out :
    (occupied.processes true).isOpen ∧
    ∃ running outcome, (keptOut.processes false).running = some running ∧
      running.operation = .create ∧ running.rest = .done outcome ∧
      outcome = .error (.locked ⟨"marker"⟩) := by
  have steps : Steps (Step Sparing) (couple (some [1, 0])) occupied := steps_moves _ (by decide)
  have onward : Steps (fun before actor after => Step Sparing before actor after ∧
      after.Beset ⟨"marker"⟩ ⟨0⟩) occupied keptOut :=
    steps_moves_keeping _ (by decide) (by decide) .here
  obtain ⟨running, outcome, runs, creates, finished⟩ : ∃ running outcome,
      (keptOut.processes false).running = some running ∧ running.operation = .create ∧
        running.rest = .done outcome := ⟨_, _, rfl, rfl, rfl⟩
  obtain ⟨-, -, refused, -⟩ := create_respects_lock_if_considerate (starts_couple _) steps
  obtain ⟨-, ends⟩ :=
    refused false ⟨0⟩ rfl nofun ⟨rfl, rfl⟩ keptOut onward running runs creates
  exact ⟨rfl, running, outcome, runs, creates, finished, ends outcome nofun finished⟩

/-- A store that is to create the marker has seen that nobody has the lock, and then another store opens
the file. -/
def overtaken : Crowd Bool :=
  (turns true .create 6 ++ turns false .openMarker 12).foldl Crowd.move (couple (some [1, 0]))

/-- The store that is to create the marker goes on. -/
def displaced : Crowd Bool := (List.replicate 16 (true, none)).foldl Crowd.move overtaken

/-- The file is open and locked when it is removed, and in the end both stores are open and say that they
have the lock. -/
theorem create_displaces_live_marker :
    (couple (some [1, 0])).Starts ⟨"marker"⟩ ∧
    Steps (Step Sparing) (couple (some [1, 0])) overtaken ∧
    (overtaken.processes false).isOpen ∧ overtaken.memory.isLocked ⟨"marker"⟩ = true ∧
    (∃ running next, (overtaken.processes true).running = some running ∧
      running.operation = .create ∧
      running.rest.head = .acting (.ask (.remove ⟨"marker"⟩)) next) ∧
    (overtaken.move (true, none)).memory.contents ⟨"marker"⟩ = none ∧
    Steps (Step Sparing) overtaken displaced ∧
    ∀ index, (displaced.processes index).isOpen ∧
      (displaced.processes index).store.lifecycle.locked = true := by
  refine ⟨starts_couple _, steps_moves _ (by decide), rfl, rfl, ⟨_, _, rfl, rfl, rfl⟩, rfl,
    steps_moves _ (by decide), ?_⟩
  intro index
  cases index with
  | false => exact ⟨rfl, rfl⟩
  | true => exact ⟨rfl, rfl⟩

end Crowd

end CrashMarker
