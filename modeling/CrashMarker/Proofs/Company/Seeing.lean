/-
Module: CrashMarker.Proofs.Company.Seeing
Purpose: What a call does to the memory for the store that makes it, and for all the others.
Main exports: Action.handles, Sees, Memory.KeepsTo, Memory.Lasts, Sees.act, Sees.beside
-/
import CrashMarker.Proofs.Company.Scene
import CrashMarker.Proofs.Memory.Disturbed
import CrashMarker.Proofs.Memory.Served

namespace CrashMarker

open Memory (Calm)

/-- The handles that are open once an action has been answered. -/
def Action.handles : (action : Action) → action.Answer → List Handle → List Handle
  | .ask (.openFile _), .ok handle, handles => handle :: handles
  | .close handle, _, handles => handles.filter (· ≠ handle)
  | _, _, handles => handles

/-- What a store can rely on is so. -/
def Sees (path : Path) (lasting : Prop) (memory : Memory) : Scene → Prop
  | .away seen => lasting → seen = true → (memory.named path).isSome
  | .watching handle => ∃ object file, memory.Behind handle object file ∧ file.owner ≠ some handle ∧
      (lasting → memory.named path = some object)
  | .holding handle bytes => ∃ object, memory.Behind handle object ⟨bytes, some handle⟩ ∧
      (lasting → memory.named path = some object)
  | .astray => True

namespace Memory

/-- Whoever has done this has kept to these handles: every other handle stays open on its file, the lock
stays with whom it is, as far as another handle has it, and so do the bytes under that lock. -/
def KeepsTo (handles : List Handle) (memory after : Memory) : Prop :=
  ∀ handle object file, handle ∉ handles → memory.Behind handle object file →
    ∃ now, after.Behind handle object now ∧ (file.owner = some handle → now = file) ∧
      (file.owner ≠ some handle → now.owner ≠ some handle)

/-- At most one file has been made, which is the one at the path, and no file there has lost its name. -/
def MadeOnce (path : Path) (memory after : Memory) : Prop :=
  after.named path = memory.named path ∧ after.nextObject = memory.nextObject ∨
    memory.named path = none ∧ (after.named path).isSome ∧ after.nextObject = memory.nextObject + 1

/-- The file at the path is still the same, and it tells the same flags but for those that may be
touched. -/
structure Lasts (setting : Setting) (memory after : Memory) : Prop where
  names : memory.MadeOnce setting.path after
  told : setting.Spares (memory.contents setting.path) (after.contents setting.path)

variable {memory after : Memory} {setting : Setting} {handles : List Handle}

theorem keepsTo_refl (handles : List Handle) (memory : Memory) : memory.KeepsTo handles memory :=
  fun _ _ _ _ behind => ⟨_, behind, fun _ => rfl, id⟩

/-- A memory with the same tables has the same file at every path. -/
theorem lasts_of_same (names : after.names = memory.names)
    (objects : after.objects = memory.objects) (next : after.nextObject = memory.nextObject) :
    memory.Lasts setting after where
  names := by
    left
    constructor
    · rw [named, names, named]
    · exact next
  told := by
    intro flag _
    simp only [contents, file, named, names, objects]

theorem KeepsTo.counted (keeps : memory.KeepsTo handles after) (pace waits writes : Nat) :
    memory.KeepsTo handles (after.counted pace waits writes) := by
  intro handle object file strange behind
  obtain ⟨now, there, kept⟩ := keeps handle object file strange behind
  exact ⟨now, there.counted pace waits writes, kept⟩

theorem Lasts.counted (lasts : memory.Lasts setting after) (pace waits writes : Nat) :
    memory.Lasts setting (after.counted pace waits writes) :=
  ⟨lasts.names, lasts.told⟩

/-- Changing the file behind a handle, which nobody else has locked, keeps to that handle. -/
theorem keepsTo_updateObject {own : Handle} {object : ObjectId} {file : FileObject}
    {change : FileObject → FileObject} (behind : memory.Behind own object file)
    (before : file.owner = none ∨ file.owner = some own)
    (changed : (change file).owner = none ∨ (change file).owner = some own) :
    memory.KeepsTo [own] (memory.updateObject object change) := by
  intro handle other found strange beside
  have different : handle ≠ own := by
    rintro rfl
    exact strange List.mem_cons_self
  by_cases same : other = object
  · rw [same] at beside ⊢
    cases beside.there.symm.trans behind.there
    refine ⟨change file, ⟨beside.bound, ?_⟩, ?_, ?_⟩
    · simp [updateObject, Table.get?_update, behind.there]
    · intro owned
      rcases before with nobody | mine
      · cases nobody.symm.trans owned
      · cases mine.symm.trans owned
        exact absurd rfl different
    · intro _ owned
      rcases changed with nobody | mine
      · cases nobody.symm.trans owned
      · cases mine.symm.trans owned
        exact absurd rfl different
  · refine ⟨found, ⟨beside.bound, ?_⟩, fun _ => rfl, id⟩
    simp only [updateObject, Table.get?_update, if_neg same]
    exact beside.there

/-- Changing the file at the path lets it last if the change spares what it is to spare. -/
theorem lasts_updateObject {own : Handle} {object : ObjectId} {file : FileObject}
    {change : FileObject → FileObject} (behind : memory.Behind own object file)
    (named : memory.named setting.path = some object)
    (spares : setting.Spares (some file.bytes) (some (change file).bytes)) :
    memory.Lasts setting (memory.updateObject object change) where
  names := Or.inl ⟨rfl, rfl⟩
  told := by
    have before : memory.contents setting.path = some file.bytes := by
      simp [contents, Memory.file, named, behind.there]
    have changed : (memory.updateObject object change).contents setting.path =
        some (change file).bytes := by
      have still : (memory.updateObject object change).named setting.path = some object := named
      rw [contents, Memory.file, still, Option.bind_some]
      simp [updateObject, Table.get?_update, behind.there]
    rw [before, changed]
    exact spares

/-- Putting a file at a path touches no handle that is open. -/
theorem keepsTo_put (sound : memory.Sound) (path : Path) (bytes : List UInt8) :
    memory.KeepsTo handles (memory.put path bytes) := by
  intro handle object file _ behind
  refine ⟨file, ⟨behind.bound, ?_⟩, fun _ => rfl, id⟩
  have old : object ≠ ⟨memory.nextObject⟩ := by
    rintro rfl
    exact Nat.lt_irrefl _ (sound.numbered behind.there)
  rw [put, Table.get?_set_of_ne _ _ old]
  exact behind.there

theorem keepsTo_withHandle (sound : memory.Sound) (object : ObjectId) :
    memory.KeepsTo handles (memory.withHandle object) := by
  intro handle other file _ behind
  refine ⟨file, ⟨?_, behind.there⟩, fun _ => rfl, id⟩
  have old : handle ≠ ⟨memory.nextHandle⟩ := by
    rintro rfl
    exact Nat.lt_irrefl _ (sound.opened behind.bound).1
  rw [withHandle, Table.get?_set_of_ne _ _ old]
  exact behind.bound

theorem keepsTo_unlink (path : Path) : memory.KeepsTo handles (memory.unlink path) :=
  fun _ _ _ _ behind => ⟨_, ⟨behind.bound, behind.there⟩, fun _ => rfl, id⟩

/-- Closing a handle gives up no lock but its own. -/
theorem keepsTo_close {own : Handle} (mine : own ∈ handles) :
    memory.KeepsTo handles (memory.close own) := by
  intro handle other file strange behind
  have different : handle ≠ own := by
    rintro rfl
    exact strange mine
  unfold Memory.close
  cases bound : memory.handles.get? own with
  | none => exact ⟨file, behind, fun _ => rfl, id⟩
  | some object =>
    have still : (memory.handles.erase own).get? handle = some other := by
      rw [Table.get?_erase_of_ne _ different]
      exact behind.bound
    by_cases same : other = object
    · refine ⟨released own file, ⟨still, ?_⟩, ?_, ?_⟩
      · simp [updateObject, Table.get?_update, ← same, behind.there]
      · intro owned
        apply released_eq_self
        rw [owned]
        intro mine
        cases mine
        exact different rfl
      · intro free
        unfold released
        split
        · simp
        · exact free
    · refine ⟨file, ⟨still, ?_⟩, fun _ => rfl, id⟩
      simp only [updateObject, Table.get?_update, if_neg same]
      exact behind.there

/-- Closing a handle moves no file. -/
theorem lasts_close (handle : Handle) : memory.Lasts setting (memory.close handle) where
  names := by
    left
    unfold Memory.close
    split
    · exact ⟨rfl, rfl⟩
    · exact ⟨rfl, rfl⟩
  told := by
    intro flag _
    rw [contents_close]

/-- A new file tells what a missing one stands for. -/
theorem lasts_put (absent : memory.named setting.path = none) :
    memory.Lasts setting (memory.put setting.path []) where
  names := by
    refine Or.inr ⟨absent, ?_, rfl⟩
    simp [named, put]
  told := by
    intro flag _
    have before : memory.contents setting.path = none := by
      rw [contents, file, absent]
      rfl
    have after : (memory.put setting.path []).contents setting.path = some [] := by
      simp [contents, file, named, put]
    rw [before, after]
    rfl

/-- More may be touched. -/
theorem Lasts.widen {other : Setting} (lasts : memory.Lasts setting after)
    (same : other.path = setting.path)
    (more : ∀ flag, setting.touched flag → other.touched flag) : memory.Lasts other after where
  names := by
    rw [same]
    exact lasts.names
  told := by
    intro flag untouched
    rw [same]
    exact lasts.told flag fun touched => untouched (more flag touched)

/-- No more than one file has been made. -/
theorem MadeOnce.nextObject_le {path : Path} (names : memory.MadeOnce path after) :
    after.nextObject ≤ memory.nextObject + 1 := by
  rcases names with ⟨-, none⟩ | ⟨-, -, one⟩
  · omega
  · omega

/-- Where there was a file, no other has been made. -/
theorem MadeOnce.of_named {path : Path} (names : memory.MadeOnce path after) {object : ObjectId}
    (there : memory.named path = some object) :
    after.nextObject = memory.nextObject ∧ after.named path = some object := by
  rcases names with ⟨same, none⟩ | ⟨absent, -⟩
  · exact ⟨none, by rw [same, there]⟩
  · cases absent.symm.trans there

/-- If a file was made in the first part, none is made in the second. -/
theorem MadeOnce.trans {path : Path} {last : Memory} (first : memory.MadeOnce path after)
    (second : after.MadeOnce path last) : memory.MadeOnce path last := by
  rcases first with ⟨same, none⟩ | ⟨absent, made, one⟩
  · unfold MadeOnce at second ⊢
    rw [← same, ← none]
    exact second
  · rcases second with ⟨same, none⟩ | ⟨impossible, -⟩
    · rw [← same] at made
      exact Or.inr ⟨absent, made, by rw [none, one]⟩
    · rw [impossible] at made
      cases made

end Memory

/-! ## What others do -/

variable {path : Path} {lasting : Prop} {memory after : Memory} {scene : Scene}
  {handles : List Handle}

/-- What is seen does not depend on the pace. -/
theorem Sees.counted (sees : Sees path lasting memory scene) (pace waits writes : Nat) :
    Sees path lasting (memory.counted pace waits writes) scene := by
  cases scene with
  | away seen => exact sees
  | watching handle =>
    obtain ⟨object, file, behind, rest⟩ := sees
    exact ⟨object, file, behind.counted pace waits writes, rest⟩
  | holding handle bytes =>
    obtain ⟨object, behind, rest⟩ := sees
    exact ⟨object, behind.counted pace waits writes, rest⟩
  | astray => trivial

/-- A store that has not seen a file relies on nothing. -/
theorem sees_away_false : Sees path lasting memory (.away false) := by
  intro _ impossible
  cases impossible

/-- A store that sees a handle open has it open on a file. -/
theorem Sees.exists_behind (sees : Sees path lasting memory scene) {handle : Handle}
    (mine : handle ∈ scene.handles) : ∃ object file, memory.Behind handle object file := by
  cases scene with
  | away seen => cases mine
  | watching own =>
    cases List.mem_singleton.1 mine
    obtain ⟨object, file, behind, -⟩ := sees
    exact ⟨object, file, behind⟩
  | holding own bytes =>
    cases List.mem_singleton.1 mine
    obtain ⟨object, behind, -⟩ := sees
    exact ⟨object, _, behind⟩
  | astray => cases mine

/-- Where files last, what a store has open is the file at the path. -/
theorem Sees.named (sees : Sees path lasting memory scene) (lasts : lasting) {handle : Handle}
    {object : ObjectId} (mine : handle ∈ scene.handles)
    (bound : memory.handles.get? handle = some object) : memory.named path = some object := by
  cases scene with
  | away seen => cases mine
  | watching own =>
    cases List.mem_singleton.1 mine
    obtain ⟨found, file, behind, -, atPath⟩ := sees
    cases bound.symm.trans behind.bound
    exact atPath lasts
  | holding own bytes =>
    cases List.mem_singleton.1 mine
    obtain ⟨found, behind, atPath⟩ := sees
    cases bound.symm.trans behind.bound
    exact atPath lasts
  | astray => cases mine

/-- What others do with other handles changes nothing of what a store can rely on. -/
theorem Sees.beside (sees : Sees path lasting memory scene) (keeps : memory.KeepsTo handles after)
    (apart : ∀ handle, handle ∈ scene.handles → handle ∉ handles)
    (names : lasting → ∀ object, memory.named path = some object → after.named path = some object) :
    Sees path lasting after scene := by
  cases scene with
  | away seen =>
    intro lasts there
    obtain ⟨object, named⟩ := Option.isSome_iff_exists.1 (sees lasts there)
    rw [names lasts object named]
    rfl
  | watching own =>
    obtain ⟨object, file, behind, free, atPath⟩ := sees
    obtain ⟨now, there, -, kept⟩ := keeps _ _ _ (apart own List.mem_cons_self) behind
    exact ⟨object, now, there, kept free, fun lasts => names lasts _ (atPath lasts)⟩
  | holding own bytes =>
    obtain ⟨object, behind, atPath⟩ := sees
    obtain ⟨now, there, kept, -⟩ := keeps _ _ _ (apart own List.mem_cons_self) behind
    rw [kept rfl] at there
    exact ⟨object, there, fun lasts => names lasts _ (atPath lasts)⟩
  | astray => trivial

/-! ## What a store does itself -/

variable {setting : Setting}

/-- What an action of a store comes to: what the store can rely on afterwards, which handles it then has
open and on what, and that it has kept to its handles. -/
structure Goes (setting : Setting) (memory after : Memory) (scene : Scene) (action : Action)
    (answer : action.Answer) (next : Scene) : Prop where
  sees : Sees setting.path setting.lasting after next
  handles : next.handles = action.handles answer scene.handles
  new : ∀ handle, handle ∈ next.handles → handle ∈ scene.handles ∨ memory.handles.get? handle = none
  opens : ∀ handle, handle ∈ next.handles → ∃ object, after.handles.get? handle = some object ∧
    (after.named setting.path = some object ∨
      handle ∈ scene.handles ∧ memory.handles.get? handle = some object ∧
        after.named setting.path = memory.named setting.path)
  keeps : memory.KeepsTo scene.handles after
  lasts : setting.lasting → memory.Lasts setting after

theorem Goes.counted {next : Scene} {action : Action} {answer : action.Answer}
    (goes : Goes setting memory after scene action answer next) (pace waits writes : Nat) :
    Goes setting memory (after.counted pace waits writes) scene action answer next where
  sees := goes.sees.counted pace waits writes
  handles := goes.handles
  new := goes.new
  opens := goes.opens
  keeps := goes.keeps.counted pace waits writes
  lasts lasting := (goes.lasts lasting).counted pace waits writes

/-- An action that changes nothing of the files. -/
theorem goes_of_same {next : Scene} {action : Action} {answer : action.Answer}
    (sees : Sees setting.path setting.lasting memory next) (handles : next.handles = scene.handles)
    (same : action.handles answer scene.handles = scene.handles) :
    Goes setting memory memory scene action answer next where
  sees := sees
  handles := by rw [handles, same]
  new handle mine := by
    rw [handles] at mine
    exact Or.inl mine
  opens handle mine := by
    obtain ⟨object, file, behind⟩ := sees.exists_behind mine
    rw [handles] at mine
    exact ⟨object, behind.bound, Or.inr ⟨mine, behind.bound, rfl⟩⟩
  keeps := Memory.keepsTo_refl _ _
  lasts _ := Memory.lasts_of_same rfl rfl rfl

/-- An action after which nothing is open. -/
theorem goes_of_away {seen : Bool} {action : Action} {answer : action.Answer}
    (sees : Sees setting.path setting.lasting after (.away seen))
    (nothing : action.handles answer scene.handles = [])
    (keeps : memory.KeepsTo scene.handles after)
    (lasts : setting.lasting → memory.Lasts setting after) :
    Goes setting memory after scene action answer (.away seen) where
  sees := sees
  handles := nothing.symm
  new handle mine := by cases mine
  opens handle mine := by cases mine
  keeps := keeps
  lasts := lasts

/-- An action that changes the file behind the handle that is open. -/
theorem goes_of_update {next : Scene} {action : Action} {answer : action.Answer} {own : Handle}
    {object : ObjectId} {file : FileObject} {change : FileObject → FileObject}
    (behind : memory.Behind own object file)
    (before : file.owner = none ∨ file.owner = some own)
    (changed : (change file).owner = none ∨ (change file).owner = some own)
    (sees : Sees setting.path setting.lasting (memory.updateObject object change) next)
    (held : scene.handles = [own]) (holds : next.handles = [own])
    (same : action.handles answer [own] = [own])
    (atPath : setting.lasting → memory.named setting.path = some object)
    (spares : setting.Spares (some file.bytes) (some (change file).bytes)) :
    Goes setting memory (memory.updateObject object change) scene action answer next where
  sees := sees
  handles := by rw [holds, held, same]
  new handle mine := by
    rw [holds, ← held] at mine
    exact Or.inl mine
  opens handle mine := by
    rw [holds, ← held] at mine
    have same : handle = own := by
      rw [held] at mine
      exact List.mem_singleton.1 mine
    rw [same] at mine ⊢
    exact ⟨object, behind.bound, Or.inr ⟨mine, behind.bound, rfl⟩⟩
  keeps := by
    rw [held]
    exact Memory.keepsTo_updateObject behind before changed
  lasts lasting := Memory.lasts_updateObject behind (atPath lasting) spares

/-- Somebody else has the lock on the file at the path. -/
def Barred (setting : Setting) (memory : Memory) : Prop :=
  setting.lasting ∧ ∃ object file, memory.named setting.path = some object ∧
    memory.objects.get? object = some file ∧ file.owner.isSome

/-- The file behind a handle is one. -/
theorem Memory.Behind.unique {handle : Handle} {object other : ObjectId} {file found : FileObject}
    (behind : memory.Behind handle object file) (also : memory.Behind handle other found) :
    other = object ∧ found = file := by
  have same : other = object := by
    injection also.bound.symm.trans behind.bound
  subst same
  constructor
  · rfl
  · injection also.there.symm.trans behind.there

/-- A file is still behind its handle when it has changed. -/
theorem Memory.Behind.update {handle : Handle} {object : ObjectId} {file : FileObject}
    (behind : memory.Behind handle object file) (change : FileObject → FileObject) :
    (memory.updateObject object change).Behind handle object (change file) where
  bound := behind.bound
  there := by simp [Memory.updateObject, Table.get?_update, behind.there]

/-- A proper call goes through an open handle, if it goes through any. -/
theorem Scene.Proper.mem_handles {request : Request} {handle : Handle}
    (proper : scene.Proper setting request) (through : request.handle? = some handle) :
    handle ∈ scene.handles := by
  cases scene with
  | astray => exact proper.elim
  | away seen =>
    cases request <;> first | exact proper.elim | cases through
  | watching own =>
    cases request <;> first | exact proper.elim | (cases through; cases proper; simp [handles])
  | holding own bytes =>
    cases request
    case writeAt =>
      cases through
      cases proper.1
      simp [handles]
    all_goals first | exact proper.elim | (cases through; cases proper; simp [handles])

variable {request : Request} {answer : request.Answer}

/-- While nothing is open, a call is about the path. -/
theorem Sees.answered_away {seen : Bool} (sound : memory.Sound)
    (sees : Sees setting.path setting.lasting memory (.away seen))
    (proper : (Scene.away seen).Proper setting request)
    (served : memory.Served request answer after) :
    ∃ next, Amid setting request (.away seen) answer next ∧
      Goes setting memory after (.away seen) (.ask request) answer next := by
  cases served with
  | present path =>
    cases proper
    refine ⟨.away (memory.named setting.path).isSome, .present sees, ?_⟩
    exact goes_of_same (fun _ found => found) rfl rfl
  | taken named =>
    cases proper
    refine ⟨.away true, .taken, goes_of_same (fun _ _ => ?_) rfl rfl⟩
    rw [named]
    rfl
  | made absent =>
    cases proper
    have sees : Sees setting.path setting.lasting (memory.put setting.path []) (.away true) := by
      intro _ _
      simp [Memory.named, Memory.put]
    refine ⟨.away true, .made, goes_of_away sees rfl ?_ ?_⟩
    · exact Memory.keepsTo_put sound _ _
    · exact fun _ => Memory.lasts_put absent
  | missing absent => exact ⟨.away false, .missing, goes_of_same sees_away_false rfl rfl⟩
  | removed named =>
    refine ⟨.away false, .removed, goes_of_away sees_away_false rfl ?_ ?_⟩
    · exact Memory.keepsTo_unlink _
    · exact fun lasting => absurd lasting proper.2
  | nowhere absent =>
    cases proper
    refine ⟨.away false, .nowhere ?_, goes_of_same sees_away_false rfl rfl⟩
    intro lasting
    cases seen with
    | false => rfl
    | true =>
      have there := sees lasting rfl
      rw [absent] at there
      cases there
  | opened named =>
    cases proper
    refine ⟨.watching _, .opened, ?_, rfl, ?_, ?_, ?_, ?_⟩
    · obtain ⟨file, there⟩ := sound.named named
      refine ⟨_, file, ⟨Table.get?_set_self _ _ _, there⟩, ?_, fun _ => named⟩
      intro owned
      exact Nat.lt_irrefl _ (sound.opened (sound.owned there owned)).1
    · intro handle mine
      cases List.mem_singleton.1 mine
      exact Or.inr sound.fresh_handle
    · intro handle mine
      cases List.mem_singleton.1 mine
      exact ⟨_, Table.get?_set_self _ _ _, Or.inl named⟩
    · exact Memory.keepsTo_withHandle sound _
    · exact fun _ => Memory.lasts_of_same rfl rfl rfl
  | strange through => cases proper.mem_handles through
  | _ => exact proper.elim

/-- On a file that is open a store tries the lock, and it does not get it if somebody else has it. -/
theorem Sees.answered_watching {own : Handle}
    (sees : Sees setting.path setting.lasting memory (.watching own))
    (barred : setting.barred → Barred setting memory)
    (proper : (Scene.watching own).Proper setting request)
    (served : memory.Served request answer after) :
    ∃ next, Amid setting request (.watching own) answer next ∧
      Goes setting memory after (.watching own) (.ask request) answer next := by
  obtain ⟨object, file, behind, free, atPath⟩ := sees
  cases served with
  | @locked _ _ now found unowned =>
    cases proper
    obtain ⟨rfl, rfl⟩ := behind.unique found
    have openToAll : ¬ setting.barred := by
      intro bars
      obtain ⟨lasting, other, held, named, there, owned⟩ := barred bars
      cases named.symm.trans (atPath lasting)
      cases there.symm.trans behind.there
      rw [unowned] at owned
      cases owned
    refine ⟨.holding own now.bytes, .locked openToAll, ?_⟩
    exact goes_of_update behind (Or.inl unowned) (Or.inr rfl) ⟨_, behind.update _, atPath⟩ rfl rfl rfl
      atPath fun _ _ => rfl
  | @contended handle owner _ _ found owned =>
    cases proper
    obtain ⟨rfl, rfl⟩ := behind.unique found
    have other : owner ≠ own := by
      rintro rfl
      exact free owned
    have refused : decide (owner = own) = false := decide_eq_false other
    rw [refused]
    refine ⟨.watching own, .contended, goes_of_same ?_ rfl rfl⟩
    exact ⟨_, _, behind, free, atPath⟩
  | strange through nothing =>
    cases List.mem_singleton.1 (proper.mem_handles through)
    exact absurd behind (nothing object file)
  | _ => exact proper.elim

/-- A file under the lock is as it was left, and what is written to it spares what it is to spare. -/
theorem Sees.answered_holding {own : Handle} {bytes : List UInt8}
    (sees : Sees setting.path setting.lasting memory (.holding own bytes))
    (proper : (Scene.holding own bytes).Proper setting request)
    (served : memory.Served request answer after) :
    ∃ next, Amid setting request (.holding own bytes) answer next ∧
      Goes setting memory after (.holding own bytes) (.ask request) answer next := by
  obtain ⟨object, behind, atPath⟩ := sees
  have still : Sees setting.path setting.lasting memory (.holding own bytes) := ⟨object, behind, atPath⟩
  cases served with
  | readLater =>
    cases proper
    exact ⟨_, .readLater, goes_of_same still rfl rfl⟩
  | read found some bound =>
    cases proper
    obtain ⟨rfl, rfl⟩ := behind.unique found
    exact ⟨_, .read some bound, goes_of_same still rfl rfl⟩
  | writeLater =>
    cases proper.1
    exact ⟨_, .writeLater, goes_of_same still rfl rfl⟩
  | wroteNothing empty =>
    obtain ⟨-, nonempty, -⟩ := proper
    rw [empty] at nonempty
    cases nonempty
  | wrote found some bound =>
    obtain ⟨rfl, nonempty, spares⟩ := proper
    obtain ⟨rfl, rfl⟩ := behind.unique found
    refine ⟨.holding _ _, .wrote some bound, ?_⟩
    exact goes_of_update behind (Or.inr rfl) (Or.inr rfl) ⟨_, behind.update _, atPath⟩ rfl rfl rfl
      atPath (spares _ bound)
  | size found =>
    cases proper
    obtain ⟨rfl, rfl⟩ := behind.unique found
    exact ⟨_, .size, goes_of_same still rfl rfl⟩
  | sync =>
    cases proper
    exact ⟨_, .sync, goes_of_same still rfl rfl⟩
  | unlocked found =>
    cases proper
    obtain ⟨rfl, rfl⟩ := behind.unique found
    have unowned : (Memory.released own ⟨bytes, some own⟩).owner = none := by
      simp [Memory.released]
    have free : (Memory.released own ⟨bytes, some own⟩).owner ≠ some own := by
      simp [unowned]
    have spares : setting.Spares (some bytes)
        (some (Memory.released own ⟨bytes, some own⟩).bytes) := by
      rw [Memory.bytes_released]
      exact fun _ _ => rfl
    refine ⟨.watching own, .unlocked, ?_⟩
    exact goes_of_update behind (Or.inr rfl) (Or.inl unowned) ⟨_, _, behind.update _, free, atPath⟩
      rfl rfl rfl atPath spares
  | strange through nothing =>
    cases List.mem_singleton.1 (proper.mem_handles through)
    exact absurd behind (nothing object _)
  | _ => exact proper.elim

/-- Every answer to a call is one that the store has to reckon with. -/
theorem Sees.answered (sound : memory.Sound) (sees : Sees setting.path setting.lasting memory scene)
    (barred : setting.barred → Barred setting memory)
    (served : memory.Served request answer after) :
    ∃ next, Amid setting request scene answer next ∧
      (next.Sane → Goes setting memory after scene (.ask request) answer next) := by
  by_cases proper : scene.Proper setting request
  · cases scene with
    | away seen =>
      obtain ⟨next, amid, goes⟩ := sees.answered_away sound proper served
      exact ⟨next, amid, fun _ => goes⟩
    | watching own =>
      obtain ⟨next, amid, goes⟩ := sees.answered_watching barred proper served
      exact ⟨next, amid, fun _ => goes⟩
    | holding own bytes =>
      obtain ⟨next, amid, goes⟩ := sees.answered_holding proper served
      exact ⟨next, amid, fun _ => goes⟩
    | astray => exact proper.elim
  · exact ⟨.astray, .strays proper, fun sane => absurd rfl sane⟩

/-- Closing the handle that is open leads away from the file, which stays where it is. -/
theorem Sees.closed (sees : Sees setting.path setting.lasting memory scene) {handle : Handle}
    (sane : (scene.close handle).Sane) :
    Goes setting memory (memory.close handle) scene (.close handle) () (scene.close handle) := by
  have lasts : memory.Lasts setting (memory.close handle) := Memory.lasts_close handle
  have only := Scene.handles_of_sane_close sane
  have mine : handle ∈ scene.handles := by
    rw [only]
    exact List.mem_cons_self
  have away : Sees setting.path setting.lasting (memory.close handle) (.away true) := by
    intro lasting _
    obtain ⟨object, file, behind⟩ := sees.exists_behind mine
    have named := sees.named lasting mine behind.bound
    rw [(lasts.names.of_named named).2]
    rfl
  have left : scene.close handle = .away true := if_pos only
  rw [left]
  apply goes_of_away away
  · rw [only]
    simp [Action.handles]
  · exact Memory.keepsTo_close mine
  · exact fun _ => lasts

/-- A call that is not asked to fail leaves a memory in order. -/
theorem Memory.Orderly.act {world after : World Memory} {action : Action} {answer : action.Answer}
    (orderly : world.storage.Orderly) (allowed : action.Allowed Calm world answer after) :
    after.storage.Orderly := by
  cases action with
  | ask request =>
    obtain ⟨storage, answered, rfl⟩ := allowed
    exact answered.orderly orderly
  | close handle =>
    cases allowed
    exact orderly.close handle
  | _ =>
    cases allowed
    exact orderly

/-- Whatever a store does, what comes of it is what it has to reckon with. -/
theorem Sees.act {world after : World Memory} {action : Action} {answer : action.Answer}
    (orderly : world.storage.Orderly) (sees : Sees setting.path setting.lasting world.storage scene)
    (barred : setting.barred → Barred setting world.storage)
    (allowed : action.Allowed Calm world answer after) :
    ∃ next, action.Allowed (Amid setting) (world.on scene) answer (after.on next) ∧
      (next.Sane → Goes setting world.storage after.storage scene action answer next) := by
  cases action with
  | ask request =>
    obtain ⟨storage, answered, rfl⟩ := allowed
    obtain ⟨left, pace, waits, writes, served, rfl⟩ := answered.served_of_quiet orderly.quiet
    obtain ⟨next, amid, goes⟩ := sees.answered orderly.sound barred served
    exact ⟨next, ⟨next, amid, rfl⟩, fun sane => (goes sane).counted pace waits writes⟩
  | close handle =>
    cases allowed
    exact ⟨scene.close handle, rfl, sees.closed⟩
  | _ =>
    cases allowed
    exact ⟨scene, rfl, fun _ => goes_of_same sees rfl rfl⟩

end CrashMarker
