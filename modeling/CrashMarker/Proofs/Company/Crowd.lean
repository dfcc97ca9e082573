/-
Module: CrashMarker.Proofs.Company.Crowd
Purpose: Stores that take the actions of their operations in turns, in any order.
Main exports:
  Process, Process.isOpen, Crowd, Crowd.Step, Crowd.Steps, Crowd.Accounted, Accounted.step, Steps.accounted,
  Crowd.Attached
-/
import CrashMarker.Proofs.Atomicity
import CrashMarker.Proofs.Commands
import CrashMarker.Proofs.Company.Operations
import CrashMarker.Proofs.Company.Seeing

namespace CrashMarker

open Memory (Calm)

/-! ## Stores in the midst of their operations -/

/-- An operation that has been begun: the actions it has taken, what is left of it, and what is private to
it. -/
structure Running where
  operation : Operation
  taken : List Taken
  rest : Script (Except StoreError Unit)
  now : World Unit

/-- A store as its last operation has left it, the handles it has open, and the operation it is in the
midst of. -/
structure Process where
  store : Store
  handles : List Handle := []
  running : Option Running := none

namespace Process

def fresh (target : Target) : Process := { store := .fresh target }

def begin (process : Process) (operation : Operation) : Process :=
  { process with
    running := some ⟨operation, [], operation.script process.store.target, process.store.world ()⟩ }

/-- The operation takes an action, and this is what is left of it and private to it afterwards. -/
def act (process : Process) (running : Running) (taken : Taken)
    (rest : Script (Except StoreError Unit)) (now : World Unit) : Process :=
  { process with
    handles := taken.action.handles taken.answer process.handles
    running := some { running with taken := running.taken ++ [taken], rest, now } }

def finish (process : Process) (running : Running) : Process :=
  { process with store := process.store.after running.now, running := none }

/-- Whether the store is open.  In the midst of an operation it is as it was before, but a store that is to
let go of its marker is no longer open once it has the mutex, and an operation that has come to its end
counts. -/
def isOpen (process : Process) : Prop :=
  match process.running with
  | none => process.store.lifecycle.state = .opened
  | some running =>
    (process.store.lifecycle.state = .opened ∧
      (running.operation = .closeMarker ∨ running.operation = .delete → running.taken = [])) ∨
    ((∃ outcome, running.rest = .done outcome) ∧ running.now.lifecycle.state = .opened)

end Process

/-- Stores that use the same memory. -/
structure Crowd (ι : Type) where
  processes : ι → Process
  memory : Memory

namespace Crowd

variable {ι : Type} [DecidableEq ι]

/-- The crowd with one process and the memory changed. -/
def put (crowd : Crowd ι) (actor : ι) (process : Process) (memory : Memory) : Crowd ι where
  processes other := if other = actor then process else crowd.processes other
  memory := memory

/-- What one store may do next: begin an operation, take the next action of the one it is in the midst of,
come to the end of it, or vanish, which closes its handles. -/
inductive Step (may : Operation → Prop) (crowd : Crowd ι) (actor : ι) : Crowd ι → Prop where
  | begins {operation : Operation} (idle : (crowd.processes actor).running = none)
      (allowed : may operation) :
      Step may crowd actor
        (crowd.put actor ((crowd.processes actor).begin operation) crowd.memory)
  | acts {running : Running} {action : Action}
      {next : action.Answer → Script (Except StoreError Unit)} {answer : action.Answer}
      {after : World Memory} (runs : (crowd.processes actor).running = some running)
      (acting : running.rest.head = .acting action next)
      (allowed : action.Allowed Calm (running.now.on crowd.memory) answer after) :
      Step may crowd actor
        (crowd.put actor
          ((crowd.processes actor).act running ⟨action, answer⟩ (next answer) (after.on ()))
          after.storage)
  | finishes {running : Running} {outcome : Except StoreError Unit}
      (runs : (crowd.processes actor).running = some running)
      (finished : running.rest = .done outcome) :
      Step may crowd actor
        (crowd.put actor ((crowd.processes actor).finish running) crowd.memory)
  | crashes :
      Step may crowd actor
        (crowd.put actor (.fresh (crowd.processes actor).store.target)
          (crowd.memory.closeAll (crowd.processes actor).handles))

/-- So many steps, each as the rule allows. -/
inductive Steps (rule : Crowd ι → ι → Crowd ι → Prop) (start : Crowd ι) : Crowd ι → Prop where
  | here : Steps rule start start
  | on {middle last : Crowd ι} {actor : ι} (before : Steps rule start middle)
      (step : rule middle actor last) : Steps rule start last

/-- New stores that lock the same marker, which is missing or holds any bytes. -/
structure Starts (path : Path) (crowd : Crowd ι) : Prop where
  fresh : ∀ index, ∃ config : Config, config.fileLock = true ∧
    crowd.processes index = .fresh ⟨path, config⟩
  atRest : ∃ content : Option (List UInt8),
    crowd.memory.AtRest path (content.map fun bytes => { bytes })

end Crowd

/-! ## One process accounted for -/

/-- What the others have to reckon with while the store is in the midst of an operation. -/
def Store.setting (store : Store) (lasting barred : Prop) (operation : Operation) : Setting where
  path := store.target.path
  lasting := lasting
  barred := barred
  touched flag := operation = .create ∨
    store.lifecycle.state = .opened ∧ ∃ value, operation = .transition flag value

/-- How the operation of a store has got to where it is, from what the store could rely on when it was
idle to what it can rely on now. -/
structure Underway (lasting barred : Prop) (store : Store) (running : Running) (scene : Scene) :
    Prop where
  known : running.operation ≠ .delete
  begun : ∃ start, Idle (store.world start) ∧
    (running.operation = .create → lasting → barred ∧ ∀ seen, start = .away seen → seen = true) ∧
    Script.Passes (Amid (store.setting lasting barred running.operation))
      (running.operation.script store.target) (store.world start) running.taken running.rest
      (running.now.on scene)

/-- Where a process is, seen from the store. -/
structure Account (lasting barred : Prop) (process : Process) (scene : Scene) : Prop where
  locking : process.store.target.config.fileLock = true
  handles : process.handles = scene.handles
  idle : process.running = none → Idle (process.store.world scene)
  underway : ∀ running, process.running = some running →
    Underway lasting barred process.store running scene

variable {lasting barred : Prop} {process : Process} {store : Store} {running : Running}
  {scene : Scene}

/-- What an operation has kept to on its way, and what it has come to if this is its end. -/
theorem Underway.reached (underway : Underway lasting barred store running scene)
    (locking : store.target.config.fileLock = true) :
    ∃ start, Idle (store.world start) ∧ (running.taken = [] → scene = start) ∧
      Abides running.operation start scene ∧
      ∀ outcome, running.rest = .done outcome →
        running.operation.Comes (store.setting lasting barred running.operation) store.target
          (store.world start) outcome (running.now.on scene) := by
  obtain ⟨start, idle, guarded, passes⟩ := underway.begun
  have fits : running.operation.Fits (store.setting lasting barred running.operation)
      (store.world start) := by
    constructor
    · exact underway.known
    · intro flag value same opened
      exact Or.inr ⟨opened, value, same⟩
    · intro creates flag
      exact Or.inl creates
    · exact guarded
  have upholds : (running.operation.script store.target).Upholds
      (Amid (store.setting lasting barred running.operation)) (Abides running.operation start)
      (store.world start)
      (running.operation.Comes (store.setting lasting barred running.operation) store.target
        (store.world start)) :=
    Operation.upholds_amid rfl locking fits idle
  obtain ⟨abides, ends⟩ := upholds (idle.abides running.operation) passes
  refine ⟨start, idle, ?_, abides, ends⟩
  intro none
  rw [none] at passes
  exact congrArg World.storage passes.eq_of_nil.2

/-- A process that is accounted for makes the calls that the others reckon with. -/
theorem Account.sane (account : Account lasting barred process scene) : scene.Sane := by
  cases look : process.running with
  | none => exact ((account.idle look).abides .create).sane
  | some running =>
    obtain ⟨start, -, -, abides, -⟩ := (account.underway running look).reached account.locking
    exact abides.sane

/-- An idle store that says it is open has its marker in hand. -/
theorem Idle.holding_of_opened {world : World Scene} (idle : Idle world)
    (opened : world.lifecycle.state = .opened) :
    ∃ handle bytes, world.storage = .holding handle bytes := by
  cases idle with
  | waits _ notOpen => exact absurd opened notOpen
  | holds holding => exact ⟨_, _, holding⟩

/-- An open store has its file under the lock. -/
theorem Account.holding_of_isOpen (account : Account lasting barred process scene)
    (opened : process.isOpen) : ∃ handle bytes, scene = .holding handle bytes := by
  unfold Process.isOpen at opened
  cases look : process.running with
  | none =>
    rw [look] at opened
    exact (account.idle look).holding_of_opened opened
  | some running =>
    rw [look] at opened
    have underway := account.underway running look
    obtain ⟨start, idle, unmoved, abides, ends⟩ := underway.reached account.locking
    rcases opened with ⟨opened, waiting⟩ | ⟨⟨outcome, finished⟩, opened⟩
    · obtain ⟨handle, bytes, held⟩ := idle.holding_of_opened opened
      by_cases letsGo : running.operation = .closeMarker
      · rw [unmoved (waiting (Or.inl letsGo))]
        exact ⟨handle, bytes, held⟩
      · obtain ⟨now, still⟩ := abides.stays letsGo handle bytes held
        exact ⟨handle, now, still⟩
    · exact (ends outcome finished).idle.holding_of_opened opened

/-! ## What becomes of an account -/

/-- A new store accounts for itself: it is away and has seen nothing. -/
theorem account_fresh {target : Target} (locking : target.config.fileLock = true) :
    Account lasting barred (.fresh target) (.away false) where
  locking := locking
  handles := rfl
  idle _ := .waits rfl nofun rfl
  underway := by
    intro running runs
    cases runs

/-- A store may begin an operation from where it is. -/
theorem Account.begin {operation : Operation} (account : Account lasting barred process scene)
    (idle : process.running = none) (known : operation ≠ .delete)
    (guarded : operation = .create → lasting → barred ∧ ∀ seen, scene = .away seen → seen = true) :
    Account lasting barred (process.begin operation) scene where
  locking := account.locking
  handles := account.handles
  idle := nofun
  underway := by
    rintro running same
    cases same
    exact ⟨known, scene, account.idle idle, guarded, .here _ _⟩

theorem Account.finish {outcome : Except StoreError Unit}
    (account : Account lasting barred process scene) (runs : process.running = some running)
    (finished : running.rest = .done outcome) :
    Account lasting barred (process.finish running) scene where
  locking := account.locking
  handles := account.handles
  idle _ := by
    obtain ⟨start, -, -, -, ends⟩ := (account.underway running runs).reached account.locking
    cases (ends outcome finished).idle with
    | waits away notOpen letGo => exact .waits away notOpen letGo
    | holds holding opened long told => exact .holds holding opened long told
  underway := by
    intro running runs
    cases runs

/-- The next action of an operation keeps to what the others reckon with. -/
theorem Account.act {path : Path} {memory : Memory} {action : Action}
    {next : action.Answer → Script (Except StoreError Unit)} {answer : action.Answer}
    {after : World Memory} (account : Account lasting barred process scene)
    (here : process.store.target.path = path) (runs : process.running = some running)
    (acting : running.rest.head = .acting action next)
    (allowed : action.Allowed Calm (running.now.on memory) answer after)
    (orderly : memory.Orderly) (sees : Sees path lasting memory scene)
    (guarded : barred → Barred (process.store.setting lasting barred running.operation) memory) :
    ∃ reached,
      Account lasting barred
        (process.act running ⟨action, answer⟩ (next answer) (after.on ())) reached ∧
      Goes (process.store.setting lasting barred running.operation) memory after.storage scene action
        answer reached := by
  subst here
  have underway := account.underway running runs
  have seen : Sees (process.store.setting lasting barred running.operation).path
      (process.store.setting lasting barred running.operation).lasting
      (running.now.on memory).storage scene := sees
  obtain ⟨reached, may, goes⟩ := seen.act orderly guarded allowed
  have further : Underway lasting barred process.store
      { running with taken := running.taken ++ [⟨action, answer⟩], rest := next answer
                     now := after.on () } reached := by
    obtain ⟨start, idle, begun, passes⟩ := underway.begun
    refine ⟨underway.known, start, idle, begun, ?_⟩
    exact passes.trans (.step acting may (.here _ _))
  obtain ⟨start, -, -, abides, -⟩ := further.reached account.locking
  have goes := goes abides.sane
  refine ⟨reached, ⟨account.locking, ?_, nofun, ?_⟩, goes⟩
  · rw [goes.handles, ← account.handles]
    rfl
  · intro other same
    cases same
    exact further

/-- The next call of an operation is one that the others reckon with, whatever the answer will be. -/
theorem Account.proper {request : Request}
    {next : (Action.ask request).Answer → Script (Except StoreError Unit)}
    (account : Account lasting barred process scene) (runs : process.running = some running)
    (acting : running.rest.head = .acting (.ask request) next) :
    scene.Proper (process.store.setting lasting barred running.operation) request := by
  have underway := account.underway running runs
  apply Classical.byContradiction
  intro improper
  have answer : (Action.ask request).Answer := .error Memory.badHandle
  have strayed : Underway lasting barred process.store
      { running with taken := running.taken ++ [⟨.ask request, answer⟩], rest := next answer }
      .astray := by
    obtain ⟨start, idle, begun, passes⟩ := underway.begun
    refine ⟨underway.known, start, idle, begun, ?_⟩
    exact passes.trans (.step acting ⟨.astray, .strays improper, rfl⟩ (.here _ _))
  obtain ⟨start, -, -, abides, -⟩ := strayed.reached account.locking
  exact abides.sane rfl

/-! ## All processes accounted for -/

/-- Closing what a store has open comes to closing one handle at most. -/
theorem closeAll_handles (memory : Memory) (scene : Scene) :
    memory.closeAll scene.handles = memory ∨
      ∃ handle, handle ∈ scene.handles ∧ memory.closeAll scene.handles = memory.close handle := by
  cases scene with
  | away seen => exact Or.inl rfl
  | watching handle => exact Or.inr ⟨handle, List.mem_cons_self, rfl⟩
  | holding handle bytes => exact Or.inr ⟨handle, List.mem_cons_self, rfl⟩
  | astray => exact Or.inl rfl

namespace Crowd

variable {ι : Type} [DecidableEq ι] {path : Path} {crowd after : Crowd ι} {scenes : ι → Scene}
  {actor : ι} {may : Operation → Prop} {memory : Memory}

/-- Every process is accounted for, what each of them can rely on is so, and no two have a handle in
common. -/
structure Accounted (path : Path) (lasting : Prop) (crowd : Crowd ι) (scenes : ι → Scene) : Prop where
  orderly : crowd.memory.Orderly
  paths : ∀ index, (crowd.processes index).store.target.path = path
  accounts : ∀ index, Account lasting False (crowd.processes index) (scenes index)
  sees : ∀ index, Sees path lasting crowd.memory (scenes index)
  apart : ∀ first second handle, handle ∈ (scenes first).handles →
    handle ∈ (scenes second).handles → first = second

/-- The scenes with one of them changed. -/
def place (scenes : ι → Scene) (actor : ι) (scene : Scene) : ι → Scene :=
  fun other => if other = actor then scene else scenes other

/-- The flags that the next action of a process may change. -/
def Changing (crowd : Crowd ι) (actor : ι) (flag : Flag) : Prop :=
  ∃ running, (crowd.processes actor).running = some running ∧
    (running.operation = .create ∨ (crowd.processes actor).store.lifecycle.state = .opened ∧
      ∃ value, running.operation = .transition flag value)

theorem put_self (crowd : Crowd ι) (actor : ι) (process : Process) (memory : Memory) :
    (crowd.put actor process memory).processes actor = process := if_pos rfl

theorem put_of_ne (crowd : Crowd ι) {actor other : ι} (process : Process) (memory : Memory)
    (different : other ≠ actor) :
    (crowd.put actor process memory).processes other = crowd.processes other := if_neg different

theorem place_self (scenes : ι → Scene) (actor : ι) (scene : Scene) :
    place scenes actor scene actor = scene := if_pos rfl

theorem place_of_ne (scenes : ι → Scene) {actor other : ι} (scene : Scene)
    (different : other ≠ actor) : place scenes actor scene other = scenes other := if_neg different

omit [DecidableEq ι] in
/-- At the start everybody is away. -/
theorem Starts.accounted (starts : crowd.Starts path) :
    crowd.Accounted path lasting fun _ => .away false where
  orderly := by
    obtain ⟨content, atRest⟩ := starts.atRest
    exact ⟨atRest.sound, atRest.quiet⟩
  paths index := by
    obtain ⟨config, -, fresh⟩ := starts.fresh index
    rw [fresh]
    rfl
  accounts index := by
    obtain ⟨config, locking, fresh⟩ := starts.fresh index
    rw [fresh]
    exact account_fresh locking
  sees _ := nofun
  apart := nofun

/-- The others are accounted for as before when one process has kept to its handles. -/
theorem Accounted.put (accounted : crowd.Accounted path lasting scenes) (orderly : memory.Orderly)
    (here : process.store.target.path = path) (account : Account lasting False process scene)
    (sees : Sees path lasting memory scene)
    (new : ∀ handle, handle ∈ scene.handles →
      handle ∈ (scenes actor).handles ∨ crowd.memory.handles.get? handle = none)
    (keeps : crowd.memory.KeepsTo (scenes actor).handles memory)
    (names : lasting → ∀ object, crowd.memory.named path = some object →
      memory.named path = some object) :
    (crowd.put actor process memory).Accounted path lasting (place scenes actor scene) := by
  -- A handle that is new is in nobody's hands, since what is in someone's hands is open.
  have strange : ∀ other handle, other ≠ actor → handle ∈ scene.handles →
      handle ∉ (scenes other).handles := by
    intro other handle different mine theirs
    rcases new handle mine with old | unbound
    · exact different (accounted.apart _ _ _ theirs old)
    · obtain ⟨object, file, behind⟩ := (accounted.sees other).exists_behind theirs
      cases unbound.symm.trans behind.bound
  constructor
  · exact orderly
  · intro index
    by_cases same : index = actor
    · rw [same, put_self]
      exact here
    · rw [put_of_ne _ _ _ same]
      exact accounted.paths index
  · intro index
    by_cases same : index = actor
    · rw [same, put_self, place_self]
      exact account
    · rw [put_of_ne _ _ _ same, place_of_ne _ _ same]
      exact accounted.accounts index
  · intro index
    by_cases same : index = actor
    · rw [same, place_self]
      exact sees
    · rw [place_of_ne _ _ same]
      refine (accounted.sees index).beside keeps ?_ names
      intro handle theirs mine
      exact same (accounted.apart _ _ _ theirs mine)
  · intro first second handle
    by_cases one : first = actor
    · by_cases two : second = actor
      · rw [one, two]
        exact fun _ _ => rfl
      · rw [one, place_self, place_of_ne _ _ two]
        exact fun mine theirs => absurd theirs (strange second handle two mine)
    · by_cases two : second = actor
      · rw [two, place_self, place_of_ne _ _ one]
        exact fun theirs mine => absurd theirs (strange first handle one mine)
      · rw [place_of_ne _ _ one, place_of_ne _ _ two]
        exact accounted.apart first second handle

/-- What a step of one store comes to.  Every process is accounted for again, and the actor has kept to its
handles.  Whatever it has open, it has just opened at the path, or it had it open before.  If files are to
last, the file at the path is still the same and tells the same flags, but for those that the actor is about
to change. -/
structure Moves (path : Path) (lasting : Prop) (crowd : Crowd ι) (scenes : ι → Scene) (actor : ι)
    (after : Crowd ι) (scene : Scene) : Prop where
  accounted : after.Accounted path lasting (place scenes actor scene)
  others : ∀ other, other ≠ actor → after.processes other = crowd.processes other
  keeps : crowd.memory.KeepsTo (scenes actor).handles after.memory
  opens : ∀ handle, handle ∈ scene.handles → ∃ object, after.memory.handles.get? handle = some object ∧
    (after.memory.named path = some object ∨
      handle ∈ (scenes actor).handles ∧ crowd.memory.handles.get? handle = some object ∧
        after.memory.named path = crowd.memory.named path)
  lasts : lasting → crowd.memory.Lasts ⟨path, lasting, False, crowd.Changing actor⟩ after.memory

/-- Where nothing happens to the memory, everything is as before. -/
theorem Accounted.moves_of_same (accounted : crowd.Accounted path lasting scenes)
    (here : process.store.target.path = path)
    (account : Account lasting False process (scenes actor)) :
    Moves path lasting crowd scenes actor (crowd.put actor process crowd.memory) (scenes actor) where
  accounted := accounted.put accounted.orderly here account (accounted.sees actor)
    (fun _ mine => Or.inl mine) (Memory.keepsTo_refl _ _) (fun _ _ named => named)
  others other different := put_of_ne _ _ _ different
  keeps := Memory.keepsTo_refl _ _
  opens handle mine := by
    obtain ⟨object, file, behind⟩ := (accounted.sees actor).exists_behind mine
    exact ⟨object, behind.bound, Or.inr ⟨mine, behind.bound, rfl⟩⟩
  lasts _ := Memory.lasts_of_same rfl rfl rfl

/-- Every step keeps all processes accounted for. -/
theorem Accounted.step (accounted : crowd.Accounted path lasting scenes)
    (spares : ∀ operation, may operation → operation ≠ .delete) (keeping : lasting → ¬ may .create)
    (step : Step may crowd actor after) :
    ∃ scene, Moves path lasting crowd scenes actor after scene := by
  have account := accounted.accounts actor
  have here := accounted.paths actor
  cases step with
  | @begins operation idle allowed =>
    have further : Account lasting False ((crowd.processes actor).begin operation) (scenes actor) := by
      apply account.begin idle (spares operation allowed)
      intro creates lasts
      rw [creates] at allowed
      exact absurd allowed (keeping lasts)
    exact ⟨scenes actor, accounted.moves_of_same here further⟩
  | finishes runs finished =>
    exact ⟨scenes actor, accounted.moves_of_same here (account.finish runs finished)⟩
  | @acts running action next answer last runs acting allowed =>
    obtain ⟨reached, further, goes⟩ :=
      account.act here runs acting allowed accounted.orderly (accounted.sees actor) False.elim
    have lasts : lasting →
        crowd.memory.Lasts ⟨path, lasting, False, crowd.Changing actor⟩ last.storage := by
      intro lasting
      apply (goes.lasts lasting).widen
      · exact here.symm
      · exact fun flag touched => ⟨running, runs, touched⟩
    have seen : Sees path lasting last.storage reached := by
      rw [← here]
      exact goes.sees
    have orderly : last.storage.Orderly := by
      have before : (running.now.on crowd.memory).storage.Orderly := accounted.orderly
      exact before.act allowed
    have names : lasting → ∀ object, crowd.memory.named path = some object →
        last.storage.named path = some object :=
      fun lasting _ named => ((lasts lasting).names.of_named named).2
    refine ⟨reached, ?_, fun _ different => put_of_ne _ _ _ different, goes.keeps, ?_, lasts⟩
    · exact accounted.put orderly here further seen goes.new goes.keeps names
    · rw [← here]
      exact goes.opens
  | crashes =>
    have further : Account lasting False (.fresh (crowd.processes actor).store.target) (.away false) :=
      account_fresh account.locking
    rw [account.handles]
    obtain ⟨orderly, keeps, lasts⟩ : (crowd.memory.closeAll (scenes actor).handles).Orderly ∧
        crowd.memory.KeepsTo (scenes actor).handles
          (crowd.memory.closeAll (scenes actor).handles) ∧
        crowd.memory.Lasts ⟨path, lasting, False, crowd.Changing actor⟩
          (crowd.memory.closeAll (scenes actor).handles) := by
      rcases closeAll_handles crowd.memory (scenes actor) with same | ⟨handle, mine, same⟩
      · rw [same]
        exact ⟨accounted.orderly, Memory.keepsTo_refl _ _, Memory.lasts_of_same rfl rfl rfl⟩
      · rw [same]
        exact ⟨accounted.orderly.close handle, Memory.keepsTo_close mine, Memory.lasts_close handle⟩
    refine ⟨.away false, ?_, fun _ different => put_of_ne _ _ _ different, keeps, nofun, fun _ => lasts⟩
    exact accounted.put orderly here further nofun nofun keeps
      fun _ _ named => (lasts.names.of_named named).2

/-- Wherever new stores have got to, they are accounted for. -/
theorem Steps.accounted {start : Crowd ι} {rule : Crowd ι → ι → Crowd ι → Prop}
    (starts : start.Starts path) (spares : ∀ operation, may operation → operation ≠ .delete)
    (keeping : lasting → ¬ may .create)
    (within : ∀ before actor after, rule before actor after → Step may before actor after)
    (steps : Steps rule start crowd) : ∃ scenes, crowd.Accounted path lasting scenes := by
  induction steps with
  | here => exact ⟨_, starts.accounted⟩
  | on _ step inductionHypothesis =>
    obtain ⟨scenes, accounted⟩ := inductionHypothesis
    obtain ⟨scene, moves⟩ := accounted.step spares keeping (within _ _ _ step)
    exact ⟨_, moves.accounted⟩

/-! ## What the open stores have -/

omit [DecidableEq ι] in
/-- An open store has the lock on the file it has open. -/
theorem Accounted.behind_of_isOpen (accounted : crowd.Accounted path lasting scenes) {holder : ι}
    (opened : (crowd.processes holder).isOpen) :
    ∃ handle object bytes, scenes holder = .holding handle bytes ∧
      (crowd.processes holder).handles = [handle] ∧
      crowd.memory.Behind handle object ⟨bytes, some handle⟩ := by
  have account := accounted.accounts holder
  obtain ⟨handle, bytes, holding⟩ := account.holding_of_isOpen opened
  have sees := accounted.sees holder
  rw [holding] at sees
  obtain ⟨object, behind, -⟩ := sees
  refine ⟨handle, object, bytes, holding, ?_, behind⟩
  rw [account.handles, holding]
  rfl

omit [DecidableEq ι] in
/-- No two open stores have the same file. -/
theorem Accounted.eq_of_same_file (accounted : crowd.Accounted path lasting scenes)
    {first second : ι} {handle other : Handle} {object : ObjectId}
    (opened : (crowd.processes first).isOpen) (also : (crowd.processes second).isOpen)
    (mine : handle ∈ (crowd.processes first).handles)
    (theirs : other ∈ (crowd.processes second).handles)
    (bound : crowd.memory.handles.get? handle = some object)
    (alsoBound : crowd.memory.handles.get? other = some object) : first = second := by
  obtain ⟨held, file, bytes, -, only, behind⟩ := accounted.behind_of_isOpen opened
  obtain ⟨alsoHeld, found, content, -, alsoOnly, beside⟩ := accounted.behind_of_isOpen also
  rw [only] at mine
  rw [alsoOnly] at theirs
  cases List.mem_singleton.1 mine
  cases List.mem_singleton.1 theirs
  cases bound.symm.trans behind.bound
  cases alsoBound.symm.trans beside.bound
  -- One file has one owner.
  cases behind.there.symm.trans beside.there
  apply accounted.apart first second handle
  · rw [← (accounted.accounts first).handles, only]
    exact List.mem_cons_self
  · rw [← (accounted.accounts second).handles, alsoOnly]
    exact List.mem_cons_self

/-- Whatever file a store has open is the one at the path. -/
def Attached (path : Path) (crowd : Crowd ι) : Prop :=
  ∀ index handle object, handle ∈ (crowd.processes index).handles →
    crowd.memory.handles.get? handle = some object → crowd.memory.named path = some object

omit [DecidableEq ι] in
/-- Where files last, none that is open loses its name. -/
theorem Accounted.attached (accounted : crowd.Accounted path lasting scenes) (lasts : lasting) :
    crowd.Attached path := by
  intro index handle object mine bound
  rw [(accounted.accounts index).handles] at mine
  exact (accounted.sees index).named lasts mine bound

omit [DecidableEq ι] in
/-- Whoever has the marker open has the file at the path in hand. -/
theorem Attached.inHand (attached : crowd.Attached path)
    (accounted : crowd.Accounted path lasting scenes) {holder : ι}
    (opened : (crowd.processes holder).isOpen) :
    ∃ handle bytes, scenes holder = .holding handle bytes ∧
      (crowd.processes holder).handles = [handle] ∧
      crowd.memory.InHand path handle ⟨bytes, some handle⟩ := by
  obtain ⟨handle, object, bytes, holding, only, behind⟩ := accounted.behind_of_isOpen opened
  have named : crowd.memory.named path = some object := by
    apply attached holder handle object _ behind.bound
    rw [only]
    exact List.mem_cons_self
  exact ⟨handle, bytes, holding, only, accounted.orderly.sound, accounted.orderly.quiet, object,
    named, behind.bound, behind.there⟩

omit [DecidableEq ι] in
/-- While nobody has lost the file at the path, at most one store is open. -/
theorem Attached.one_open (attached : crowd.Attached path)
    (accounted : crowd.Accounted path lasting scenes) {first second : ι}
    (opened : (crowd.processes first).isOpen) (also : (crowd.processes second).isOpen) :
    first = second := by
  obtain ⟨handle, bytes, -, only, here⟩ := attached.inHand accounted opened
  obtain ⟨other, found, -, alsoOnly, there⟩ := attached.inHand accounted also
  obtain ⟨object, named, bound, -⟩ := here.reached
  obtain ⟨same, alsoNamed, alsoBound, -⟩ := there.reached
  cases named.symm.trans alsoNamed
  apply accounted.eq_of_same_file opened also _ _ bound alsoBound
  · rw [only]
    exact List.mem_cons_self
  · rw [alsoOnly]
    exact List.mem_cons_self

/-! ## Moves that can be computed -/

/-- Let a store begin an operation if it is idle, or else let it take one step of the operation it is in
the midst of. -/
def move (crowd : Crowd ι) (turn : ι × Option Operation) : Crowd ι :=
  match turn.2, (crowd.processes turn.1).running with
  | some operation, none =>
    crowd.put turn.1 ((crowd.processes turn.1).begin operation) crowd.memory
  | none, some running =>
    match running.rest.head with
    | .finished _ => crowd.put turn.1 ((crowd.processes turn.1).finish running) crowd.memory
    | .acting action next =>
      let (answer, after) := action.perform (running.now.on crowd.memory)
      crowd.put turn.1
        ((crowd.processes turn.1).act running ⟨action, answer⟩ (next answer) (after.on ()))
        after.storage
  | _, _ => crowd

/-- Begin an operation and take so many steps of it. -/
def turns (actor : ι) (operation : Operation) (count : Nat) : List (ι × Option Operation) :=
  (actor, some operation) :: List.replicate count (actor, none)

/-- A move is a step, or nothing happens. -/
theorem step_of_move {turn : ι × Option Operation}
    (allowed : ∀ operation, turn.2 = some operation → may operation) :
    crowd.move turn = crowd ∨ Step may crowd turn.1 (crowd.move turn) := by
  obtain ⟨actor, choice⟩ := turn
  unfold Crowd.move
  split
  next _ _ operation begins idle => exact Or.inr (.begins idle (allowed operation begins))
  next _ _ running _ runs =>
    split
    next outcome finished =>
      exact Or.inr (.finishes runs (Script.eq_done_of_head_finished finished))
    next action next acting =>
      refine Or.inr (.acts runs acting ?_)
      cases action with
      | ask request => exact ⟨_, Memory.unreliable_of_honest _ _ _ _ _ rfl, rfl⟩
      | _ => rfl
  next => exact Or.inl rfl

/-- What can be computed may happen, and what holds after each move holds after each step. -/
theorem steps_moves_keeping {start : Crowd ι} {held : Crowd ι → Prop}
    (moves : List (ι × Option Operation))
    (allowed : ∀ operation ∈ moves.filterMap (·.2), may operation)
    (kept : ∀ count, count ≤ moves.length → held ((moves.take count).foldl Crowd.move crowd))
    (steps : Steps (fun before actor after => Step may before actor after ∧ held after) start crowd) :
    Steps (fun before actor after => Step may before actor after ∧ held after) start
      (moves.foldl Crowd.move crowd) := by
  induction moves generalizing crowd with
  | nil => exact steps
  | cons turn rest inductionHypothesis =>
    apply inductionHypothesis
    · intro operation later
      apply allowed
      rw [List.mem_filterMap] at later ⊢
      obtain ⟨other, among, begins⟩ := later
      exact ⟨other, List.mem_cons_of_mem _ among, begins⟩
    · intro count within
      exact kept (count + 1) (Nat.succ_le_succ within)
    · have moved : crowd.move turn = crowd ∨ Step may crowd turn.1 (crowd.move turn) := by
        apply step_of_move
        intro operation begins
        apply allowed
        rw [List.mem_filterMap]
        exact ⟨turn, List.mem_cons_self, begins⟩
      rcases moved with same | step
      · rw [same]
        exact steps
      · exact steps.on ⟨step, kept 1 (Nat.succ_le_succ (Nat.zero_le _))⟩

omit [DecidableEq ι] in
/-- What one rule allows in so many steps, a wider rule allows too. -/
theorem Steps.mono {start : Crowd ι} {rule other : Crowd ι → ι → Crowd ι → Prop}
    (more : ∀ before actor after, rule before actor after → other before actor after)
    (steps : Steps rule start crowd) : Steps other start crowd := by
  induction steps with
  | here => exact .here
  | on _ step inductionHypothesis => exact inductionHypothesis.on (more _ _ _ step)

/-- Letting stores move in any order is taking steps. -/
theorem steps_moves (moves : List (ι × Option Operation))
    (allowed : ∀ operation ∈ moves.filterMap (·.2), may operation) :
    Steps (Step may) crowd (moves.foldl Crowd.move crowd) := by
  have steps : Steps (fun before actor after => Step may before actor after ∧ True) crowd
      (moves.foldl Crowd.move crowd) :=
    steps_moves_keeping moves allowed (fun _ _ => trivial) .here
  exact steps.mono fun _ _ _ step => step.1

/-- Two stores that lock one marker, which is missing or holds some bytes. -/
def couple (content : Option (List UInt8)) : Crowd Bool :=
  ⟨fun _ => .fresh ⟨⟨"marker"⟩, .standard⟩, .holding ⟨"marker"⟩ content⟩

/-- Both stores of the couple are new and lock the marker, and nobody has its lock. -/
theorem starts_couple (content : Option (List UInt8)) : (couple content).Starts ⟨"marker"⟩ where
  fresh _ := ⟨.standard, rfl, rfl⟩
  atRest := ⟨content, Memory.atRest_holding _ _⟩

end Crowd

end CrashMarker
