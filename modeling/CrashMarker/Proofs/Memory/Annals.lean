/-
Module: CrashMarker.Proofs.Memory.Annals
Purpose: What the calls on a memory and their answers tell, and that the memory holds nothing else.
Main exports: Touch, Occurrence, Annals.shelf, Annals.live, Annals.layers, Watched, Told, told_after
-/
import CrashMarker.Proofs.Memory.Locks
import CrashMarker.Proofs.Overlay

namespace CrashMarker

/-!
Somebody watches a memory from its beginning.  He sees what it is asked and what it answers, and he
sees nothing of its tables.  From that alone he knows which file every path leads to, which handles
are live and on which files, and what has been laid down in each file since it came into being.

`Told` says that the tables of the memory hold exactly that.  Every touch keeps it so, whatever the
hooks are set to, and what is claimed of locks and of unlinked files is then claimed of the annals.
-/

/-- One thing that is done to a memory. -/
inductive Touch where
  /-- It is asked something, through itself or through a handle. -/
  | ask (request : Request)
  /-- A handle is closed. -/
  | close (handle : Handle)
  /-- A file is put into place, and takes the place of the one that was there. -/
  | put (path : Path) (bytes : List UInt8)
  /-- It is asked to misbehave. -/
  | misbehave (amount : Nat) (kind : Misbehaviour)
deriving Repr, DecidableEq, Inhabited

/-- What is worth remembering. -/
inductive Occurrence where
  /-- A file came into being at a place, with these bytes in it. -/
  | born (key : Path.Key) (bytes : List UInt8)
  /-- A place was cleared. -/
  | gone (key : Path.Key)
  /-- A handle was opened on what was at a place then. -/
  | opened (handle : Handle) (key : Path.Key)
  | closed (handle : Handle)
  /-- A chunk was written through a handle, and it was not empty. -/
  | wrote (handle : Handle) (offset : Nat) (chunk : List UInt8)
deriving Repr, DecidableEq, Inhabited

/-- What a call and its answer tell.  A removal that lost a race has cleared the place. -/
def Request.occurrence? : (request : Request) → request.Answer → Option Occurrence
  | .createNew path, .ok () => some (.born path.key [])
  | .remove path, .ok () => some (.gone path.key)
  | .remove path, .error cause =>
    if cause = .io (.explained .other "removed concurrently") then some (.gone path.key) else none
  | .openFile path, .ok handle => some (.opened handle path.key)
  | .writeAt handle offset bytes, .ok moved =>
    if moved = 0 then none else some (.wrote handle offset (bytes.take moved))
  | _, _ => none

/-- A chunk laid down in a file. -/
structure Layer where
  offset : Nat
  chunk : List UInt8
deriving Repr, DecidableEq, Inhabited

namespace Layer

/-- The byte that a chunk puts at a position, if it reaches there. -/
def byte? (layer : Layer) (position : Nat) : Option UInt8 :=
  if layer.offset ≤ position then layer.chunk[position - layer.offset]? else none

def stop (layer : Layer) : Nat := layer.offset + layer.chunk.length

end Layer

/-! ## What the annals tell

Annals have the latest occurrence first.  Files are numbered in the order in which they came into
being. -/

namespace Annals

def births : List Occurrence → Nat
  | [] => 0
  | .born _ _ :: earlier => births earlier + 1
  | _ :: earlier => births earlier

def opens : List Occurrence → Nat
  | [] => 0
  | .opened _ _ :: earlier => opens earlier + 1
  | _ :: earlier => opens earlier

/-- The file that is at a place: the last one that came into being there, unless the place has been
cleared since. -/
def shelf : List Occurrence → Path.Key → Option ObjectId
  | [], _ => none
  | .born key _ :: earlier, place => if place = key then some ⟨births earlier⟩ else shelf earlier place
  | .gone key :: earlier, place => if place = key then none else shelf earlier place
  | _ :: earlier, place => shelf earlier place

/-- The handles that are live, each with the file that was at its place when it was opened. -/
def live : List Occurrence → List (Handle × ObjectId)
  | [] => []
  | .opened handle key :: earlier =>
    match shelf earlier key with
    | some object => (handle, object) :: live earlier
    | none => live earlier
  | .closed handle :: earlier => (live earlier).filter (·.1 ≠ handle)
  | _ :: earlier => live earlier

/-- What has been laid down in a file since it came into being, the latest layer first.  The bytes that
it came into being with are the last. -/
def layers : List Occurrence → ObjectId → List Layer
  | [], _ => []
  | .born _ bytes :: earlier, object =>
    if object = ⟨births earlier⟩ then [⟨0, bytes⟩] else layers earlier object
  | .wrote handle offset chunk :: earlier, object =>
    if (handle, object) ∈ live earlier then ⟨offset, chunk⟩ :: layers earlier object
    else layers earlier object
  | _ :: earlier, object => layers earlier object

/-- The byte that was laid down last at a position.  In a gap there are zeros. -/
def lastByte (layers : List Layer) (position : Nat) : UInt8 :=
  (layers.findSome? (·.byte? position)).getD 0

def reach : List Layer → Nat
  | [] => 0
  | layer :: earlier => max (reach earlier) layer.stop

/-- What lies there, if the layers are laid one over the other. -/
def written (layers : List Layer) : List UInt8 := (List.range (reach layers)).map (lastByte layers)

end Annals

open Annals

/-- A memory, and what somebody has seen who has watched it from its beginning. -/
structure Watched where
  memory : Memory := {}
  annals : List Occurrence := []
deriving Repr, DecidableEq, Inhabited

namespace Watched

/-- One thing is done to the memory, and what it tells is put down. -/
def touch (watched : Watched) : Touch → Watched
  | .ask request =>
    { memory := (watched.memory.answer request).2
      annals := (request.occurrence? (watched.memory.answer request).1).toList ++ watched.annals }
  | .close handle =>
    { memory := watched.memory.close handle
      annals := .closed handle :: watched.annals }
  | .put path bytes =>
    { memory := watched.memory.put path bytes
      annals := .born path.key bytes :: watched.annals }
  | .misbehave amount kind => { watched with memory := watched.memory.misbehave amount kind }

/-- A new memory after all that has been done to it. -/
def after (touches : List Touch) : Watched := touches.foldl touch {}

end Watched

/-- The tables of a memory hold what the annals tell and nothing else. -/
structure Told (memory : Memory) (annals : List Occurrence) : Prop where
  sound : memory.Sound
  born : memory.nextObject = births annals
  given : memory.nextHandle = opens annals
  names : ∀ key, memory.names.get? key = shelf annals key
  handles : ∀ handle object,
    memory.handles.get? handle = some object ↔ (handle, object) ∈ live annals
  /-- No handle is live twice. -/
  distinct : ((live annals).map Prod.fst).Nodup
  /-- No file is at two places. -/
  apart : ∀ {first second object},
    shelf annals first = some object → shelf annals second = some object → first = second
  bytes : ∀ {object file},
    memory.objects.get? object = some file → file.bytes = written (layers annals object)

/-! ## Layers and the bytes of a file -/

namespace Annals

/-- Beyond the end of all layers nothing has been laid down. -/
theorem lastByte_of_reach_le {layers : List Layer} {position : Nat}
    (beyond : reach layers ≤ position) : lastByte layers position = 0 := by
  have nothing : layers.findSome? (·.byte? position) = none := by
    induction layers with
    | nil => rfl
    | cons layer earlier ih =>
      simp only [reach, Layer.stop] at beyond
      rw [List.findSome?_cons]
      have above : layer.byte? position = none := by
        unfold Layer.byte?
        split
        · exact List.getElem?_eq_none (by omega)
        · rfl
      rw [above]
      exact ih (by omega)
  rw [lastByte, nothing]
  rfl

/-- As much has been written as the layers reach. -/
theorem length_written (layers : List Layer) : (written layers).length = reach layers := by
  rw [written, List.length_map, List.length_range]

/-- At every position stands the byte that was laid down last. -/
theorem byteAt_written (layers : List Layer) (position : Nat) :
    byteAt (written layers) position = lastByte layers position := by
  unfold byteAt written
  rw [List.getElem?_map]
  rcases Nat.lt_or_ge position (reach layers) with within | beyond
  · rw [List.getElem?_range within]
    rfl
  · rw [List.getElem?_eq_none (by rw [List.length_range]; exact beyond), lastByte_of_reach_le beyond]
    rfl

/-- The newest layer hides what lies under it, and nothing else. -/
theorem lastByte_cons (offset : Nat) (chunk : List UInt8) (earlier : List Layer) (position : Nat) :
    lastByte (⟨offset, chunk⟩ :: earlier) position =
      if offset ≤ position ∧ position < offset + chunk.length then byteAt chunk (position - offset)
      else lastByte earlier position := by
  unfold lastByte byteAt Layer.byte?
  rw [List.findSome?_cons]
  by_cases behind : offset ≤ position
  · rcases Nat.lt_or_ge position (offset + chunk.length) with within | beyond
    · have there : position - offset < chunk.length := by omega
      simp [behind, within, there]
    · have none : chunk[position - offset]? = none := List.getElem?_eq_none (by omega)
      simp [behind, none, Nat.not_lt.2 beyond]
  · simp [behind]

end Annals

/-- Two files of one length with the same byte at every position are the same. -/
theorem ext_byteAt {first second : List UInt8} (length : first.length = second.length)
    (same : ∀ position, byteAt first position = byteAt second position) : first = second := by
  apply List.ext_getElem length
  intro position here there
  have shown := same position
  unfold byteAt at shown
  rw [List.getElem?_eq_getElem here, List.getElem?_eq_getElem there] at shown
  exact shown

/-- Laying a chunk over a file never makes it shorter. -/
theorem length_overlay (bytes : List UInt8) (offset : Nat) (chunk : List UInt8) :
    (overlay bytes offset chunk).length = max bytes.length (offset + chunk.length) := by
  simp only [overlay, List.length_append, List.length_take, List.length_drop, List.length_replicate]
  omega

namespace Annals

/-- A file holds the bytes that it has come into being with, as long as nothing is laid over them. -/
theorem written_singleton (bytes : List UInt8) : written [⟨0, bytes⟩] = bytes := by
  apply ext_byteAt
  · rw [length_written]
    simp [reach, Layer.stop]
  · intro position
    rw [byteAt_written, lastByte_cons]
    split
    · rfl
    next outside =>
      have beyond : bytes.length ≤ position := by omega
      rw [byteAt, List.getElem?_eq_none beyond]
      rfl

/-- Laying one more chunk over a file is one more layer. -/
theorem overlay_written (layers : List Layer) (offset : Nat) (chunk : List UInt8) :
    overlay (written layers) offset chunk = written (⟨offset, chunk⟩ :: layers) := by
  apply ext_byteAt
  · rw [length_overlay, length_written, length_written]
    rfl
  · intro position
    rw [byteAt_overlay, byteAt_written, byteAt_written, lastByte_cons]

/-- Reading takes the last byte at every position, as far as the layers go. -/
theorem take_drop_written (layers : List Layer) (offset count : Nat) :
    ((written layers).drop offset).take count =
      (List.range (min count (reach layers - offset))).map fun index =>
        lastByte layers (offset + index) := by
  apply List.ext_getElem
  · rw [List.length_take, List.length_drop, length_written, List.length_map, List.length_range]
  · intro index here there
    rw [List.getElem_take, List.getElem_drop]
    simp only [written, List.getElem_map, List.getElem_range]

end Annals

/-! ## One touch

Each way in which the tables can change is matched by one occurrence, or by none. -/

namespace Told

open Memory (released)

variable {memory after : Memory} {annals : List Occurrence}

/-- Of a memory that nobody has touched nothing is told. -/
theorem empty : Told {} [] where
  sound := .empty
  born := rfl
  given := rfl
  names _ := rfl
  handles handle object := by
    constructor
    · intro bound
      cases bound
    · intro member
      cases member
  distinct := List.nodup_nil
  apart first := by cases first
  bytes there := by cases there

/-- A path names what is on the shelf at its place. -/
theorem named_eq (told : Told memory annals) (path : Path) :
    memory.named path = shelf annals path.key :=
  told.names path.key

/-- The file at a place has come into being before. -/
theorem serial_of_shelf (told : Told memory annals) {key : Path.Key} {object : ObjectId}
    (there : shelf annals key = some object) : object.serial < births annals := by
  obtain ⟨file, held⟩ := told.sound.named ((told.names key).trans there)
  rw [← told.born]
  exact told.sound.numbered held

/-- The file of a live handle has come into being before. -/
theorem serial_of_live (told : Told memory annals) {handle : Handle} {object : ObjectId}
    (member : (handle, object) ∈ live annals) : object.serial < births annals := by
  obtain ⟨-, file, held⟩ := told.sound.opened ((told.handles handle object).2 member)
  rw [← told.born]
  exact told.sound.numbered held

/-- A live handle has a file behind it. -/
theorem exists_behind (told : Told memory annals) {handle : Handle} {object : ObjectId}
    (member : (handle, object) ∈ live annals) :
    ∃ file, memory.Behind handle object file ∧ memory.owner object = file.owner := by
  have bound := (told.handles handle object).2 member
  obtain ⟨-, file, there⟩ := told.sound.opened bound
  exact ⟨file, ⟨bound, there⟩, by rw [Memory.owner, there]; rfl⟩

/-- Nothing is told as long as names, handles and the bytes of files stay as they are. -/
theorem relocked (told : Told memory annals) (sound : after.Sound)
    (names : after.names = memory.names) (handles : after.handles = memory.handles)
    (born : after.nextObject = memory.nextObject) (given : after.nextHandle = memory.nextHandle)
    (bytes : ∀ {object file}, after.objects.get? object = some file →
      ∃ old, memory.objects.get? object = some old ∧ file.bytes = old.bytes) :
    Told after annals where
  sound := sound
  born := born.trans told.born
  given := given.trans told.given
  names := by rw [names]; exact told.names
  handles := by rw [handles]; exact told.handles
  distinct := told.distinct
  apart := told.apart
  bytes := by
    intro object file there
    obtain ⟨old, held, same⟩ := bytes there
    rw [same]
    exact told.bytes held

/-- Counters tell nothing. -/
theorem of_tables (told : Told memory annals) (names : after.names = memory.names)
    (objects : after.objects = memory.objects) (handles : after.handles = memory.handles)
    (born : after.nextObject = memory.nextObject) (given : after.nextHandle = memory.nextHandle) :
    Told after annals := by
  apply told.relocked (told.sound.of_tables names objects handles born given) names handles born given
  intro object file there
  rw [objects] at there
  exact ⟨file, there, rfl⟩

/-- A change of one file that leaves its bytes alone. -/
theorem of_updateObject {object : ObjectId} {change : FileObject → FileObject}
    (same : ∀ file, (change file).bytes = file.bytes) {other : ObjectId} {file : FileObject}
    (there : (memory.updateObject object change).objects.get? other = some file) :
    ∃ old, memory.objects.get? other = some old ∧ file.bytes = old.bytes := by
  simp only [Memory.updateObject, Table.get?_update] at there
  split at there
  next here =>
    obtain ⟨old, held, changed⟩ := Option.map_eq_some_iff.1 there
    rw [here]
    exact ⟨old, held, by rw [← changed, same]⟩
  next => exact ⟨file, there, rfl⟩

/-- A file that is put into place has come into being there, with one layer. -/
theorem put (told : Told memory annals) (path : Path) (bytes : List UInt8) :
    Told (memory.put path bytes) (.born path.key bytes :: annals) where
  sound := told.sound.put path bytes
  born := by rw [births, ← told.born]; rfl
  given := told.given
  names := by
    intro key
    simp only [Memory.put, Table.get?_set, shelf, told.born, told.names]
  handles := told.handles
  distinct := told.distinct
  apart := by
    intro first second object here there
    simp only [shelf] at here there
    -- The new file is not one that another place could have led to.
    split at here
    next new =>
      split at there
      next also => exact new.trans also.symm
      next =>
        cases here
        exact absurd (told.serial_of_shelf there) (Nat.lt_irrefl _)
    next =>
      split at there
      next =>
        cases there
        exact absurd (told.serial_of_shelf here) (Nat.lt_irrefl _)
      next => exact told.apart here there
  bytes := by
    intro object file there
    simp only [Memory.put, Table.get?_set] at there
    simp only [layers, ← told.born]
    split at there
    next new =>
      cases there
      rw [if_pos new, written_singleton]
    next old =>
      rw [if_neg old]
      exact told.bytes there

/-- A name that is removed tells of a place that was cleared. -/
theorem unlink (told : Told memory annals) (path : Path) :
    Told (memory.unlink path) (.gone path.key :: annals) where
  sound := told.sound.unlink path
  born := told.born
  given := told.given
  names := by
    intro key
    simp only [Memory.unlink, Table.get?_erase, shelf, told.names]
  handles := told.handles
  distinct := told.distinct
  apart := by
    intro first second object here there
    simp only [shelf] at here there
    split at here
    next => cases here
    next =>
      split at there
      next => cases there
      next => exact told.apart here there
  bytes := told.bytes

/-- A handle that is opened leads to what is on the shelf. -/
theorem withHandle (told : Told memory annals) {path : Path} {object : ObjectId}
    (named : memory.named path = some object) :
    Told (memory.withHandle object) (.opened ⟨memory.nextHandle⟩ path.key :: annals) := by
  have there : shelf annals path.key = some object := (told.named_eq path).symm.trans named
  have known : live (.opened ⟨memory.nextHandle⟩ path.key :: annals) =
      (⟨memory.nextHandle⟩, object) :: live annals := by
    simp only [live, there]
  have fresh : ∀ other, (⟨memory.nextHandle⟩, other) ∉ live annals := by
    intro other member
    have bound := (told.handles _ _).2 member
    rw [told.sound.fresh_handle] at bound
    cases bound
  constructor
  · exact told.sound.openFile named
  · exact told.born
  · rw [opens, ← told.given]
    rfl
  · exact told.names
  · intro handle other
    rw [known, List.mem_cons, Memory.withHandle, Table.get?_set]
    split
    next new =>
      subst new
      simp [fresh, eq_comm]
    next old =>
      rw [told.handles]
      simp [old]
  · rw [known, List.map_cons, List.nodup_cons]
    constructor
    · intro member
      obtain ⟨⟨handle, other⟩, alive, same⟩ := List.mem_map.1 member
      cases same
      exact fresh other alive
    · exact told.distinct
  · exact told.apart
  · exact told.bytes

/-- A handle that is closed is not live any more, and bytes stay. -/
theorem close (told : Told memory annals) (handle : Handle) :
    Told (memory.close handle) (.closed handle :: annals) := by
  have left : ∀ other object,
      (other, object) ∈ live (.closed handle :: annals) ↔
        other ≠ handle ∧ (other, object) ∈ live annals := by
    intro other object
    simp [live, and_comm]
  have tables : (memory.close handle).names = memory.names ∧
      (memory.close handle).nextObject = memory.nextObject ∧
      (memory.close handle).nextHandle = memory.nextHandle ∧
      ∀ {object file}, (memory.close handle).objects.get? object = some file →
        ∃ old, memory.objects.get? object = some old ∧ file.bytes = old.bytes := by
    unfold Memory.close
    split
    · exact ⟨rfl, rfl, rfl, fun there => ⟨_, there, rfl⟩⟩
    · exact ⟨rfl, rfl, rfl, of_updateObject Memory.bytes_released⟩
  obtain ⟨names, born, given, bytes⟩ := tables
  constructor
  · exact told.sound.close handle
  · exact born.trans told.born
  · exact given.trans told.given
  · intro key
    rw [names]
    exact told.names key
  · intro other object
    rw [left, Memory.handles_close]
    split
    next same => simp [same]
    next different =>
      rw [told.handles]
      simp [different]
  · have fewer : (live (.closed handle :: annals)).Sublist (live annals) := List.filter_sublist
    exact told.distinct.sublist (fewer.map Prod.fst)
  · exact told.apart
  · intro object file there
    obtain ⟨old, held, same⟩ := bytes there
    rw [same]
    exact told.bytes held

/-- What is written through a handle is the newest layer of its file. -/
theorem write (told : Told memory annals) {handle : Handle} {object : ObjectId}
    (bound : memory.handles.get? handle = some object) (offset : Nat) (chunk : List UInt8) :
    Told (memory.updateObject object fun file =>
        { file with bytes := overlay file.bytes offset chunk })
      (.wrote handle offset chunk :: annals) := by
  have mine : ∀ other, (handle, other) ∈ live annals ↔ other = object := by
    intro other
    rw [← told.handles, bound]
    simp [eq_comm]
  constructor
  · exact told.sound.updateObject fun file there owner owned => told.sound.owned there owned
  · exact told.born
  · exact told.given
  · exact told.names
  · exact told.handles
  · exact told.distinct
  · exact told.apart
  · intro other file there
    simp only [Memory.updateObject, Table.get?_update] at there
    simp only [layers, mine]
    split at there
    next here =>
      obtain ⟨old, held, changed⟩ := Option.map_eq_some_iff.1 there
      rw [if_pos here, here, ← overlay_written, ← told.bytes held, ← changed]
    next elsewhere =>
      rw [if_neg elsewhere]
      exact told.bytes there

/-- The annals after a call that was answered so. -/
theorem remove (told : Told memory annals) {path : Path} {answer : (Request.remove path).Answer}
    (answered : memory.remove path = (answer, after)) :
    Told after ((Request.occurrence? _ answer).toList ++ annals) := by
  unfold Memory.remove at answered
  split at answered
  · cases answered
    have cleared := told.unlink path
    exact cleared.of_tables rfl rfl rfl rfl rfl
  · split at answered
    · cases answered
      exact told
    · split at answered
      · cases answered
        exact told.of_tables rfl rfl rfl rfl rfl
      · cases answered
        exact told.unlink path

/-- Whether opening a file goes well or not, the annals tell. -/
theorem openFile (told : Told memory annals) {path : Path}
    {answer : (Request.openFile path).Answer}
    (answered : memory.openFile path = (answer, after)) :
    Told after ((Request.occurrence? _ answer).toList ++ annals) := by
  unfold Memory.openFile at answered
  split at answered
  · cases answered
    exact told.of_tables rfl rfl rfl rfl rfl
  · split at answered
    · cases answered
      exact told
    next object named =>
      cases answered
      exact told.withHandle named

theorem writeAt (told : Told memory annals) {handle : Handle} {offset : Nat} {bytes : List UInt8}
    {answer : (Request.writeAt handle offset bytes).Answer}
    (answered : memory.writeAt handle offset bytes = (answer, after)) :
    Told after ((Request.occurrence? _ answer).toList ++ annals) := by
  rcases Memory.writeAt_cases answered with ⟨cause, interrupts, rfl, rfl⟩ | ⟨rfl, rfl, rfl⟩ |
    ⟨object, file, behind, some, rfl, rfl⟩
  · exact told.of_tables rfl rfl rfl rfl rfl
  · exact told
  · have moves : memory.transferLength bytes.length ≠ 0 :=
      Nat.ne_of_gt (Memory.transferLength_pos memory some)
    have laid := told.write behind.bound offset (bytes.take (memory.transferLength bytes.length))
    simp only [Request.occurrence?, if_neg moves]
    exact laid.of_tables rfl rfl rfl rfl rfl

/-- Whatever a memory is asked and however its hooks are set, its tables hold what the annals tell. -/
theorem answer (told : Told memory annals) {request : Request} {answer : request.Answer}
    (answered : memory.answer request = (answer, after)) :
    Told after ((request.occurrence? answer).toList ++ annals) := by
  have sound : after.Sound := (Memory.locking_of_answer told.sound answered).1
  cases request with
  | present path =>
    cases answered
    exact told
  | createNew path =>
    simp only [Memory.answer, Memory.createNew] at answered
    split at answered
    · cases answered
      exact told
    · cases answered
      exact told.put path []
  | remove path => exact told.remove answered
  | openFile path => exact told.openFile answered
  | readAt handle offset count =>
    rcases Memory.withObject_cases answered with ⟨-, same⟩ | ⟨object, file, behind, same⟩
    · cases same
      exact told
    · split at same
      · cases same
        exact told.of_tables rfl rfl rfl rfl rfl
      · cases same
        exact told
  | writeAt handle offset bytes => exact told.writeAt answered
  | tryLock handle =>
    rcases Memory.withObject_cases answered with ⟨-, same⟩ | ⟨object, file, behind, same⟩
    · cases same
      exact told
    · split at same
      · cases same
        apply told.relocked sound rfl rfl rfl rfl
        apply of_updateObject
        intro file
        rfl
      · cases same
        exact told
  | unlock handle =>
    rcases Memory.withObject_cases answered with ⟨-, same⟩ | ⟨object, file, behind, same⟩
    · cases same
      exact told
    · cases same
      exact told.relocked sound rfl rfl rfl rfl (of_updateObject Memory.bytes_released)
  | _ =>
    rcases Memory.withObject_cases answered with ⟨-, same⟩ | ⟨object, file, behind, same⟩
    · cases same
      exact told
    · cases same
      exact told

/-- Hooks are set behind the back of the annals, and the tables stay. -/
theorem misbehave (told : Told memory annals) (amount : Nat) (kind : Misbehaviour) :
    Told (memory.misbehave amount kind) annals := by
  have tables : (memory.misbehave amount kind).names = memory.names ∧
      (memory.misbehave amount kind).objects = memory.objects ∧
      (memory.misbehave amount kind).handles = memory.handles ∧
      (memory.misbehave amount kind).nextObject = memory.nextObject ∧
      (memory.misbehave amount kind).nextHandle = memory.nextHandle := by
    cases kind <;> exact ⟨rfl, rfl, rfl, rfl, rfl⟩
  obtain ⟨names, objects, handles, born, given⟩ := tables
  exact told.of_tables names objects handles born given

end Told

namespace Watched

/-- Every touch leaves the tables as the annals then tell. -/
theorem told_touch {watched : Watched} (told : Told watched.memory watched.annals) (touch : Touch) :
    Told (watched.touch touch).memory (watched.touch touch).annals := by
  cases touch with
  | ask request => exact told.answer rfl
  | close handle => exact told.close handle
  | put path bytes => exact told.put path bytes
  | misbehave amount kind => exact told.misbehave amount kind

/-- After all that has been done to a new memory its tables hold what the annals tell. -/
theorem told_after (touches : List Touch) : Told (after touches).memory (after touches).annals := by
  suffices onward : ∀ watched : Watched, Told watched.memory watched.annals →
      Told (touches.foldl touch watched).memory (touches.foldl touch watched).annals from
    onward {} .empty
  induction touches with
  | nil => exact fun _ told => told
  | cons first rest ih => exact fun watched told => ih _ (told_touch told first)

/-- A file is replaced while a handle is open on it, and that handle goes on writing to it. -/
example :
    let annals := (after [.put ⟨"flag"⟩ [1], .ask (.openFile ⟨"flag"⟩), .put ⟨"flag"⟩ [0],
      .ask (.openFile ⟨"flag"⟩), .ask (.writeAt ⟨0⟩ 2 [7])]).annals
    live annals = [(⟨1⟩, ⟨1⟩), (⟨0⟩, ⟨0⟩)] ∧ written (layers annals ⟨0⟩) = [1, 0, 7] ∧
      written (layers annals ⟨1⟩) = [0] := by decide +kernel

end Watched

end CrashMarker
