/-
Module: CrashMarker.Proofs.Company.Scene
Purpose: What a store can rely on while others use the same memory between any two of its calls.
Main exports: Setting, Scene, Scene.Proper, Amid, Amid.serves
-/
import CrashMarker.Proofs.Serving

namespace CrashMarker

/-!
A store that is not alone cannot know what its memory will be like at its next call.  It can rely on
little: its handle stays open on the file that it was opened on, and while the handle has the lock the
others leave the bytes of that file alone.  A scene is what a store can rely on.  In turn it has to make
the calls only that the others rely on, and a store that makes any other call goes astray.
-/

/-- What the others leave alone, and what they allow a store to do. -/
structure Setting where
  path : Path
  /-- A file at the path stays there. -/
  lasting : Prop
  /-- Somebody else has the lock on the file at the path all the time. -/
  barred : Prop
  /-- The store may let the file tell another value of these flags. -/
  touched : Flag → Prop

/-- The flags that the store must not touch are told as before. -/
def Setting.Spares (setting : Setting) (before after : Option (List UInt8)) : Prop :=
  ∀ flag, ¬ setting.touched flag → (Record.loaded after).get flag = (Record.loaded before).get flag

/-- What a store can rely on, which has one handle open at a time. -/
inductive Scene where
  /-- Nothing is open, and perhaps a file has been seen at the path. -/
  | away (seen : Bool)
  /-- A file is open, and its lock has not been taken. -/
  | watching (handle : Handle)
  /-- A file is open under a lock, with these bytes. -/
  | holding (handle : Handle) (bytes : List UInt8)
  /-- The store has made a call that the others do not reckon with. -/
  | astray
deriving DecidableEq

namespace Scene

/-- The handles that are open. -/
def handles : Scene → List Handle
  | .away _ => []
  | .watching handle => [handle]
  | .holding handle _ => [handle]
  | .astray => []

/-- Only a handle that is open is to be closed, and then the file is still where it was. -/
def close (handle : Handle) (scene : Scene) : Scene :=
  if scene.handles = [handle] then .away true else .astray

@[simp] theorem close_watching (handle : Handle) : (watching handle).close handle = .away true :=
  if_pos rfl

/-- The calls that the others reckon with: on the path while nothing is open, and through the handle
once it is.  What is written must not show in the flags that are not to be touched. -/
def Proper (setting : Setting) (request : Request) : Scene → Prop
  | .away _ =>
    match request with
    | .present path => path = setting.path
    | .createNew path => path = setting.path
    | .remove path => path = setting.path ∧ ¬ setting.lasting
    | .openFile path => path = setting.path
    | _ => False
  | .watching mine =>
    match request with
    | .tryLock handle => handle = mine
    | _ => False
  | .holding mine bytes =>
    match request with
    | .unlock handle => handle = mine
    | .size handle => handle = mine
    | .sync handle => handle = mine
    | .readAt handle _ _ => handle = mine
    | .writeAt handle offset chunk =>
      handle = mine ∧ 0 < chunk.length ∧ ∀ moved, moved ≤ chunk.length →
        setting.Spares (some bytes) (some (overlay bytes offset (chunk.take moved)))
    | _ => False
  | .astray => False

/-- The store makes the calls that the others reckon with. -/
def Sane (scene : Scene) : Prop := scene ≠ .astray

@[simp] theorem sane_away (seen : Bool) : (away seen).Sane := nofun

@[simp] theorem sane_watching (handle : Handle) : (watching handle).Sane := nofun

@[simp] theorem sane_holding (handle : Handle) (bytes : List UInt8) :
    (holding handle bytes).Sane := nofun

/-- A handle that may be closed is the one that is open. -/
theorem handles_of_sane_close {handle : Handle} {scene : Scene} (sane : (scene.close handle).Sane) :
    scene.handles = [handle] := by
  by_cases only : scene.handles = [handle]
  · exact only
  · exact absurd (if_neg only) sane

end Scene

/-- A scene does not tell how a call is answered.  What it tells about the answers is `Amid`. -/
instance : Storage Scene where
  answer _ scene := (.error Memory.badHandle, scene)
  close handle scene := scene.close handle

@[simp] theorem Scene.storage_close (handle : Handle) (scene : Scene) :
    Storage.close handle scene = scene.close handle := rfl

/-- The answers that a store can get while others are about. -/
inductive Amid (setting : Setting) : (request : Request) → Scene → request.Answer → Scene → Prop where
  | present {path : Path} {seen found : Bool} (sure : setting.lasting → seen = true → found = true) :
      Amid setting (.present path) (.away seen) (.ok found) (.away found)
  | taken {path : Path} {seen : Bool} :
      Amid setting (.createNew path) (.away seen) (.error (.alreadyExists path)) (.away true)
  | made {path : Path} {seen : Bool} :
      Amid setting (.createNew path) (.away seen) (.ok ()) (.away true)
  | missing {path : Path} {seen : Bool} :
      Amid setting (.remove path) (.away seen) (.error (.notFound path)) (.away false)
  | removed {path : Path} {seen : Bool} :
      Amid setting (.remove path) (.away seen) (.ok ()) (.away false)
  | nowhere {path : Path} {seen : Bool} (unsure : setting.lasting → seen = false) :
      Amid setting (.openFile path) (.away seen) (.error (.notFound path)) (.away false)
  | opened {path : Path} {seen : Bool} {handle : Handle} :
      Amid setting (.openFile path) (.away seen) (.ok handle) (.watching handle)
  | locked {handle : Handle} {bytes : List UInt8} (free : ¬ setting.barred) :
      Amid setting (.tryLock handle) (.watching handle) (.ok true) (.holding handle bytes)
  | contended {handle : Handle} :
      Amid setting (.tryLock handle) (.watching handle) (.ok false) (.watching handle)
  | unlocked {handle : Handle} {bytes : List UInt8} :
      Amid setting (.unlock handle) (.holding handle bytes) (.ok ()) (.watching handle)
  | size {handle : Handle} {bytes : List UInt8} :
      Amid setting (.size handle) (.holding handle bytes) (.ok bytes.length) (.holding handle bytes)
  | sync {handle : Handle} {bytes : List UInt8} :
      Amid setting (.sync handle) (.holding handle bytes) (.ok ()) (.holding handle bytes)
  | readLater {handle : Handle} {bytes : List UInt8} {offset count : Nat} :
      Amid setting (.readAt handle offset count) (.holding handle bytes)
        (.error (.io (.bare .interrupted))) (.holding handle bytes)
  | read {handle : Handle} {bytes : List UInt8} {offset count moved : Nat}
      (some : 0 < count → 0 < moved) (bound : moved ≤ count) :
      Amid setting (.readAt handle offset count) (.holding handle bytes)
        (.ok ((bytes.drop offset).take moved)) (.holding handle bytes)
  | writeLater {handle : Handle} {bytes chunk : List UInt8} {offset : Nat} :
      Amid setting (.writeAt handle offset chunk) (.holding handle bytes)
        (.error (.io (.bare .interrupted))) (.holding handle bytes)
  | wrote {handle : Handle} {bytes chunk : List UInt8} {offset moved : Nat} (some : 0 < moved)
      (bound : moved ≤ chunk.length) :
      Amid setting (.writeAt handle offset chunk) (.holding handle bytes) (.ok moved)
        (.holding handle (overlay bytes offset (chunk.take moved)))
  /-- Nothing is known of a call that the others do not reckon with. -/
  | strays {request : Request} {scene : Scene} {answer : request.Answer}
      (improper : ¬ scene.Proper setting request) : Amid setting request scene answer .astray

/-- Whatever others do, the file that a store has under its lock serves the handle, if what is permitted
spares the flags that are not to be touched. -/
theorem Amid.serves {setting : Setting} {always : Scene → Prop} {handle : Handle}
    {permitted : List UInt8 → Prop}
    (shows : ∀ {bytes}, permitted bytes → always (.holding handle bytes))
    (spares : ∀ {before after}, permitted before → permitted after →
      setting.Spares (some before) (some after)) :
    Serves (Amid setting) always handle (fun _ => False) (fun bytes scene => scene = .holding handle bytes)
      permitted where
  shows := by
    rintro bytes scene rfl fits
    exact shows fits
  size := by
    rintro bytes before answer after rfl answered
    cases answered with
    | size => exact ⟨rfl, Or.inl rfl⟩
    | strays improper => exact absurd rfl improper
  sync := by
    rintro bytes before answer after rfl answered
    cases answered with
    | sync => exact ⟨rfl, Or.inl rfl⟩
    | strays improper => exact absurd rfl improper
  readAt := by
    rintro bytes offset count before answer after wanted rfl answered
    cases answered with
    | readLater => exact ⟨rfl, Or.inr ⟨_, Or.inr rfl, rfl⟩⟩
    | read some bound => exact ⟨rfl, Or.inl ⟨_, some wanted, bound, rfl⟩⟩
    | strays improper => exact absurd rfl improper
  writeAt := by
    rintro bytes offset chunk before answer after nonempty rfl fits prefixes answered
    cases answered with
    | writeLater => exact Or.inr ⟨_, Or.inr rfl, rfl, Or.inl rfl⟩
    | wrote some bound => exact Or.inl ⟨_, some, bound, rfl, rfl⟩
    | strays improper =>
      have proper : (Scene.holding handle bytes).Proper setting (.writeAt handle offset chunk) :=
        ⟨rfl, nonempty, fun moved bound => spares fits (prefixes moved bound)⟩
      exact absurd proper improper

end CrashMarker
