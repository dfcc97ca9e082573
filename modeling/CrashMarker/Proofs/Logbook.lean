/-
Module: CrashMarker.Proofs.Logbook
Purpose: The events that a store reports replay to its cached flags.
Main exports: Record.heed, replay, Accounts, Logbook, Logbook.replays_to_cached
-/
import CrashMarker.Proofs.Commands
import CrashMarker.Proofs.Ordinary
import CrashMarker.Proofs.Traces.Tells
import CrashMarker.Storage.Memory
import CrashMarker.Storage.Monitored

namespace CrashMarker

/-!
A store keeps two histories of its flags.  One is the cached flags, which hold the latest values; the
other is the log, which holds every value.  Nothing in the program compares the two.  They agree because
each operation that publishes flags reports one event about them right afterwards, and nothing else
that an operation does touches either history.
-/

/-! ## Reading the log -/

/-- The flags after an event, as far as the event speaks of them. -/
def Record.heed (record : Record) : Event → Record
  | .created _ _ => ⟨true, false⟩
  | .opened _ shown _ => shown
  | .persisted _ flag value => record.set flag value
  | _ => record

/-- The flags that a log tells, read from a store that has no marker yet. -/
def replay (log : List Event) : Record := log.foldl Record.heed ⟨false, false⟩

@[simp] theorem replay_snoc (log : List Event) (event : Event) :
    replay (log ++ [event]) = (replay log).heed event := by
  simp [replay]

/-- An event that does not speak of flags is nothing to heed. -/
theorem heed_of_idle {event : Event} (idle : event.tellsFlags = false) (record : Record) :
    record.heed event = record := by
  cases event <;> first | rfl | cases idle

/-- The log tells these flags, and every change of one flag that it reports was a change. -/
structure Accounts (log : List Event) (record : Record) : Prop where
  replays : replay log = record
  changes : ∀ early path flag value late, log = early ++ .persisted path flag value :: late →
    (replay early).get flag = !value

namespace Accounts

/-- The empty log tells a clean record. -/
theorem fresh : Accounts [] .clean :=
  ⟨rfl, fun early _ _ _ _ cut => by cases early <;> cases cut⟩

/-- One more event accounts for the flags it tells, unless it reports a change that is none. -/
theorem report {log : List Event} {record : Record} {event : Event} (accounts : Accounts log record)
    (real : ∀ path flag value, event = .persisted path flag value → record.get flag = !value) :
    Accounts (log ++ [event]) (record.heed event) where
  replays := by rw [replay_snoc, accounts.replays]
  changes early path flag value late cut := by
    rcases List.eq_nil_or_concat late with rfl | ⟨front, last, rfl⟩
    · obtain ⟨rfl, same⟩ := List.append_inj' cut rfl
      rw [accounts.replays]
      exact real path flag value (List.singleton_inj.1 same)
    · have cut : log ++ [event] = (early ++ .persisted path flag value :: front) ++ [last] := by
        simpa using cut
      exact accounts.changes early path flag value front (List.append_inj' cut rfl).1

/-- An event that does not speak of flags leaves the account as it is. -/
theorem idle {log : List Event} {record : Record} {event : Event} (accounts : Accounts log record)
    (idle : event.tellsFlags = false) : Accounts (log ++ [event]) record := by
  rw [← heed_of_idle idle record]
  refine accounts.report fun path flag value same => ?_
  rw [same] at idle
  cases idle

end Accounts

/-! ## Parts that leave both histories alone -/

/-- Whether an action leaves the cached flags alone and reports nothing about flags. -/
def Action.silent : Action → Prop
  | .store _ _ => False
  | .emit event => event.tellsFlags = false
  | _ => True

theorem Action.silent_of_ordinary {action : Action} (ordinary : action.ordinary) : action.silent := by
  cases action with
  | store => exact ordinary
  | emit => exact ordinary
  | _ => trivial

/-- The cached flags are those from before, and the log accounts for them if it did so before. -/
structure KeepsFlags {σ : Type} (before after : World σ) : Prop where
  cached : after.cached = before.cached
  accounts : Accounts before.events before.cached → Accounts after.events after.cached

variable {σ : Type} [Storage σ] {conduct : Conduct σ} {world : World σ} {α β : Type}

/-- A script that takes silent actions only leaves both histories alone. -/
theorem Script.Passes.keepsFlags {script last : Script α} {after : World σ} {taken : List Taken}
    (passes : Script.Passes conduct script world taken last after)
    (silent : script.Confined Action.silent) : KeepsFlags world after := by
  induction passes with
  | here => exact ⟨rfl, id⟩
  | @step script last action next world middle after answer taken acting allowed _
      inductionHypothesis =>
    obtain ⟨first, further⟩ := silent.of_head acting
    obtain ⟨cached, accounts⟩ := inductionHypothesis (further answer)
    suffices one : KeepsFlags world middle from ⟨cached.trans one.cached, accounts ∘ one.accounts⟩
    cases action with
    | ask request =>
      obtain ⟨storage, -, rfl⟩ := allowed
      exact ⟨rfl, id⟩
    | emit event =>
      cases allowed
      exact ⟨rfl, (·.idle first)⟩
    | store flag value => cases first
    | _ =>
      cases allowed
      exact ⟨rfl, id⟩

/-- The same where a guarded part ends. -/
theorem Guarded.Confined.tells {body : Guarded α} (silent : body.Confined Action.silent)
    (lifecycle : Lifecycle) :
    body.Tells conduct lifecycle world fun _ _ _ after => KeepsFlags world after :=
  ⟨fun ended => Script.Passes.keepsFlags ended (silent lifecycle)⟩

/-- What ordinary actions do leaves the flags and the log about them alone. -/
theorem Guarded.Confined.silent {body : Guarded α} (ordinary : body.Confined Action.ordinary) :
    body.Confined Action.silent :=
  Guarded.Confined.mono ordinary fun _ => Action.silent_of_ordinary

/-- Making a file is all that is silent but not ordinary. -/
theorem Target.silent_ensurePresent (target : Target) :
    target.ensurePresent.Confined Action.silent := by
  refine Guarded.confined_bind (Guarded.confined_call trivial) fun found => ?_
  split
  · refine Guarded.confined_bind (Guarded.confined_ask trivial) fun made => ?_
    split
    · exact Guarded.confined_modify _
    · exact Guarded.confined_pure _
    · exact Guarded.confined_throw _
  · exact Guarded.confined_pure _

/-! ## Operations keep the account -/

/-- The log accounts for the cached flags. -/
def World.Accounted (world : World σ) : Prop := Accounts world.events world.cached

/-- The events that tell all flags of a marker that has been set up. -/
inductive Announces : Record → Event → Prop where
  | created (path : Path) (locked : Bool) : Announces .created (.created path locked)
  | opened (path : Path) (record : Record) (locked : Bool) :
      Announces record (.opened path record locked)

/-- An event that tells all flags makes the log account for them, whatever it told before. -/
theorem Accounts.announced {log : List Event} {before record : Record} {event : Event}
    (accounts : Accounts log before) (announces : Announces record event) :
    Accounts (log ++ [event]) record := by
  cases announces with
  | created => exact accounts.report nofun
  | opened => exact accounts.report nofun

/-- What a guarded part does after a silent part is all that matters for the account. -/
theorem tells_after_silent {body : Guarded α} {next : α → Guarded β} {lifecycle : Lifecycle}
    (accounted : world.Accounted) (silent : body.Confined Action.silent)
    (further : ∀ value left (middle : World σ), middle.cached = world.cached → middle.Accounted →
      (next value).Tells conduct left middle fun _ _ _ after => after.Accounted) :
    (body >>= next).Tells conduct lifecycle world fun _ _ _ after => after.Accounted := by
  apply Guarded.tells_bind
  apply (silent.tells lifecycle).mono
  intro taken outcome left middle kept
  cases outcome with
  | ok value => exact further value left middle kept.cached (kept.accounts accounted)
  | error error => exact kept.accounts accounted

/-- Closing a handle does not concern the account. -/
theorem tells_accounted_closing {handle : Handle} {body : Guarded α} {lifecycle : Lifecycle}
    (accounted : body.Tells conduct lifecycle world fun _ _ _ after => after.Accounted) :
    (Guarded.closingOnFailure handle body).Tells conduct lifecycle world
      fun _ _ _ after => after.Accounted := by
  apply Guarded.tells_closingOnFailure
  apply accounted.mono
  rintro taken (error | value) left after accounted <;> exact accounted

namespace Target

/-- The flags that are published together are announced together. -/
theorem accounted_announcing {record : Record} {event : Event} (announces : Announces record event)
    (handle : Handle) (locked : Bool) (lifecycle : Lifecycle) (accounted : world.Accounted) :
    (do publish record; adopt handle locked; Guarded.emit event : Guarded Unit).Tells conduct
      lifecycle world fun _ _ _ after => after.Accounted := by
  unfold publish
  apply Guarded.tells_bind
  apply Guarded.tells_bind
  apply Guarded.tells_lift
  apply Script.tells_store
  apply Guarded.tells_lift
  apply Script.tells_store
  apply Guarded.tells_bind
  apply Guarded.tells_set
  apply Guarded.tells_emit
  exact Accounts.announced accounted announces

/-- After creating a marker the log accounts for the cached flags. -/
theorem accounted_create (target : Target) (accounted : world.Accounted) :
    target.create.Tells conduct world fun _ _ after => after.Accounted := by
  rw [create_eq]
  apply Guarded.tells_script
  apply tells_after_silent accounted (Guarded.confined_ensureNotOpen _)
  intro _ left world _ accounted
  apply tells_after_silent accounted (.silent (ordinary_clear target))
  intro _ left world _ accounted
  apply tells_after_silent accounted (Guarded.confined_ask trivial)
  intro made left world _ accounted
  split
  next =>
    apply tells_after_silent accounted (Guarded.confined_modify _)
    intro _ left world _ accounted
    apply tells_after_silent accounted (Guarded.confined_call trivial)
    intro handle left world _ accounted
    apply tells_accounted_closing
    apply tells_after_silent accounted (.silent (ordinary_acquireLock target handle))
    intro locked left world _ accounted
    apply tells_after_silent accounted (.silent (ordinary_persist target handle .created))
    intro _ left world _ accounted
    exact accounted_announcing (.created _ _) handle locked left accounted
  next => exact Guarded.tells_throw accounted

/-- After opening a marker the log accounts for the cached flags. -/
theorem accounted_openMarker (target : Target) (accounted : world.Accounted) :
    target.openMarker.Tells conduct world fun _ _ after => after.Accounted := by
  apply Guarded.tells_script
  apply tells_after_silent accounted (Guarded.confined_ensureNotOpen _)
  intro _ left world _ accounted
  apply tells_after_silent accounted (silent_ensurePresent target)
  intro _ left world _ accounted
  apply tells_after_silent accounted (Guarded.confined_call trivial)
  intro handle left world _ accounted
  apply tells_accounted_closing
  apply tells_after_silent accounted (.silent (ordinary_acquireLock target handle))
  intro locked left world _ accounted
  apply tells_after_silent accounted (.silent (ordinary_normalize target handle))
  intro record left world _ accounted
  exact accounted_announcing (.opened _ _ _) handle locked left accounted

/-- A transition reports its change right after it has made it, and it makes it only where the flag has
the other value. -/
theorem accounted_transition (target : Target) (flag : Flag) (value : Bool)
    (accounted : world.Accounted) :
    (target.transition flag value).Tells conduct world fun _ _ after => after.Accounted := by
  unfold transition
  apply Script.tells_bind
  apply Script.tells_load
  by_cases same : world.cached.get flag = value
  · rw [if_pos same]
    exact Script.tells_done accounted
  rw [if_neg same]
  apply Guarded.tells_script
  apply Guarded.tells_bind
  apply Guarded.tells_lift
  apply Script.tells_load
  simp only [if_neg same]
  apply Guarded.tells_bind
  apply Guarded.tells_get
  cases held : world.lifecycle.handle with
  | none =>
    simp only [held]
    exact Guarded.tells_throw accounted
  | some handle =>
    simp only [held]
    apply Guarded.tells_bind
    apply Guarded.tells_lift
    apply Script.tells_load
    apply Guarded.tells_bind
    apply Guarded.tells_lift
    apply Script.tells_load
    apply tells_after_silent accounted (.silent (ordinary_persist target handle _))
    intro _ left middle cached accounted
    have real : middle.cached.get flag = !value := by
      rw [cached]
      exact Bool.eq_not_of_ne same
    apply Guarded.tells_bind
    apply Guarded.tells_lift
    apply Script.tells_store
    apply Guarded.tells_emit
    refine Accounts.report accounted ?_
    rintro path other change ⟨⟩
    exact real

end Target

/-- No operation leaves the log and the cached flags apart, whatever its calls come to. -/
theorem Operation.accounted (operation : Operation) (target : Target) (accounted : world.Accounted) :
    (operation.script target).Tells conduct world fun _ _ after => after.Accounted := by
  have quiet : ∀ {script : Script (Except StoreError Unit)}, script.Confined Action.ordinary →
      script.Tells conduct world fun _ _ after => after.Accounted := by
    intro script ordinary
    have silent : script.Confined Action.silent := ordinary.mono fun _ => Action.silent_of_ordinary
    exact ⟨fun ended => (Script.Passes.keepsFlags ended silent).accounts accounted⟩
  cases operation with
  | create => exact target.accounted_create accounted
  | openMarker => exact target.accounted_openMarker accounted
  | closeMarker => exact quiet target.ordinary_closeMarker
  | delete => exact quiet target.ordinary_delete
  | transition flag value => exact target.accounted_transition flag value accounted

/-! ## The log of a store -/

/-- What a new store may go through, with everything that it has reported by then.  The storage may be
in any state when an operation begins, and it may answer calls as its conduct allows. -/
inductive Logbook (conduct : Conduct σ) (target : Target) : List Event → Store → Prop where
  | fresh : Logbook conduct target [] (.fresh target)
  /-- An operation came to its end, in success or in failure. -/
  | operated {log : List Event} {store : Store} {operation : Operation} {storage : σ}
      {taken : List Taken} {outcome : Except StoreError Unit} {world : World σ}
      (logbook : Logbook conduct target log store)
      (ended : (operation.script target).Ends conduct { store.world storage with events := log } taken
        outcome world) :
      Logbook conduct target world.events (store.after world)
  /-- The store was asked whether there is a file. -/
  | asked {log : List Event} {store : Store} {storage : σ} {taken : List Taken}
      {outcome : Except StoreError Bool} {world : World σ}
      (logbook : Logbook conduct target log store)
      (ended : target.present.Ends conduct { store.world storage with events := log } taken outcome
        world) :
      Logbook conduct target world.events (store.after world)

namespace Logbook

variable {target : Target} {log : List Event} {store : Store}

theorem target_eq (logbook : Logbook conduct target log store) : store.target = target := by
  induction logbook with
  | fresh => rfl
  | operated _ _ inductionHypothesis => exact inductionHypothesis
  | asked _ _ inductionHypothesis => exact inductionHypothesis

/-- At every point of a logbook the log accounts for the cached flags. -/
theorem accounts (logbook : Logbook conduct target log store) : Accounts log store.cached := by
  induction logbook with
  | fresh => exact .fresh
  | @operated log store operation storage _ _ _ _ ended inductionHypothesis =>
    have accounted : World.Accounted { store.world storage with events := log } := inductionHypothesis
    exact (operation.accounted target accounted).of_ends ended
  | asked _ ended inductionHypothesis =>
    have silent := target.ordinary_present.mono fun _ => Action.silent_of_ordinary
    exact (Script.Passes.keepsFlags ended silent).accounts inductionHypothesis

/-- After every operation the log replays to the cached flags, and each change of a flag that it
reports was a change from the opposite value. -/
theorem replays_to_cached (logbook : Logbook conduct target log store) :
    replay log = store.cached ∧
      ∀ early path flag value late, log = early ++ .persisted path flag value :: late →
        (replay early).get flag = !value :=
  ⟨logbook.accounts.replays, logbook.accounts.changes⟩

end Logbook

/-! ## A log that can be computed -/

/-- Let a store carry out operations one after the other, each within the given number of actions, and
keep its log. -/
def Store.keepLog (budget : Nat) :
    List Operation → List Event → Store → σ → Option (List Event × Store × σ)
  | [], log, store, storage => some (log, store, storage)
  | operation :: operations, log, store, storage =>
    match (operation.script store.target).run budget { store.world storage with events := log } with
    | none => none
    | some (_, world) =>
      keepLog budget operations world.events (store.after world) world.storage

/-- What a store has been computed to report is a logbook. -/
theorem Logbook.keepLog {target : Target} {budget : Nat} {operations : List Operation}
    {log later : List Event} {store last : Store} {storage after : σ}
    (logbook : Logbook (Conduct.honest σ) target log store)
    (kept : store.keepLog budget operations log storage = some (later, last, after)) :
    Logbook (Conduct.honest σ) target later last := by
  induction operations generalizing log store storage with
  | nil =>
    cases kept
    exact logbook
  | cons operation operations inductionHypothesis =>
    rw [Store.keepLog] at kept
    split at kept
    · cases kept
    next outcome world ran =>
      rw [logbook.target_eq] at ran
      obtain ⟨taken, ended⟩ := Script.ends_of_run ran
      exact inductionHypothesis (logbook.operated ended) kept

/-- A memory on which the second sync fails, and so does the first unlock. -/
def troubled : Monitored Memory where
  storage := {}
  faults := (Table.empty.set .sync [.none, .fail (.io (.bare .other)) true]).set .unlock
    [.fail (.io (.bare .other)) false]

/-- The log of a store whose first cleaning and first closing fail. -/
def eventful : List Event × Store × Monitored Memory :=
  ((Store.fresh { path := ⟨"marker"⟩ }).keepLog 40
    [.create, .transition .dirty false, .transition .rebuild true, .transition .dirty false,
      .transition .dirty false, .closeMarker, .openMarker, .transition .rebuild false] [] troubled).get
    (by decide)

theorem logbook_eventful :
    Logbook (Conduct.honest (Monitored Memory)) { path := ⟨"marker"⟩ } eventful.1 eventful.2.1 := by
  have kept : (Store.fresh { path := ⟨"marker"⟩ }).keepLog 40
      [.create, .transition .dirty false, .transition .rebuild true, .transition .dirty false,
        .transition .dirty false, .closeMarker, .openMarker, .transition .rebuild false] [] troubled =
      some eventful := (Option.some_get _).symm
  exact Logbook.fresh.keepLog kept

/-- Neither the change that failed nor the one that was none is in the log. -/
theorem Logbook.replays_to_cached_eventful :
    Logbook (Conduct.honest (Monitored Memory)) { path := ⟨"marker"⟩ } eventful.1 eventful.2.1 ∧
      eventful.1 = [.created ⟨"marker"⟩ true, .persisted ⟨"marker"⟩ .rebuild true,
        .persisted ⟨"marker"⟩ .dirty false, .opened ⟨"marker"⟩ ⟨false, true⟩ true,
        .persisted ⟨"marker"⟩ .rebuild false] ∧
      eventful.2.1.cached = ⟨false, false⟩ ∧ (replay (eventful.1.take 4)).get .rebuild = true := by
  obtain ⟨replays, changes⟩ := logbook_eventful.replays_to_cached
  have told : eventful.1 = [.created ⟨"marker"⟩ true, .persisted ⟨"marker"⟩ .rebuild true,
      .persisted ⟨"marker"⟩ .dirty false, .opened ⟨"marker"⟩ ⟨false, true⟩ true,
      .persisted ⟨"marker"⟩ .rebuild false] := by rfl
  refine ⟨logbook_eventful, told, ?_, ?_⟩
  · rw [← replays, told]
    rfl
  · exact changes _ ⟨"marker"⟩ .rebuild false [] told

end CrashMarker
