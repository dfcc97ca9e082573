/-
Module: CrashMarker.Proofs.Patience
Purpose: Every operation comes to an end on a storage that asks for only so many repetitions.
Main exports:
  Script.Reaches, Script.Reaches.exists_run, Patient, Script.Halts, Operation.halts
-/
import CrashMarker.Proofs.Operations

namespace CrashMarker

/-!
Nothing in an operation bounds how often it tries a call again.  What bounds it is the storage: it
interrupts a transfer, or refuses a removal, only so many times.  The number of times that are left is
its patience, and no action may add to it, so that each part of an operation hands on to the next no
more than it got.
-/

variable {σ : Type} [Storage σ] {conduct : Conduct σ} {α β : Type}

namespace Script

/-- However the storage answers, the script comes to an end, and `ends` holds there. -/
inductive Reaches (conduct : Conduct σ) (ends : α → World σ → Prop) :
    Script α → World σ → Prop where
  | done {result : α} {world : World σ} (holds : ends result world) :
      Reaches conduct ends (done result) world
  | step {script : Script α} {world : World σ} {action : Action} {next : action.Answer → Script α}
      (acting : script.head = .acting action next)
      (further : ∀ answer after, action.Allowed conduct world answer after →
        Reaches conduct ends (next answer) after) : Reaches conduct ends script world

/-- A call reaches an end if every answer to it does. -/
theorem reaches_ask {ends : α → World σ → Prop} {request : Request}
    {next : request.Answer → Script α} {world : World σ}
    (further : ∀ answer storage, conduct request world.storage answer storage →
      (next answer).Reaches conduct ends { world with storage }) :
    (act (.ask request) next).Reaches conduct ends world := by
  refine .step rfl ?_
  rintro answer after ⟨storage, answered, rfl⟩
  exact further answer storage answered

theorem Reaches.mono {ends weaker : α → World σ → Prop} {script : Script α} {world : World σ}
    (reaches : script.Reaches conduct ends world)
    (weaken : ∀ result after, ends result after → weaker result after) :
    script.Reaches conduct weaker world := by
  induction reaches with
  | done holds => exact .done (weaken _ _ holds)
  | step acting _ inductionHypothesis => exact .step acting inductionHypothesis

/-- A sequence reaches an end if its second part does, wherever the first has ended. -/
theorem reaches_bind {ends : β → World σ → Prop} {script : Script α} {next : α → Script β}
    {world : World σ}
    (first : script.Reaches conduct (fun result after => (next result).Reaches conduct ends after)
      world) : (script.bind next).Reaches conduct ends world := by
  induction first with
  | done holds => exact holds
  | step acting _ inductionHypothesis =>
    exact .step (head_bind_of_acting acting next) inductionHypothesis

/-- Where the storage answers in one way, a script that comes to an end can be run. -/
theorem Reaches.exists_run {ends : α → World σ → Prop} {script : Script α} {world : World σ}
    (reaches : script.Reaches (Conduct.honest σ) ends world) :
    ∃ budget result after, script.run budget world = some (result, after) ∧ ends result after := by
  induction reaches with
  | done holds => exact ⟨0, _, _, run_done _ _ _, holds⟩
  | @step script world action next acting _ inductionHypothesis =>
    obtain ⟨budget, result, after, ran, holds⟩ :=
      inductionHypothesis _ _ ((Action.allowed_honest_iff _ _ _ _).2 rfl)
    exact ⟨budget + 1, result, after, (run_succ_of_head_acting acting budget world).trans ran, holds⟩

end Script

/-- A storage of which `patience` counts how many more times it may make an operation try again. -/
structure Patient (conduct : Conduct σ) (patience : σ → Nat) : Prop where
  calls : ∀ {request before answer after}, conduct request before answer after →
    patience after ≤ patience before
  closes : ∀ {handle storage}, patience (Storage.close handle storage) ≤ patience storage
  reads : ∀ {handle offset count before cause after},
    conduct (.readAt handle offset count) before (.error cause) after → cause.isInterrupted →
      patience after < patience before
  writes : ∀ {handle offset bytes before cause after},
    conduct (.writeAt handle offset bytes) before (.error cause) after → cause.isInterrupted →
      patience after < patience before
  removes : ∀ {path before cause after}, conduct (.remove path) before (.error cause) after →
    (∀ missing, cause ≠ .notFound missing) → patience after < patience before

variable {patience : σ → Nat}

/-- No action adds to the patience of the storage. -/
theorem Patient.actions (patient : Patient conduct patience) {world after : World σ}
    {action : Action} {answer : action.Answer} (allowed : action.Allowed conduct world answer after) :
    patience after.storage ≤ patience world.storage := by
  cases action with
  | ask request =>
    obtain ⟨storage, answered, rfl⟩ := allowed
    exact patient.calls answered
  | close handle =>
    cases allowed
    exact patient.closes
  | _ =>
    cases allowed
    exact Nat.le_refl _

namespace Script

/-- From everywhere the script comes to an end, with no more patience left than there was. -/
def Halts (conduct : Conduct σ) (patience : σ → Nat) (script : Script α) : Prop :=
  ∀ world, script.Reaches conduct
    (fun _ after => patience after.storage ≤ patience world.storage) world

theorem halts_done (result : α) : (done result).Halts conduct patience :=
  fun _ => .done (Nat.le_refl _)

theorem halts_act (patient : Patient conduct patience) {action : Action}
    {next : action.Answer → Script α} (further : ∀ answer, (next answer).Halts conduct patience) :
    (act action next).Halts conduct patience := by
  intro world
  refine .step rfl fun answer after allowed => ?_
  exact (further answer after).mono fun _ _ less => Nat.le_trans less (patient.actions allowed)

theorem halts_perform (patient : Patient conduct patience) (action : Action) :
    (perform action).Halts conduct patience :=
  halts_act patient halts_done

/-- Two scripts that halt do so one after the other. -/
theorem halts_bind {script : Script α} {next : α → Script β}
    (first : script.Halts conduct patience) (second : ∀ result, (next result).Halts conduct patience) :
    (script.bind next).Halts conduct patience := by
  intro world
  refine reaches_bind ((first world).mono fun result middle spent => ?_)
  exact (second result middle).mono fun _ _ less => Nat.le_trans less spent

/-- A repetition halts if each turn that is followed by another costs patience or comes nearer to
what the repetition is for. -/
theorem halts_cycle {τ γ : Type} {state : τ} {first : τ → Action}
    {turn : (state : τ) → (first state).Answer → Script (Turn τ γ)} {next : γ → Script α}
    (ahead : τ → Nat)
    (turns : ∀ state world, (act (first state) (turn state)).Reaches conduct (fun decision after =>
      patience after.storage ≤ patience world.storage ∧ ∀ following, decision = .again following →
        patience after.storage + ahead following < patience world.storage + ahead state) world)
    (second : ∀ result, (next result).Halts conduct patience) :
    (cycle state first turn next).Halts conduct patience := by
  intro world
  induction measure : patience world.storage + ahead state using Nat.strongRecOn
    generalizing state world with
  | ind count inductionHypothesis =>
    have turned := turns state world
    cases turned with
    | step acting further =>
      cases acting
      refine .step rfl fun answer after allowed => reaches_bind ?_
      refine (further answer after allowed).mono ?_
      rintro decision last ⟨spent, nearer⟩
      cases decision with
      | again following =>
        have shorter := nearer following rfl
        rw [measure] at shorter
        exact (inductionHypothesis _ shorter last rfl).mono
          fun _ _ less => Nat.le_trans less spent
      | stop result =>
        exact (second result last).mono fun _ _ less => Nat.le_trans less spent

/-! ## Transfers -/

/-- A read ends: each turn fills some of the buffer, or uses up patience, or is the last. -/
theorem halts_readFull (patient : Patient conduct patience) (handle : Handle) (offset count : Nat) :
    (readFull handle offset count).Halts conduct patience := by
  unfold readFull
  split
  · exact halts_done _
  · refine halts_cycle (fun sofar => count - sofar.length) ?_ halts_done
    intro sofar world
    refine reaches_ask fun answer storage answered => .done ⟨patient.calls answered, ?_⟩
    intro following again
    have spent := patient.calls answered
    unfold readTurn at again
    split at again
    · cases again
    next byte bytes =>
      simp only at again
      split at again
      next short =>
        cases again
        rw [List.length_append, List.length_cons] at short ⊢
        simp only
        omega
      next => cases again
    next cause =>
      split at again
      next interrupted =>
        cases again
        have less := patient.reads answered interrupted
        simp only
        omega
      next => cases again

/-- A write ends for the same reason. -/
theorem halts_writeFull (patient : Patient conduct patience) (handle : Handle) (offset : Nat)
    (bytes : List UInt8) : (writeFull handle offset bytes).Halts conduct patience := by
  unfold writeFull
  split
  · exact halts_done _
  · refine halts_cycle (fun written => bytes.length - written) ?_ halts_done
    intro written world
    refine reaches_ask fun answer storage answered => .done ⟨patient.calls answered, ?_⟩
    intro following again
    have spent := patient.calls answered
    unfold writeTurn at again
    split at again
    · cases again
    next moved =>
      split at again
      next short =>
        cases again
        simp only
        omega
      next => cases again
    next cause =>
      split at again
      next interrupted =>
        cases again
        have less := patient.writes answered interrupted
        simp only
        omega
      next => cases again

end Script

/-! ## Guarded parts -/

namespace Guarded

/-- With every lifecycle the part comes to an end, whichever end that is. -/
def Halts (conduct : Conduct σ) (patience : σ → Nat) (body : Guarded α) : Prop :=
  ∀ lifecycle, Script.Halts conduct patience (body.run.run lifecycle)

theorem halts_pure (value : α) : (pure value : Guarded α).Halts conduct patience :=
  fun _ => Script.halts_done _

theorem halts_throw (error : StoreError) : (throw error : Guarded α).Halts conduct patience :=
  fun _ => Script.halts_done _

theorem halts_get : (get : Guarded Lifecycle).Halts conduct patience :=
  fun _ => Script.halts_done _

theorem halts_set (lifecycle : Lifecycle) :
    (set lifecycle : Guarded PUnit).Halts conduct patience :=
  fun _ => Script.halts_done _

theorem halts_modify (change : Lifecycle → Lifecycle) :
    (modify change : Guarded PUnit).Halts conduct patience :=
  fun _ => Script.halts_done _

theorem halts_bind {body : Guarded α} {next : α → Guarded β}
    (first : body.Halts conduct patience) (second : ∀ value, (next value).Halts conduct patience) :
    (body >>= next).Halts conduct patience := by
  intro lifecycle
  apply Script.halts_bind (first lifecycle)
  rintro ⟨outcome, left⟩
  cases outcome with
  | ok value => exact second value left
  | error error => exact Script.halts_done _

theorem halts_lift {step : Script α} (halts : step.Halts conduct patience) :
    (lift step).Halts conduct patience :=
  fun _ => Script.halts_bind (Script.halts_bind halts fun _ => Script.halts_done _)
    fun _ => Script.halts_done _

theorem halts_require {step : Script (Except StoreError α)} (halts : step.Halts conduct patience) :
    (require step).Halts conduct patience := by
  refine halts_bind (halts_lift halts) fun outcome => ?_
  cases outcome with
  | ok value => exact halts_pure value
  | error error => exact halts_throw error

theorem halts_ask (patient : Patient conduct patience) (request : Request) :
    (ask request).Halts conduct patience :=
  halts_lift (Script.halts_perform patient _)

theorem halts_call (patient : Patient conduct patience) (request : Request) :
    (call request).Halts conduct patience := by
  refine halts_bind (halts_ask patient request) fun answer => ?_
  cases answer with
  | ok value => exact halts_pure value
  | error cause => exact halts_throw _

theorem halts_emit (patient : Patient conduct patience) (event : Event) :
    (emit event).Halts conduct patience :=
  halts_lift (Script.halts_perform patient _)

theorem halts_ensureNotOpen (operation : String) :
    (ensureNotOpen operation).Halts conduct patience := by
  refine halts_bind halts_get fun lifecycle => ?_
  split
  · exact halts_throw _
  · exact halts_pure _

/-- Closing the handle of a failed part is one more action. -/
theorem halts_closingOnFailure (patient : Patient conduct patience) {handle : Handle}
    {body : Guarded α} (halts : body.Halts conduct patience) :
    (closingOnFailure handle body).Halts conduct patience := by
  intro lifecycle
  apply Script.halts_bind (halts lifecycle)
  rintro ⟨outcome, left⟩
  cases outcome with
  | ok value => exact Script.halts_done _
  | error error =>
    exact halts_bind (halts_lift (Script.halts_perform patient _)) (fun _ => halts_throw error) left

theorem halts_script (patient : Patient conduct patience) {body : Guarded α}
    (halts : body.Halts conduct patience) : body.script.Halts conduct patience := by
  refine Script.halts_bind (Script.halts_perform patient _) fun lifecycle => ?_
  refine Script.halts_bind (halts lifecycle) fun result => ?_
  exact Script.halts_bind (Script.halts_perform patient _) fun _ => Script.halts_done _

end Guarded

/-! ## Operations -/

namespace Target

/-- Saving a record halts, since writing it does. -/
theorem halts_persist (patient : Patient conduct patience) (target : Target) (handle : Handle)
    (record : Record) : (target.persist handle record).Halts conduct patience := by
  refine Guarded.halts_bind (Guarded.halts_require (Script.halts_writeFull patient _ _ _)) fun _ => ?_
  split
  · exact Guarded.halts_call patient _
  · exact Guarded.halts_pure _

theorem halts_publish (patient : Patient conduct patience) (record : Record) :
    (publish record).Halts conduct patience :=
  Guarded.halts_bind (Guarded.halts_lift (Script.halts_perform patient _))
    fun _ => Guarded.halts_lift (Script.halts_perform patient _)

theorem halts_acquireLock (patient : Patient conduct patience) (target : Target) (handle : Handle) :
    (target.acquireLock handle).Halts conduct patience := by
  unfold acquireLock
  split
  · exact Guarded.halts_pure _
  · refine Guarded.halts_bind (Guarded.halts_call patient _) fun taken => ?_
    split
    · exact Guarded.halts_pure _
    · exact Guarded.halts_bind (Guarded.halts_emit patient _) fun _ => Guarded.halts_throw _

theorem halts_probeLock (patient : Patient conduct patience) (target : Target) :
    target.probeLock.Halts conduct patience := by
  refine Guarded.halts_bind (Guarded.halts_ask patient _) fun answer => ?_
  split
  · exact Guarded.halts_emit patient _
  · refine Guarded.halts_bind (Guarded.halts_closingOnFailure patient ?_)
      fun _ => Guarded.halts_lift (Script.halts_perform patient _)
    refine Guarded.halts_bind (Guarded.halts_ask patient _) fun answer => ?_
    split
    · refine Guarded.halts_bind (Guarded.halts_ask patient _) fun answer => ?_
      split
      · exact Guarded.halts_pure _
      · exact Guarded.halts_emit patient _
    · exact Guarded.halts_bind (Guarded.halts_emit patient _) fun _ => Guarded.halts_throw _
    · exact Guarded.halts_emit patient _

theorem halts_load (patient : Patient conduct patience) (handle : Handle) :
    (load handle).Halts conduct patience := by
  refine Script.halts_bind (Script.halts_perform patient _) fun answer => ?_
  split
  · exact Script.halts_done _
  · refine Script.halts_bind (Script.halts_readFull patient _ _ _) fun filled => ?_
    split
    · exact Script.halts_done _
    · exact Script.halts_done _

/-- Bringing an opened marker to the current layout halts, with a write or without one. -/
theorem halts_normalize (patient : Patient conduct patience) (target : Target) (handle : Handle) :
    (target.normalize handle).Halts conduct patience := by
  refine Guarded.halts_bind (Guarded.halts_require (halts_load patient _)) fun loaded => ?_
  split
  · exact Guarded.halts_bind (halts_persist patient _ _ _) fun _ => Guarded.halts_pure _
  · refine Guarded.halts_bind (halts_persist patient _ _ _) fun _ => ?_
    exact Guarded.halts_bind (Guarded.halts_emit patient _) fun _ => Guarded.halts_pure _
  · exact Guarded.halts_pure _

theorem halts_ensurePresent (patient : Patient conduct patience) (target : Target) :
    target.ensurePresent.Halts conduct patience := by
  refine Guarded.halts_bind (Guarded.halts_call patient _) fun found => ?_
  split
  · refine Guarded.halts_bind (Guarded.halts_ask patient _) fun answer => ?_
    split
    · exact Guarded.halts_modify _
    · exact Guarded.halts_pure _
    · exact Guarded.halts_throw _
  · exact Guarded.halts_pure _

theorem halts_removeOld (patient : Patient conduct patience) (target : Target) :
    target.removeOld.Halts conduct patience := by
  refine Guarded.halts_bind (Guarded.halts_ask patient _) fun answer => ?_
  split
  · exact Guarded.halts_pure _
  · exact Guarded.halts_throw _

theorem halts_clear (patient : Patient conduct patience) (target : Target) :
    target.clear.Halts conduct patience := by
  refine Guarded.halts_bind (Guarded.halts_call patient _) fun found => ?_
  split
  · simp only
    split
    · exact Guarded.halts_bind (halts_probeLock patient _) fun _ => halts_removeOld patient _
    · exact halts_removeOld patient _
  · exact Guarded.halts_pure _

theorem halts_make (patient : Patient conduct patience) (target : Target) :
    target.make.Halts conduct patience := by
  refine Guarded.halts_bind (Guarded.halts_ask patient _) fun answer => ?_
  have rest : ∀ handle, (Guarded.closingOnFailure handle do
      let locked ← acquireLock target handle
      persist target handle .created
      publish .created
      adopt handle locked
      Guarded.emit (.created target.path locked)).Halts conduct patience := by
    intro handle
    refine Guarded.halts_closingOnFailure patient ?_
    refine Guarded.halts_bind (halts_acquireLock patient _ _) fun locked => ?_
    refine Guarded.halts_bind (halts_persist patient _ _ _) fun _ => ?_
    refine Guarded.halts_bind (halts_publish patient _) fun _ => ?_
    exact Guarded.halts_bind (Guarded.halts_set _) fun _ => Guarded.halts_emit patient _
  split
  · refine Guarded.halts_bind (Guarded.halts_modify _) fun _ => ?_
    exact Guarded.halts_bind (Guarded.halts_call patient _) rest
  · exact Guarded.halts_throw _

theorem halts_create (patient : Patient conduct patience) (target : Target) :
    target.create.Halts conduct patience := by
  rw [create_eq]
  apply Guarded.halts_script patient
  refine Guarded.halts_bind (Guarded.halts_ensureNotOpen _) fun _ => ?_
  exact Guarded.halts_bind (halts_clear patient _) fun _ => halts_make patient _

theorem halts_openMarker (patient : Patient conduct patience) (target : Target) :
    target.openMarker.Halts conduct patience := by
  apply Guarded.halts_script patient
  refine Guarded.halts_bind (Guarded.halts_ensureNotOpen _) fun _ => ?_
  refine Guarded.halts_bind (halts_ensurePresent patient _) fun _ => ?_
  refine Guarded.halts_bind (Guarded.halts_call patient _) fun handle => ?_
  apply Guarded.halts_closingOnFailure patient
  refine Guarded.halts_bind (halts_acquireLock patient _ _) fun locked => ?_
  refine Guarded.halts_bind (halts_normalize patient _ _) fun record => ?_
  refine Guarded.halts_bind (halts_publish patient _) fun _ => ?_
  exact Guarded.halts_bind (Guarded.halts_set _) fun _ => Guarded.halts_emit patient _

theorem halts_letGo (patient : Patient conduct patience) (handle : Handle) (locked : Bool) :
    (letGo handle locked).Halts conduct patience := by
  refine Guarded.halts_bind (Guarded.halts_closingOnFailure patient ?_)
    fun _ => Guarded.halts_lift (Script.halts_perform patient _)
  split
  · exact Guarded.halts_call patient _
  · exact Guarded.halts_pure _

theorem halts_closeMarker (patient : Patient conduct patience) (target : Target) :
    target.closeMarker.Halts conduct patience := by
  refine Guarded.halts_script patient (Guarded.halts_bind Guarded.halts_get fun before => ?_)
  split
  · refine Guarded.halts_bind (Guarded.halts_set _) fun _ => ?_
    exact Guarded.halts_bind (halts_letGo patient _ _) fun _ => Guarded.halts_emit patient _
  · exact Guarded.halts_pure _

/-- A removal is tried again only if it failed and the file is still there. -/
theorem halts_removeUntilGone (patient : Patient conduct patience) (target : Target) :
    target.removeUntilGone.Halts conduct patience := by
  refine Script.halts_cycle (fun _ => 0) ?_ Script.halts_done
  intro warned world
  refine Script.reaches_ask fun answer storage answered => ?_
  have spent := patient.calls answered
  split
  · exact .done ⟨spent, nofun⟩
  · exact .done ⟨spent, nofun⟩
  next cause other =>
    have less := patient.removes answered other
    refine Script.reaches_bind (Script.reaches_ask fun answer looked answered => .done ?_)
    have kept := patient.calls answered
    have within : patience looked ≤ patience world.storage := Nat.le_trans kept spent
    have nearer : patience looked < patience world.storage := Nat.lt_of_le_of_lt kept less
    cases answer with
    | error failure => exact .done ⟨within, nofun⟩
    | ok found =>
      cases found with
      | false => exact .done ⟨within, nofun⟩
      | true =>
        cases warned with
        | true => exact .done ⟨within, fun _ _ => nearer⟩
        | false =>
          refine .step rfl fun answer after allowed => ?_
          cases allowed
          exact .done ⟨within, fun _ _ => nearer⟩

/-- A store that is to let go of its marker removes it after that. -/
theorem halts_delete (patient : Patient conduct patience) (target : Target) :
    target.delete.Halts conduct patience := by
  have discarding : (do
      modify fun lifecycle : Lifecycle => { lifecycle with state := .deleted }
      Guarded.require target.removeUntilGone
      Guarded.emit (.deleted target.path) : Guarded Unit).Halts conduct patience := by
    refine Guarded.halts_bind (Guarded.halts_modify _) fun _ => ?_
    exact Guarded.halts_bind (Guarded.halts_require (halts_removeUntilGone patient _))
      fun _ => Guarded.halts_emit patient _
  refine Guarded.halts_script patient (Guarded.halts_bind Guarded.halts_get fun before => ?_)
  simp only
  split
  · exact Guarded.halts_pure _
  · split
    · refine Guarded.halts_bind (Guarded.halts_set _) fun _ => ?_
      exact Guarded.halts_bind (halts_letGo patient _ _) fun _ => discarding
    · exact discarding

theorem halts_transition (patient : Patient conduct patience) (target : Target) (flag : Flag)
    (value : Bool) : (target.transition flag value).Halts conduct patience := by
  refine Script.halts_bind (Script.halts_perform patient _) fun cached => ?_
  split
  · exact Script.halts_done _
  · apply Guarded.halts_script patient
    refine Guarded.halts_bind (Guarded.halts_lift (Script.halts_perform patient _)) fun cached => ?_
    split
    · exact Guarded.halts_pure _
    · refine Guarded.halts_bind Guarded.halts_get fun lifecycle => ?_
      split
      · exact Guarded.halts_throw _
      · refine Guarded.halts_bind (Guarded.halts_lift (Script.halts_perform patient _)) fun _ => ?_
        refine Guarded.halts_bind (Guarded.halts_lift (Script.halts_perform patient _)) fun _ => ?_
        refine Guarded.halts_bind (halts_persist patient _ _ _) fun _ => ?_
        refine Guarded.halts_bind (Guarded.halts_lift (Script.halts_perform patient _)) fun _ => ?_
        exact Guarded.halts_emit patient _

end Target

/-- Every operation comes to an end on a patient storage. -/
theorem Operation.halts (patient : Patient conduct patience) (target : Target)
    (operation : Operation) : (operation.script target).Halts conduct patience := by
  cases operation with
  | create => exact Target.halts_create patient target
  | openMarker => exact Target.halts_openMarker patient target
  | closeMarker => exact Target.halts_closeMarker patient target
  | delete => exact Target.halts_delete patient target
  | transition flag value => exact Target.halts_transition patient target flag value

end CrashMarker
