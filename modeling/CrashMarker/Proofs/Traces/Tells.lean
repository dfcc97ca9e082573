/-
Module: CrashMarker.Proofs.Traces.Tells
Purpose: What a script has done by the time it ends: the actions taken, the result, and the world.
Main exports:
  Script.Ends.of_bind, Script.Tells, Guarded.Tells, and one rule for each way in which a script is put
  together
-/
import CrashMarker.Proofs.Upholds

namespace CrashMarker

/-!
On a storage whose conduct is not fixed, what an operation has written, locked or published cannot be
read off the storage.  It can be read off the actions taken and the answers that they got.  `Tells`
speaks about those where a script ends.  The rules are those of `Upholds`, with the actions of a
sequence one after the other.
-/

variable {σ : Type} [Storage σ] {conduct : Conduct σ} {α β : Type}

namespace Script

/-- A sequence ends where its second script does, after the actions of both. -/
theorem Ends.of_bind {script : Script α} {next : α → Script β} {world after : World σ}
    {taken : List Taken} {result : β}
    (ended : (script.bind next).Ends conduct world taken result after) :
    ∃ early late first middle, taken = early ++ late ∧ script.Ends conduct world early first middle ∧
      (next first).Ends conduct middle late result after := by
  rcases Passes.of_bind ended with ⟨rest, within, stopped⟩ | ⟨early, late, first, middle, cut, one,
    two⟩
  · obtain ⟨first, rfl, last⟩ := bind_eq_done stopped.symm
    exact ⟨taken, [], first, after, (List.append_nil taken).symm, within, last ▸ .here _ _⟩
  · exact ⟨early, late, first, middle, cut, one, two⟩

/-- Wherever the script ends, `ends` holds of the actions taken, the result and the world. -/
structure Tells (conduct : Conduct σ) (script : Script α) (world : World σ)
    (ends : List Taken → α → World σ → Prop) : Prop where
  of_ends : ∀ {taken : List Taken} {result : α} {after : World σ},
    script.Ends conduct world taken result after → ends taken result after

variable {world : World σ}

theorem Tells.mono {script : Script α} {ends weaker : List Taken → α → World σ → Prop}
    (tells : script.Tells conduct world ends)
    (weaken : ∀ taken result after, ends taken result after → weaker taken result after) :
    script.Tells conduct world weaker :=
  ⟨fun ended => weaken _ _ _ (tells.of_ends ended)⟩

theorem tells_done {result : α} {ends : List Taken → α → World σ → Prop}
    (holds : ends [] result world) : (done result).Tells conduct world ends := by
  constructor
  intro taken other after ended
  cases ended with
  | here => exact holds
  | step acting => cases acting

/-- An action is told first, whatever it has yielded, and then what follows upon it. -/
theorem tells_act {action : Action} {next : action.Answer → Script α}
    {ends : List Taken → α → World σ → Prop}
    (further : ∀ answer middle, action.Allowed conduct world answer middle →
      (next answer).Tells conduct middle fun late => ends (⟨action, answer⟩ :: late)) :
    (act action next).Tells conduct world ends := by
  constructor
  intro taken result after ended
  cases ended with
  | step acting allowed rest =>
    cases acting
    exact (further _ _ allowed).of_ends rest

/-- A sequence tells of its first part, and then of its second. -/
theorem tells_bind {script : Script α} {next : α → Script β}
    {ends : List Taken → β → World σ → Prop}
    (first : script.Tells conduct world fun early result middle =>
      (next result).Tells conduct middle fun late => ends (early ++ late)) :
    (script.bind next).Tells conduct world ends := by
  constructor
  intro taken result after ended
  obtain ⟨early, late, value, middle, rfl, one, two⟩ := ended.of_bind
  exact (first.of_ends one).of_ends two

/-- An invariant of the actions so far, which every turn hands on to the next, carries through a
repetition. -/
theorem tells_cycle {τ γ : Type} {state : τ} {first : τ → Action}
    {turn : (state : τ) → (first state).Answer → Script (Turn τ γ)} {next : γ → Script α}
    {ends : List Taken → α → World σ → Prop} (invariant : List Taken → τ → World σ → Prop)
    (begins : invariant [] state world)
    (turns : ∀ sofar state world, invariant sofar state world →
      (act (first state) (turn state)).Tells conduct world fun taken decision after =>
        match decision with
        | .again following => invariant (sofar ++ taken) following after
        | .stop result =>
          (next result).Tells conduct after fun late => ends (sofar ++ taken ++ late)) :
    (cycle state first turn next).Tells conduct world ends := by
  constructor
  intro taken result after ended
  -- The actions are taken apart turn by turn, so the induction is on their number.
  suffices onward : ∀ count sofar state world taken, taken.length = count →
      invariant sofar state world →
      (cycle state first turn next).Ends conduct world taken result after →
      ends (sofar ++ taken) result after from onward _ [] state world taken rfl begins ended
  intro count
  induction count using Nat.strongRecOn with
  | ind count inductionHypothesis =>
    intro sofar state world taken length holds ended
    cases ended with
    | @step _ _ _ _ _ _ _ answer taken acting allowed further =>
      cases acting
      obtain ⟨early, late, decision, middle, rfl, one, two⟩ := Ends.of_bind further
      have turned := (turns sofar state world holds).of_ends (.step rfl allowed one)
      cases decision with
      | again following =>
        have shorter : late.length < count := by
          rw [← length, List.length_cons, List.length_append]
          omega
        have reached := inductionHypothesis _ shorter _ following middle late rfl turned two
        simpa using reached
      | stop value => simpa using turned.of_ends two

theorem tells_perform {action : Action} {ends : List Taken → action.Answer → World σ → Prop}
    (holds : ∀ answer after, action.Allowed conduct world answer after →
      ends [⟨action, answer⟩] answer after) :
    (perform action).Tells conduct world ends :=
  tells_act fun answer after allowed => tells_done (holds answer after allowed)

/-- A call is told with its answer, and the storage is as the call has left it. -/
theorem tells_ask {request : Request} {ends : List Taken → request.Answer → World σ → Prop}
    (holds : ∀ answer storage, conduct request world.storage answer storage →
      ends [⟨.ask request, answer⟩] answer { world with storage }) :
    (ask request).Tells conduct world ends := by
  apply tells_perform
  rintro answer after ⟨storage, answered, rfl⟩
  exact holds answer storage answered

/-- An action that is no call does only what it is for. -/
theorem tells_private {action : Action} {ends : List Taken → action.Answer → World σ → Prop}
    (fixed : ∀ answer after, action.Allowed conduct world answer after →
      action.perform world = (answer, after))
    (holds : ends [⟨action, (action.perform world).1⟩] (action.perform world).1
      (action.perform world).2) :
    (perform action).Tells conduct world ends := by
  apply tells_perform
  intro answer after allowed
  rw [fixed answer after allowed] at holds
  exact holds

theorem tells_close {handle : Handle} {ends : List Taken → Unit → World σ → Prop}
    (holds : ends [⟨.close handle, ()⟩] ()
      { world with storage := Storage.close handle world.storage }) :
    (close handle).Tells conduct world ends :=
  tells_private (fun _ _ allowed => allowed) holds

theorem tells_emit {event : Event} {ends : List Taken → Unit → World σ → Prop}
    (holds : ends [⟨.emit event, ()⟩] () { world with events := world.events ++ [event] }) :
    (emit event).Tells conduct world ends :=
  tells_private (fun _ _ allowed => allowed) holds

theorem tells_load {flag : Flag} {ends : List Taken → Bool → World σ → Prop}
    (holds : ends [⟨.load flag, world.cached.get flag⟩] (world.cached.get flag) world) :
    (perform (.load flag)).Tells conduct world ends :=
  tells_private (fun _ _ allowed => allowed) holds

theorem tells_store {flag : Flag} {value : Bool} {ends : List Taken → Unit → World σ → Prop}
    (holds : ends [⟨.store flag value, ()⟩] ()
      { world with cached := world.cached.set flag value }) :
    (perform (.store flag value)).Tells conduct world ends :=
  tells_private (fun _ _ allowed => allowed) holds

theorem tells_acquire {ends : List Taken → Lifecycle → World σ → Prop}
    (holds : ends [⟨.acquire, world.lifecycle⟩] world.lifecycle world) :
    (perform .acquire).Tells conduct world ends :=
  tells_private (fun _ _ allowed => allowed) holds

theorem tells_release {lifecycle : Lifecycle} {ends : List Taken → Unit → World σ → Prop}
    (holds : ends [⟨.release lifecycle, ()⟩] () { world with lifecycle }) :
    (perform (.release lifecycle)).Tells conduct world ends :=
  tells_private (fun _ _ allowed => allowed) holds

end Script

/-! ## The rules of guarded parts -/

namespace Guarded

/-- The same for a part that runs under the mutex with the given lifecycle: `ends` also tells the
lifecycle that the part leaves behind. -/
def Tells (conduct : Conduct σ) (body : Guarded α) (lifecycle : Lifecycle) (world : World σ)
    (ends : List Taken → Except StoreError α → Lifecycle → World σ → Prop) : Prop :=
  Script.Tells conduct (body.run.run lifecycle) world fun taken result after =>
    ends taken result.1 result.2 after

variable {lifecycle : Lifecycle} {world : World σ}

theorem Tells.mono {body : Guarded α}
    {ends weaker : List Taken → Except StoreError α → Lifecycle → World σ → Prop}
    (tells : body.Tells conduct lifecycle world ends)
    (weaken : ∀ taken outcome left after, ends taken outcome left after →
      weaker taken outcome left after) :
    body.Tells conduct lifecycle world weaker :=
  Script.Tells.mono tells fun taken result after => weaken taken result.1 result.2 after

theorem tells_pure {value : α}
    {ends : List Taken → Except StoreError α → Lifecycle → World σ → Prop}
    (holds : ends [] (.ok value) lifecycle world) :
    (pure value : Guarded α).Tells conduct lifecycle world ends :=
  Script.tells_done holds

theorem tells_throw {error : StoreError}
    {ends : List Taken → Except StoreError α → Lifecycle → World σ → Prop}
    (holds : ends [] (.error error) lifecycle world) :
    (throw error : Guarded α).Tells conduct lifecycle world ends :=
  Script.tells_done holds

/-- A guarded sequence tells of its second part only if the first went well. -/
theorem tells_bind {body : Guarded α} {next : α → Guarded β}
    {ends : List Taken → Except StoreError β → Lifecycle → World σ → Prop}
    (first : body.Tells conduct lifecycle world fun early outcome left after =>
      match outcome with
      | .ok value => (next value).Tells conduct left after fun late => ends (early ++ late)
      | .error error => ends early (.error error) left after) :
    (body >>= next).Tells conduct lifecycle world ends := by
  apply Script.tells_bind
  apply Script.Tells.mono first
  rintro early ⟨outcome, left⟩ after reached
  cases outcome with
  | ok value => exact reached
  | error error =>
    apply Script.tells_done
    rw [List.append_nil]
    exact reached

theorem tells_get {ends : List Taken → Except StoreError Lifecycle → Lifecycle → World σ → Prop}
    (holds : ends [] (.ok lifecycle) lifecycle world) :
    (get : Guarded Lifecycle).Tells conduct lifecycle world ends :=
  Script.tells_done holds

theorem tells_set {following : Lifecycle}
    {ends : List Taken → Except StoreError PUnit → Lifecycle → World σ → Prop}
    (holds : ends [] (.ok ⟨⟩) following world) :
    (set following : Guarded PUnit).Tells conduct lifecycle world ends :=
  Script.tells_done holds

theorem tells_modify {change : Lifecycle → Lifecycle}
    {ends : List Taken → Except StoreError PUnit → Lifecycle → World σ → Prop}
    (holds : ends [] (.ok ⟨⟩) (change lifecycle) world) :
    (modify change : Guarded PUnit).Tells conduct lifecycle world ends :=
  Script.tells_done holds

theorem tells_lift {step : Script α}
    {ends : List Taken → Except StoreError α → Lifecycle → World σ → Prop}
    (holds : step.Tells conduct world fun taken value after =>
      ends taken (.ok value) lifecycle after) :
    (lift step).Tells conduct lifecycle world ends := by
  apply Script.tells_bind
  apply Script.tells_bind
  refine holds.mono fun taken value after reached => ?_
  apply Script.tells_done
  apply Script.tells_done
  rw [List.append_nil, List.append_nil]
  exact reached

theorem tells_ask {request : Request}
    {ends : List Taken → Except StoreError request.Answer → Lifecycle → World σ → Prop}
    (holds : ∀ answer storage, conduct request world.storage answer storage →
      ends [⟨.ask request, answer⟩] (.ok answer) lifecycle { world with storage }) :
    (ask request).Tells conduct lifecycle world ends :=
  tells_lift (Script.tells_ask holds)

/-- A call that has to succeed is told with its answer, and an error ends the part. -/
theorem tells_call {request : Request}
    {ends : List Taken → Except StoreError request.Value → Lifecycle → World σ → Prop}
    (holds : ∀ answer storage, conduct request world.storage answer storage →
      ends [⟨.ask request, answer⟩] (answer.mapError .storage) lifecycle { world with storage }) :
    (call request).Tells conduct lifecycle world ends := by
  apply tells_bind
  apply tells_ask
  intro answer storage answered
  have reached := holds answer storage answered
  cases answer with
  | ok value => exact tells_pure reached
  | error cause => exact tells_throw reached

/-- A step that may fail tells of its failure. -/
theorem tells_require {step : Script (Except StoreError α)}
    {ends : List Taken → Except StoreError α → Lifecycle → World σ → Prop}
    (holds : step.Tells conduct world fun taken outcome after => ends taken outcome lifecycle after) :
    (require step).Tells conduct lifecycle world ends := by
  apply tells_bind
  apply tells_lift
  apply holds.mono
  intro taken outcome after reached
  rw [← List.append_nil taken] at reached
  cases outcome with
  | ok value => exact tells_pure reached
  | error error => exact tells_throw reached

theorem tells_emit {event : Event}
    {ends : List Taken → Except StoreError Unit → Lifecycle → World σ → Prop}
    (holds : ends [⟨.emit event, ()⟩] (.ok ()) lifecycle
      { world with events := world.events ++ [event] }) :
    (emit event).Tells conduct lifecycle world ends :=
  tells_lift (Script.tells_emit holds)

/-- An operation for a store that is not open tells of nothing but the state. -/
theorem tells_ensureNotOpen {operation : String}
    {ends : List Taken → Except StoreError Unit → Lifecycle → World σ → Prop}
    (refused : lifecycle.state = .opened →
      ends [] (.error (.alreadyOpen operation)) lifecycle world)
    (passed : lifecycle.state ≠ .opened → ends [] (.ok ()) lifecycle world) :
    (ensureNotOpen operation).Tells conduct lifecycle world ends := by
  apply tells_bind
  apply tells_get
  by_cases opened : lifecycle.state = .opened
  · simp only [opened, if_true]
    exact tells_throw (refused opened)
  · simp only [opened, if_false]
    exact tells_pure (passed opened)

/-- A part that fails closes its handle after all that it has done. -/
theorem tells_closingOnFailure {handle : Handle} {body : Guarded α}
    {ends : List Taken → Except StoreError α → Lifecycle → World σ → Prop}
    (holds : body.Tells conduct lifecycle world fun taken outcome left after =>
      match outcome with
      | .ok value => ends taken (.ok value) left after
      | .error error => ends (taken ++ [⟨.close handle, ()⟩]) (.error error) left
        { after with storage := Storage.close handle after.storage }) :
    (closingOnFailure handle body).Tells conduct lifecycle world ends := by
  apply Script.tells_bind
  apply Script.Tells.mono holds
  rintro taken ⟨outcome, left⟩ after reached
  cases outcome with
  | ok value =>
    apply Script.tells_done
    rw [List.append_nil]
    exact reached
  | error error =>
    apply tells_bind
    apply tells_lift
    apply Script.tells_close
    exact tells_throw reached

/-- The mutex is taken before all that a guarded part does, and given back after it. -/
theorem tells_script {body : Guarded α} {ends : List Taken → Except StoreError α → World σ → Prop}
    (holds : body.Tells conduct world.lifecycle world fun taken outcome left after =>
      ends (⟨.acquire, world.lifecycle⟩ :: taken ++ [⟨.release left, ()⟩]) outcome
        { after with lifecycle := left }) :
    body.script.Tells conduct world ends := by
  apply Script.tells_bind
  apply Script.tells_acquire
  apply Script.tells_bind
  apply Script.Tells.mono holds
  rintro taken ⟨outcome, left⟩ after reached
  apply Script.tells_bind
  apply Script.tells_release
  exact Script.tells_done reached

end Guarded

end CrashMarker
