/-
Module: CrashMarker.Proofs.Traces.Turns
Purpose: What the calls of a whole transfer come to, one after the other, and how they end it.
Main exports:
  Upshot, Taken.upshot, interruptions, Due, Concludes, Ongoing, Script.Passes.of_asking,
  Script.Interrupted, Script.Interrupted.reaches
-/
import CrashMarker.Proofs.Patience
import CrashMarker.Proofs.Traces.Evidence

namespace CrashMarker

/-!
A whole transfer makes one call after the other, and every answer decides whether there is another.  What
it has come to can be told from the answers alone: each has moved some bytes, or has been interrupted, or
has moved nothing, or has failed, and the latter two end the transfer.
-/

/-! ## Single calls -/

/-- What came of one call of a transfer. -/
inductive Upshot where
  /-- Some bytes were moved. -/
  | moved
  /-- The call was interrupted, and may be made again. -/
  | interrupted
  /-- No byte was moved, although the call succeeded. -/
  | starved
  | failed (cause : StorageError)
deriving DecidableEq, Repr

/-- Whether the transfer goes on after the call, if there are bytes left. -/
def Upshot.goesOn : Upshot → Bool
  | .moved => true
  | .interrupted => true
  | .starved => false
  | .failed _ => false

/-- What came of an action, if it is a call of a transfer. -/
def Taken.upshot : Taken → Upshot
  | ⟨.ask (.writeAt _ _ _), .ok 0⟩ => .starved
  | ⟨.ask (.readAt _ _ _), .ok []⟩ => .starved
  | ⟨.ask _, .error cause⟩ => if cause.isInterrupted then .interrupted else .failed cause
  | _ => .moved

/-- How many of the calls were interrupted. -/
def interruptions (taken : List Taken) : Nat :=
  taken.countP fun step => step.upshot = .interrupted

theorem interruptions_concat (taken : List Taken) (step : Taken) :
    interruptions (taken ++ [step]) =
      interruptions taken + if step.upshot = .interrupted then 1 else 0 := by
  simp [interruptions, List.countP_append]

/-- An interruption never ends a transfer. -/
theorem Upshot.goesOn_of_interrupted {upshot : Upshot} (interrupted : upshot = .interrupted) :
    upshot.goesOn = true := by
  rw [interrupted]
  rfl

/-- Every action is the one that was due after those before it. -/
def Due (due : List Taken → Action) (taken : List Taken) : Prop :=
  ∀ early step, early ++ [step] <+: taken → step.action = due early

theorem due_nil (due : List Taken → Action) : Due due [] := by
  intro early step begins
  cases early with
  | nil => cases List.prefix_nil.1 begins
  | cons => cases List.prefix_nil.1 begins

/-- A further action that was due keeps everything in turn. -/
theorem Due.concat {due : List Taken → Action} {taken : List Taken} {step : Taken}
    (before : Due due taken) (last : step.action = due taken) : Due due (taken ++ [step]) := by
  intro early other begins
  rcases List.prefix_concat_iff.1 begins with latest | earlier
  · obtain ⟨rfl, same⟩ := List.append_inj' latest rfl
    cases same
    exact last
  · exact before early other earlier

/-! ## Transfers that are under way, and that have ended -/

/-- A transfer has moved some of its bytes and goes on. -/
structure Ongoing (total moved : Nat) (taken : List Taken) : Prop where
  short : moved < total
  onward : ∀ step ∈ taken, step.upshot.goesOn = true
  /-- Every call has moved a byte unless it was interrupted. -/
  steps : taken.length ≤ moved + interruptions taken

/-- A transfer has ended.  It has succeeded exactly if it has moved all of its bytes; otherwise its error
is that of the last call, which was the first not to be interrupted nor to move anything. -/
structure Concludes (total moved : Nat) (starved : StoreError) (taken : List Taken)
    (outcome : Except StoreError Unit) : Prop where
  whole : outcome = .ok () ↔ moved = total
  starves : outcome = .error starved ↔ ∃ step ∈ taken, step.upshot = .starved
  fails : ∀ cause, outcome = .error (.storage cause) ↔ ∃ step ∈ taken, step.upshot = .failed cause
  reason : ∀ error, outcome = .error error → error = starved ∨ ∃ cause, error = .storage cause
  onward : ∀ step ∈ taken.dropLast, step.upshot.goesOn = true
  steps : taken.length ≤ total + interruptions taken

section Calls

variable {total moved : Nat} {taken : List Taken} {step : Taken} {starved : StoreError}

/-- Before the first call nothing has moved. -/
theorem ongoing_nil (some : 0 < total) : Ongoing total 0 [] :=
  ⟨some, List.forall_mem_nil _, Nat.le_refl _⟩

namespace Ongoing

/-- An interrupted call moves nothing. -/
theorem interrupted (ongoing : Ongoing total moved taken) (upshot : step.upshot = .interrupted) :
    Ongoing total moved (taken ++ [step]) where
  short := ongoing.short
  onward := List.forall_mem_append.2
    ⟨ongoing.onward, List.forall_mem_singleton.2 (Upshot.goesOn_of_interrupted upshot)⟩
  steps := by
    have steps := ongoing.steps
    rw [interruptions_concat, if_pos upshot, List.length_append, List.length_singleton]
    omega

/-- A call that has moved something brings the transfer further. -/
theorem further (ongoing : Ongoing total moved taken) {count : Nat} (upshot : step.upshot = .moved)
    (some : moved < count) (short : count < total) : Ongoing total count (taken ++ [step]) where
  short := short
  onward := List.forall_mem_append.2
    ⟨ongoing.onward, List.forall_mem_singleton.2 (by rw [upshot]; rfl)⟩
  steps := by
    have steps := ongoing.steps
    rw [interruptions_concat, List.length_append, List.length_singleton]
    omega

/-- As long as calls go on, none of them has moved nothing or failed. -/
theorem none_stops (ongoing : Ongoing total moved taken) {upshot : Upshot}
    (stops : upshot.goesOn = false) : ¬ ∃ step ∈ taken, step.upshot = upshot := by
  rintro ⟨step, isTaken, rfl⟩
  rw [ongoing.onward step isTaken] at stops
  cases stops

/-- Whether any call has come to something that ends the transfer shows in the last one. -/
theorem exists_concat_iff (ongoing : Ongoing total moved taken) {upshot : Upshot}
    (stops : upshot.goesOn = false) :
    (∃ last ∈ taken ++ [step], last.upshot = upshot) ↔ step.upshot = upshot := by
  constructor
  · rintro ⟨last, isTaken, same⟩
    rcases List.mem_append.1 isTaken with early | latest
    · exact absurd ⟨last, early, same⟩ (ongoing.none_stops stops)
    · rw [← List.mem_singleton.1 latest]
      exact same
  · intro same
    exact ⟨step, List.mem_append_right _ (List.mem_singleton.2 rfl), same⟩

/-- No more calls are made than there are bytes, beside the interrupted ones. -/
theorem length_concat_le (ongoing : Ongoing total moved taken) :
    (taken ++ [step]).length ≤ total + interruptions (taken ++ [step]) := by
  have short := ongoing.short
  have steps := ongoing.steps
  rw [interruptions_concat, List.length_append, List.length_singleton]
  omega

/-- Every call but the last has let the transfer go on. -/
theorem dropLast_onward (ongoing : Ongoing total moved taken) :
    ∀ early ∈ (taken ++ [step]).dropLast, early.upshot.goesOn = true := by
  rw [List.dropLast_concat]
  exact ongoing.onward

/-- A transfer that has moved its last byte has succeeded. -/
theorem full (ongoing : Ongoing total moved taken) (upshot : step.upshot = .moved) :
    Concludes total total starved (taken ++ [step]) (.ok ()) where
  whole := ⟨fun _ => rfl, fun _ => rfl⟩
  starves := by
    rw [ongoing.exists_concat_iff rfl, upshot]
    exact ⟨nofun, nofun⟩
  fails cause := by
    rw [ongoing.exists_concat_iff rfl, upshot]
    exact ⟨nofun, nofun⟩
  reason := nofun
  onward := ongoing.dropLast_onward
  steps := ongoing.length_concat_le

/-- A call that moves nothing ends the transfer with an error of its own. -/
theorem stalled (ongoing : Ongoing total moved taken) (upshot : step.upshot = .starved)
    (own : ∀ cause, starved ≠ .storage cause) :
    Concludes total moved starved (taken ++ [step]) (.error starved) where
  whole := ⟨nofun, fun full => absurd full (Nat.ne_of_lt ongoing.short)⟩
  starves := by
    rw [ongoing.exists_concat_iff rfl]
    exact ⟨fun _ => upshot, fun _ => rfl⟩
  fails cause := by
    rw [ongoing.exists_concat_iff rfl, upshot]
    constructor
    · intro same
      exact absurd (Except.error.inj same) (own cause)
    · nofun
  reason error same := Or.inl (Except.error.inj same).symm
  onward := ongoing.dropLast_onward
  steps := ongoing.length_concat_le

/-- A call that fails ends the transfer with its error. -/
theorem failed (ongoing : Ongoing total moved taken) {cause : StorageError}
    (upshot : step.upshot = .failed cause) (own : ∀ cause, starved ≠ .storage cause) :
    Concludes total moved starved (taken ++ [step]) (.error (.storage cause)) where
  whole := ⟨nofun, fun full => absurd full (Nat.ne_of_lt ongoing.short)⟩
  starves := by
    rw [ongoing.exists_concat_iff rfl, upshot]
    constructor
    · intro same
      exact absurd (Except.error.inj same).symm (own cause)
    · nofun
  fails other := by
    rw [ongoing.exists_concat_iff rfl, upshot]
    simp
  reason error same := Or.inr ⟨cause, (Except.error.inj same).symm⟩
  onward := ongoing.dropLast_onward
  steps := ongoing.length_concat_le

end Ongoing

/-- A transfer of no bytes has ended before it has begun. -/
theorem concludes_nothing : Concludes 0 0 starved [] (.ok ()) where
  whole := ⟨fun _ => rfl, fun _ => rfl⟩
  starves := by simp
  fails := by simp
  reason := nofun
  onward := List.forall_mem_nil _
  steps := Nat.le_refl _

end Calls

/-! ## Repetitions that make one call in each turn -/

namespace Script

variable {σ : Type} [Storage σ] {conduct : Conduct σ} {world after : World σ} {taken : List Taken}

/-- What every answer hands on from one turn to the next holds wherever such a repetition gets to, and of
what it ends with. -/
theorem Passes.of_asking {τ β : Type} {request : τ → Request} {state : τ}
    {judge : (state : τ) → (request state).Answer → Turn τ β} {last : Script β}
    {holds : List Taken → Turn τ β → Prop} (begins : holds [] (.again state))
    (turns : ∀ sofar state answer before after, holds sofar (.again state) →
      conduct (request state) before answer after →
      holds (sofar ++ [⟨.ask (request state), answer⟩]) (judge state answer))
    (passes : Passes conduct (.cycle state (fun state => .ask (request state))
      (fun state answer => .done (judge state answer)) .done) world taken last after) :
    ∃ decision, holds taken decision ∧ ∀ result, last = .done result → decision = .stop result := by
  suffices onward : ∀ sofar, holds sofar (.again state) → ∃ decision,
      holds (sofar ++ taken) decision ∧ ∀ result, last = .done result → decision = .stop result from
    onward [] begins
  intro sofar reached
  clear begins
  induction taken generalizing state world sofar with
  | nil =>
    cases passes
    exact ⟨.again state, by rwa [List.append_nil], nofun⟩
  | cons step taken inductionHypothesis =>
    cases passes with
    | @step _ _ _ _ _ _ _ answer _ acting allowed further =>
      cases acting
      obtain ⟨storage, answered, rfl⟩ := allowed
      have turned := turns sofar state answer _ _ reached answered
      rw [List.append_cons]
      simp only [done_bind] at further
      cases decided : judge state answer with
      | again following =>
        rw [decided] at turned further
        exact inductionHypothesis further _ turned
      | stop value =>
        rw [decided] at turned further
        cases further with
        | here =>
          refine ⟨.stop value, by rwa [List.append_nil], fun result same => ?_⟩
          cases same
          rfl
        | step acting => cases acting

/-- However the calls are answered, no more than so many are interrupted. -/
def Interrupted {α : Type} (conduct : Conduct σ) (script : Script α) (world : World σ)
    (limit : Nat) : Prop :=
  ∀ taken last after, Passes conduct script world taken last after → interruptions taken ≤ limit

/-- A script of which every passage is bounded comes to an end, however its calls are answered. -/
theorem reaches_of_bounded {α : Type} {script : Script α} {limit : Nat}
    (bounded : ∀ taken last after, Passes conduct script world taken last after →
      taken.length ≤ limit) : script.Reaches conduct (fun _ _ => True) world := by
  induction limit generalizing script world with
  | zero =>
    cases next : script.head with
    | finished result =>
      rw [eq_done_of_head_finished next]
      exact .done trivial
    | acting action following =>
      refine .step next fun answer after allowed => ?_
      have one := bounded _ _ _ (.step next allowed (.here _ _))
      cases one
  | succ limit inductionHypothesis =>
    cases next : script.head with
    | finished result =>
      rw [eq_done_of_head_finished next]
      exact .done trivial
    | acting action following =>
      refine .step next fun answer after allowed => inductionHypothesis ?_
      intro taken last final passes
      exact Nat.le_of_succ_le_succ (bounded _ _ _ (.step next allowed passes))

/-- A script of which only interrupted calls may be too many comes to an end if they are not. -/
theorem Interrupted.reaches {α : Type} {script : Script α} {total limit : Nat}
    (interrupted : script.Interrupted conduct world limit)
    (steps : ∀ taken last after, Passes conduct script world taken last after →
      taken.length ≤ total + interruptions taken) : script.Reaches conduct (fun _ _ => True) world := by
  have bounded : ∀ taken last after, Passes conduct script world taken last after →
      taken.length ≤ total + limit := by
    intro taken last after passes
    have one := steps taken last after passes
    have two := interrupted taken last after passes
    omega
  exact reaches_of_bounded bounded

end Script

end CrashMarker
