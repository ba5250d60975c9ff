import Arazzo.Proofs.Workflow.Attempt
import Mathlib.Data.List.Chain

/-!
# The trail of a run

The attempts of a run in their order, each with its position, what stood before it and what it left
behind. A trail is a path of the step machine if it starts at the first step and each attempt follows
from the one before it. Nothing here depends on how the loop of a run keeps its state.
-/

namespace Arazzo

/-- An attempt in its place in a run. -/
structure Stride where
  position : Nat
  step : Step
  before : Context
  opening : Session
  request : Request
  exchange : Exchange
  attempt : Attempt
  closing : Session

namespace Stride

variable (around : Surroundings) (workflow : Workflow)

abbrev result (s : Stride) : StepResult := s.attempt.result

/-- The context behind an attempt, with its outputs recorded. -/
def after (s : Stride) : Context := s.attempt.context.record s.result.stepId s.result.outputs

/-- The step at the position is attempted. -/
structure IsAttempt (s : Stride) : Prop where
  step_eq : workflow.steps[s.position]? = some s.step
  request_eq : Attempt.request around s.step (workflow.parameters.getD []) s.before s.opening =
    .ok s.request
  exchange_eq : around.client.send around.server s.request s.opening = (.ok s.exchange, s.closing)
  conclude_eq : Attempt.conclude around (around.judgedAt s.closing) s.step s.before s.exchange =
    .ok s.attempt

variable {around workflow}

theorem exists_isAttempt {position : Nat} {step : Step} {before : Context}
    {opening closing : Session} {attempt : Attempt}
    (hstep : workflow.steps[position]? = some step)
    (h : Attempt.execute around step (workflow.parameters.getD []) before opening =
      (.ok attempt, closing)) :
    ∃ s : Stride, s.IsAttempt around workflow ∧ s.position = position ∧ s.step = step ∧
      s.before = before ∧ s.opening = opening ∧ s.attempt = attempt ∧ s.closing = closing := by
  obtain ⟨request, exchange, hrequest, hsend, hconclude⟩ := Attempt.execute_ok_iff.mp h
  exact ⟨⟨position, step, before, opening, request, exchange, attempt, closing⟩,
    ⟨hstep, hrequest, hsend, hconclude⟩, rfl, rfl, rfl, rfl, rfl, rfl⟩

theorem IsAttempt.exists_judged {s : Stride} (h : s.IsAttempt around workflow) :
    ∃ snapshot, Snapshot.ofExchange s.exchange = .ok snapshot ∧
      Attempt.JudgedIn around s.step { s.before with snapshot := snapshot } s.attempt :=
  Attempt.exists_judged_of_conclude h.conclude_eq

end Stride

namespace Workflow

/-- A step is the first one with its identifier; in a checked workflow it is the only one. -/
def HasStepAt (workflow : Workflow) (i : Nat) (t : String) : Prop :=
  (∃ step, workflow.steps[i]? = some step ∧ step.stepId = t) ∧
    ∀ j < i, ∀ step, workflow.steps[j]? = some step → step.stepId ≠ t

theorem stepIndex?_eq_some_iff (workflow : Workflow) (t : String) (i : Nat) :
    workflow.stepIndex? t = some i ↔ workflow.HasStepAt i t := by
  unfold stepIndex? HasStepAt
  rw [List.findIdx?_eq_some_iff_getElem]
  constructor
  · rintro ⟨hi, heq, hfirst⟩
    refine ⟨⟨_, List.getElem?_eq_getElem hi, by simpa using heq⟩, fun j hj step hstep => ?_⟩
    obtain ⟨_, rfl⟩ := List.getElem?_eq_some_iff.mp hstep
    simpa using hfirst j hj
  · rintro ⟨⟨step, hstep, heq⟩, hfirst⟩
    obtain ⟨hi, rfl⟩ := List.getElem?_eq_some_iff.mp hstep
    refine ⟨hi, by simpa using heq, fun j hj => ?_⟩
    simpa using hfirst j hj _ (List.getElem?_eq_getElem (hj.trans hi))

theorem stepIndex?_eq_none_iff (workflow : Workflow) (t : String) :
    workflow.stepIndex? t = none ↔ ∀ step ∈ workflow.steps, step.stepId ≠ t := by
  simp [stepIndex?, List.findIdx?_eq_none_iff]

end Workflow

/-- Where a run goes on behind an attempt of the step at a position. -/
inductive Follows (workflow : Workflow) (i : Nat) (r : StepResult) : Nat → Prop
  | onward : r.nextAction = none → r.success = true → Follows workflow i r (i + 1)
  | jump {t : String} {j : Nat} : r.nextAction = some .goto → r.nextStepId = some t →
      workflow.HasStepAt j t → Follows workflow i r j
  | again : r.nextAction = some .retry → Follows workflow i r i

/-- An attempt is where the one before it leads, in the context and the session that it left. -/
structure Stride.Precedes (workflow : Workflow) (s t : Stride) : Prop where
  follows : Follows workflow s.position s.result t.position
  before_eq : t.before = s.after
  opening_eq : t.opening = s.closing

/-- A path of the step machine, from the first step on. -/
structure IsTrail (around : Surroundings) (workflow : Workflow) (inputs : Entries)
    (session : Session) (trail : List Stride) : Prop where
  attempts : ∀ s ∈ trail, s.IsAttempt around workflow
  first : ∀ s, trail.head? = some s →
    s.position = 0 ∧ s.before = .start inputs ∧ s.opening = session
  chained : trail.IsChain (Stride.Precedes workflow)

/-- The context that a trail leads to. -/
def contextAfter (inputs : Entries) (trail : List Stride) : Context :=
  (trail.getLast?.map Stride.after).getD (.start inputs)

/-- The session that a trail leads to. -/
def sessionAfter (session : Session) (trail : List Stride) : Session :=
  (trail.getLast?.map Stride.closing).getD session

/-- Whether a trail leads to a position. -/
def LeadsTo (workflow : Workflow) (trail : List Stride) (i : Nat) : Prop :=
  match trail.getLast? with
  | none => i = 0
  | some s => Follows workflow s.position s.result i

@[simp] theorem contextAfter_concat (inputs : Entries) (trail : List Stride) (s : Stride) :
    contextAfter inputs (trail ++ [s]) = s.after := by
  simp [contextAfter]

@[simp] theorem sessionAfter_concat (session : Session) (trail : List Stride) (s : Stride) :
    sessionAfter session (trail ++ [s]) = s.closing := by
  simp [sessionAfter]

@[simp] theorem leadsTo_concat (workflow : Workflow) (trail : List Stride) (s : Stride) (i : Nat) :
    LeadsTo workflow (trail ++ [s]) i ↔ Follows workflow s.position s.result i := by
  simp [LeadsTo]

section
variable {around : Surroundings} {workflow : Workflow} {inputs : Entries} {session : Session}

theorem IsTrail.nil : IsTrail around workflow inputs session [] where
  attempts := by simp
  first := by simp
  chained := List.isChain_nil

theorem IsTrail.concat {trail : List Stride} {s : Stride}
    (h : IsTrail around workflow inputs session trail) (hs : s.IsAttempt around workflow)
    (hposition : LeadsTo workflow trail s.position)
    (hbefore : s.before = contextAfter inputs trail)
    (hopening : s.opening = sessionAfter session trail) :
    IsTrail around workflow inputs session (trail ++ [s]) where
  attempts := by
    intro t ht
    rcases List.mem_append.mp ht with ht | ht
    · exact h.attempts t ht
    · exact List.mem_singleton.mp ht ▸ hs
  first := by
    intro t ht
    cases trail with
    | nil =>
      cases ht
      exact ⟨hposition, hbefore, hopening⟩
    | cons a rest => exact h.first t ht
  chained := by
    rcases List.eq_nil_or_concat trail with rfl | ⟨past, a, rfl⟩
    · exact List.isChain_singleton s
    · rw [List.concat_eq_append] at *
      rw [leadsTo_concat] at hposition
      rw [contextAfter_concat] at hbefore
      rw [sessionAfter_concat] at hopening
      refine List.isChain_append.mpr ⟨h.chained, List.isChain_singleton s, ?_⟩
      intro b hb t ht
      rw [List.getLast?_concat, Option.mem_some_iff] at hb
      cases ht
      exact hb ▸ ⟨hposition, hbefore, hopening⟩

theorem IsTrail.of_append {past rest : List Stride}
    (h : IsTrail around workflow inputs session (past ++ rest)) :
    IsTrail around workflow inputs session past where
  attempts := fun s hs => h.attempts s (List.mem_append_left rest hs)
  first := by
    intro s hs
    refine h.first s ?_
    rw [List.head?_append, hs]
    rfl
  chained := (List.isChain_append.mp h.chained).1

/-- Each attempt takes the context that those before it lead to. -/
theorem IsTrail.before_eq {past rest : List Stride} {s : Stride}
    (h : IsTrail around workflow inputs session (past ++ s :: rest)) :
    s.before = contextAfter inputs past := by
  rcases List.eq_nil_or_concat' past with rfl | ⟨past, a, rfl⟩
  · exact (h.first s rfl).2.1
  · obtain ⟨-, -, hjoined⟩ := List.isChain_append.mp h.chained
    rw [contextAfter_concat]
    exact (hjoined a (by simp) s rfl).before_eq

end

end Arazzo
