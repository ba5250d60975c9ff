import Arazzo.Proofs.Workflow.Visit
import Mathlib.Algebra.Order.BigOperators.Group.List

/-!
# Runs that end

A workflow whose gotos all lead forward bounds the attempts of its runs, whatever is answered. A
repetition spends one of the attempts that the step allows, and everything else leaves the step for a
later one: the attempts of a run are never more than those of the steps behind it, and those of the
visit under way.
-/

namespace Arazzo

/-- All that may follow an attempt of a step. -/
def Step.actions (step : Step) : Actions := step.onSuccess.getD [] ++ step.onFailure.getD []

/-- The limits that the retry actions of a step declare. -/
def Step.retryLimits (step : Step) : List (Option Int) :=
  step.actions.filterMap fun
    | .given action => if action.kind = .retry then some action.retryLimit else none
    | .reference _ => none

/-- The steps that the goto actions of a step name. -/
def Step.gotoTargets (step : Step) : List String :=
  step.actions.filterMap fun
    | .given action => if action.kind = .goto then action.stepId else none
    | .reference _ => none

/-- The most attempts that a visit of a step may have. -/
def mostAttempts (step : Step) : Nat := (step.retryLimits.map allowance).max?.getD 1

/-- The most attempts of all steps up to a position. -/
def attemptsUpTo (workflow : Workflow) (i : Nat) : Nat :=
  ((workflow.steps.map mostAttempts).take i).sum

/-- The most attempts of all steps. -/
def totalAttempts (workflow : Workflow) : Nat := (workflow.steps.map mostAttempts).sum

/-- Each goto of a step names an unknown step or a later one. -/
def ForwardJumps (workflow : Workflow) : Prop :=
  ∀ i (hi : i < workflow.steps.length), ∀ t ∈ workflow.steps[i].gotoTargets,
    ∀ j ∈ workflow.stepIndex? t, i < j

instance : DecidablePred ForwardJumps := fun workflow =>
  inferInstanceAs (Decidable (∀ i (hi : i < workflow.steps.length),
    ∀ t ∈ workflow.steps[i].gotoTargets, ∀ j ∈ workflow.stepIndex? t, i < j))

theorem mem_actions_of_mem_actionsOf {step : Step} {success : Bool} {a : OrReference Action}
    (h : a ∈ Attempt.actionsOf step success) : a ∈ step.actions := by
  cases success with
  | true => exact List.mem_append_left _ h
  | false => exact List.mem_append_right _ h

theorem allowance_le_mostAttempts {step : Step} {action : Action}
    (hmem : .given action ∈ step.actions) (hkind : action.kind = .retry) :
    allowance action.retryLimit ≤ mostAttempts step := by
  have hlimit : action.retryLimit ∈ step.retryLimits :=
    List.mem_filterMap.mpr ⟨_, hmem, by simp [hkind]⟩
  exact List.le_max?_getD_of_mem (List.mem_map_of_mem hlimit)

theorem one_le_mostAttempts (step : Step) : 1 ≤ mostAttempts step := by
  unfold mostAttempts
  cases hmax : (step.retryLimits.map allowance).max? with
  | none => rfl
  | some m =>
    obtain ⟨limit, -, rfl⟩ := List.mem_map.mp (List.max?_mem hmax)
    exact one_le_allowance limit

theorem attemptsUpTo_mono (workflow : Workflow) : Monotone (attemptsUpTo workflow) :=
  List.monotone_sum_take _

theorem attemptsUpTo_succ {workflow : Workflow} {i : Nat} {step : Step}
    (h : workflow.steps[i]? = some step) :
    attemptsUpTo workflow (i + 1) = attemptsUpTo workflow i + mostAttempts step := by
  simp [attemptsUpTo, List.take_add_one, h]

theorem attemptsUpTo_le_totalAttempts (workflow : Workflow) (i : Nat) :
    attemptsUpTo workflow i ≤ totalAttempts workflow := by
  rcases le_total i (workflow.steps.map mostAttempts).length with hi | hi
  · calc attemptsUpTo workflow i
        ≤ attemptsUpTo workflow (workflow.steps.map mostAttempts).length :=
          attemptsUpTo_mono workflow hi
      _ = totalAttempts workflow := by rw [attemptsUpTo, List.take_length, totalAttempts]
  · rw [attemptsUpTo, List.take_of_length_le hi, totalAttempts]

section
variable {around : Surroundings} {workflow : Workflow}

/-- A repeated attempt has the limit of a retry action of its step. -/
theorem AttemptedAt.allowance_le {i : Nat} {r : StepResult} {step : Step}
    (h : AttemptedAt around workflow i r) (hstep : workflow.steps[i]? = some step)
    (hretry : r.nextAction = some .retry) : allowance r.retryLimit ≤ mostAttempts step := by
  obtain ⟨s, hs, rfl, rfl⟩ := h
  obtain rfl : s.step = step := Option.some.inj (hs.step_eq.symm.trans hstep)
  obtain ⟨snapshot, -, hj⟩ := hs.exists_judged
  obtain ⟨action, hmem, hkind, hlimit⟩ := hj.exists_retry hretry
  rw [hlimit]
  exact allowance_le_mostAttempts (mem_actions_of_mem_actionsOf hmem) hkind

theorem ForwardJumps.lt (forward : ForwardJumps workflow) {s : Stride} {j : Nat}
    (hs : s.IsAttempt around workflow) (hgoto : s.result.nextAction = some .goto)
    (hindex : workflow.stepIndex? (s.result.nextStepId.getD "") = some j) : s.position < j := by
  obtain ⟨snapshot, -, hj⟩ := hs.exists_judged
  obtain ⟨action, t, hmem, hkind, ht, hnext⟩ := hj.exists_goto hgoto
  rw [hnext, Option.getD_some] at hindex
  obtain ⟨hi, hget⟩ := List.getElem?_eq_some_iff.mp hs.step_eq
  refine forward s.position hi t ?_ j hindex
  rw [hget]
  exact List.mem_filterMap.mpr ⟨_, mem_actions_of_mem_actionsOf hmem, by simp [hkind, ht]⟩

end

namespace Run

variable {around : Surroundings} {workflow : Workflow}

/-- What a trail has spent: no more than the steps behind it allow, and the visit under way. -/
structure Spends (workflow : Workflow) (trail : List Stride) (p : Progress) : Prop where
  length_le : trail.length ≤ attemptsUpTo workflow p.index + p.retries
  room : ∀ step, workflow.steps[p.index]? = some step → p.retries < mostAttempts step
  past : workflow.steps[p.index]? = none → p.retries = 0

variable {inputs : Entries} {session : Session} {trail : List Stride} {p : Progress}

/-- Another attempt of the step is one of those that it allows. -/
theorem Spends.length_lt (h : Spends workflow trail p) {step : Step}
    (hstep : workflow.steps[p.index]? = some step) :
    trail.length < attemptsUpTo workflow (p.index + 1) := by
  have hlength := h.length_le
  have hroom := h.room step hstep
  have hsucc := attemptsUpTo_succ hstep
  omega

theorem Spends.length_lt_total (h : Spends workflow trail p) {step : Step}
    (hstep : workflow.steps[p.index]? = some step) : trail.length < totalAttempts workflow :=
  (h.length_lt hstep).trans_le (attemptsUpTo_le_totalAttempts workflow (p.index + 1))

theorem Spends.length_le_total (h : Spends workflow trail p) :
    trail.length ≤ totalAttempts workflow := by
  cases hstep : workflow.steps[p.index]? with
  | none =>
    have hlength := h.length_le
    have hretries := h.past hstep
    have htotal := attemptsUpTo_le_totalAttempts workflow p.index
    omega
  | some step => exact (h.length_lt_total hstep).le

/-- Leaving a step for a later one starts a visit with nothing spent. -/
theorem Spends.visit (h : Spends workflow trail p) {s : Stride} (hs : Begins around workflow p s)
    {j : Nat} (hj : p.index < j) :
    Spends workflow (trail ++ [s]) (visit (record p s.attempt s.closing) j) where
  length_le := by
    have hlength := h.length_lt (hs.position_eq ▸ hs.attempt.step_eq)
    have hmono : attemptsUpTo workflow (p.index + 1) ≤ attemptsUpTo workflow j :=
      attemptsUpTo_mono workflow hj
    change (trail ++ [s]).length ≤ attemptsUpTo workflow j + 0
    rw [List.length_append, List.length_singleton]
    omega
  room := fun step _ => one_le_mostAttempts step
  past := fun _ => rfl

/-- A repetition that is granted stays within the limit of a retry action of the step, for the first
attempt of the visit has set the limit by one of them. -/
theorem Counts.retries_lt_mostAttempts {s : Stride} (h : Counts around workflow p)
    (hs : Begins around workflow p s) (hretry : s.result.nextAction = some .retry)
    (hless : (p.retries : Int) + 1 < p.retryLimit.getD (limitOf s.result.retryLimit)) :
    p.retries + 1 < mostAttempts s.step := by
  obtain ⟨first, hfirst⟩ := head?_append_singleton_isSome (underWay p.history) s.result
  have hmem : first ∈ underWay p.history ++ [s.result] := List.mem_of_head? hfirst
  have hfirstRetry : first.nextAction = some .retry := by
    rcases List.mem_append.mp hmem with hblock | hlast
    · exact first.isRetry_iff.mp (isRetry_of_mem_underWay hblock)
    · exact List.mem_singleton.mp hlast ▸ hretry
  have hstep := hs.position_eq ▸ hs.attempt.step_eq
  calc p.retries + 1
      < allowance first.retryLimit := h.retries_lt hfirst hless
    _ ≤ mostAttempts s.step := (h.attempted_of_mem hs hmem).allowance_le hstep hfirstRetry

theorem Spends.next (forward : ForwardJumps workflow) {q : Progress} {s : Stride}
    (h : Spends workflow trail p) (hcounts : Counts around workflow p)
    (hs : Begins around workflow p s)
    (hnext : Next around.sleep workflow (record p s.attempt s.closing) s.result (.inl q)) :
    Spends workflow (trail ++ [s]) q := by
  cases hnext with
  | onward => exact h.visit hs (Nat.lt_succ_self p.index)
  | jump haction hindex =>
    exact h.visit hs (hs.position_eq ▸ forward.lt hs.attempt haction hindex)
  | @again limit haction hlimit hless =>
    have hstep := hs.position_eq ▸ hs.attempt.step_eq
    have hallowed := hcounts.retries_lt_mostAttempts hs haction (hlimit ▸ hless)
    refine ⟨?_, ?_, ?_⟩
    · change (trail ++ [s]).length ≤ attemptsUpTo workflow p.index + (p.retries + 1)
      rw [List.length_append, List.length_singleton, ← Nat.add_assoc]
      exact Nat.succ_le_succ h.length_le
    · change ∀ step, workflow.steps[p.index]? = some step → p.retries + 1 < mostAttempts step
      intro step hsome
      rw [hstep, Option.some.injEq] at hsome
      exact hsome ▸ hallowed
    · change workflow.steps[p.index]? = none → p.retries + 1 = 0
      exact fun hnone => absurd (hstep.symm.trans hnone) (by simp)

theorem Walked.spends (forward : ForwardJumps workflow)
    (h : Walked around workflow (start inputs session) trail p) : Spends workflow trail p := by
  induction h with
  | nil => exact ⟨Nat.zero_le _, fun step _ => one_le_mostAttempts step, fun _ => rfl⟩
  | concat hwalked hbegins hnext ih => exact ih.next forward hwalked.counts hbegins hnext

/-- The attempts that the loop begins, those that fail with a fault included. -/
def attemptsBegun (around : Surroundings) (workflow : Workflow) : Nat → Progress → Nat
  | 0, _ => 0
  | fuel + 1, p =>
    if workflow.steps[p.index]?.isNone then 0
    else match advance around workflow p with
      | (_, some _) => 1
      | (q, none) => attemptsBegun around workflow fuel q + 1

theorem Walked.attemptsBegun_le (forward : ForwardJumps workflow)
    (h : Walked around workflow (start inputs session) trail p) (fuel : Nat) :
    trail.length + attemptsBegun around workflow fuel p ≤ totalAttempts workflow := by
  -- An attempt moves from those to come to the trail, which is why the trail is general.
  induction fuel generalizing trail p with
  | zero => exact (h.spends forward).length_le_total
  | succ fuel ih =>
    cases hstep : workflow.steps[p.index]? with
    | none =>
      simp only [attemptsBegun, hstep]
      exact (h.spends forward).length_le_total
    | some step =>
      have hlength := (h.spends forward).length_lt_total hstep
      have hadvance := advance_spec around workflow p
      simp only [attemptsBegun, hstep]
      cases hgo : advance around workflow p with
      | mk q stop =>
        cases stop with
        | some stop =>
          simp only [Option.isNone_some, Bool.false_eq_true, if_false]
          exact hlength
        | none =>
          rw [hgo] at hadvance
          cases hadvance with
          | onward hbegins hnext =>
            have hrest := ih (h.concat hbegins hnext)
            rw [List.length_append, List.length_singleton] at hrest
            simp only [Option.isNone_some, Bool.false_eq_true, if_false]
            omega

/-- The loop of a workflow with forward gotos ends, whatever is answered: it begins no more attempts
than all steps together allow. -/
theorem loop_ends_of_forwardJumps (forward : ForwardJumps workflow) (around : Surroundings)
    (inputs : Entries) (session : Session) :
    (∀ fuel, totalAttempts workflow < fuel →
      ∃ p stop, loop around workflow fuel (start inputs session) = (p, some stop)) ∧
    ∀ fuel, attemptsBegun around workflow fuel (start inputs session) ≤
      totalAttempts workflow := by
  refine ⟨fun fuel hfuel => ?_, fun fuel => ?_⟩
  · cases hloop : loop around workflow fuel (start inputs session) with
    | mk p stop =>
      cases stop with
      | some stop => exact ⟨p, stop, rfl⟩
      | none =>
        obtain ⟨trail, hwalked, hlength⟩ := exists_walked_of_loop .nil hloop
        have hbound := (hwalked.spends forward).length_le_total
        rw [hlength, List.length_nil, Nat.zero_add] at hbound
        exact absurd hfuel (not_lt.mpr hbound)
  · have hstart : Walked around workflow (start inputs session) [] (start inputs session) := .nil
    have hbound := hstart.attemptsBegun_le forward fuel
    rw [List.length_nil, Nat.zero_add] at hbound
    exact hbound

end Run

namespace Polling

/-- Three steps; the first one skips the second when it is answered. -/
def skipping : Workflow :=
  workflow [{ step "first" (some 9) with
      onSuccess := some [.given ⟨"skip", .goto, none, some "third", none, none, none, []⟩] },
    step "second" none, step "third" (some 3)]

end Polling

namespace Run

/-- The first and the third step retry, the goto leads forward. -/
theorem loop_ends_skipping : ForwardJumps Polling.skipping ∧
    totalAttempts Polling.skipping = 13 ∧
    ∀ around inputs session,
      (∀ fuel, 13 < fuel →
        ∃ p stop, loop around Polling.skipping fuel (start inputs session) = (p, some stop)) ∧
      ∀ fuel, attemptsBegun around Polling.skipping fuel (start inputs session) ≤ 13 := by
  have hforward : ForwardJumps Polling.skipping := by decide +kernel
  have htotal : totalAttempts Polling.skipping = 13 := by decide +kernel
  refine ⟨hforward, htotal, fun around inputs session => ?_⟩
  rw [← htotal]
  exact loop_ends_of_forwardJumps hforward around inputs session

end Run
end Arazzo
