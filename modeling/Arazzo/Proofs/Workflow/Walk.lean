import Arazzo.Proofs.Workflow.Trail
import Arazzo.Workflow.Run
import Mathlib.Tactic.NormNum

/-!
# The loop of a run

All that one advance of the loop can do, and the states that it passes through together with the
trail that it leaves. Invariants of runs are proved along this relation: one case for the start and
one for an attempt behind which the run goes on. Two loops are compared along it as well.
-/

namespace Arazzo
namespace Run

variable {around : Surroundings} {workflow : Workflow}

/-- The attempt that begins in a state. -/
structure Begins (around : Surroundings) (workflow : Workflow) (p : Progress) (s : Stride) :
    Prop where
  attempt : s.IsAttempt around workflow
  position_eq : s.position = p.index
  before_eq : s.before = p.context
  opening_eq : s.opening = p.session

/-- All that can follow an attempt. -/
inductive Next (sleep : Sleep) (workflow : Workflow) (p : Progress) (r : StepResult) :
    Progress ⊕ Stop → Prop
  | onward : r.nextAction = none → r.success = true →
      Next sleep workflow p r (.inl (visit p (p.index + 1)))
  | failed : r.nextAction = none → r.success = false →
      Next sleep workflow p r (.inr (.failure (stepFailed r.stepId)))
  | finished : r.nextAction = some .finish → r.success = true → Next sleep workflow p r (.inr .success)
  | finishedFailed : r.nextAction = some .finish → r.success = false →
      Next sleep workflow p r (.inr (.failure (stepFailed r.stepId)))
  | jump {j : Nat} : r.nextAction = some .goto →
      workflow.stepIndex? (r.nextStepId.getD "") = some j → Next sleep workflow p r (.inl (visit p j))
  | lost : r.nextAction = some .goto → workflow.stepIndex? (r.nextStepId.getD "") = none →
      Next sleep workflow p r (.inr (.fault
        (.failure (.unknownStep (r.nextStepId.getD "") (some workflow.workflowId)))))
  | again {limit : Int} : r.nextAction = some .retry →
      limit = p.retryLimit.getD (limitOf r.retryLimit) → (p.retries : Int) + 1 < limit →
      sleep (delayOf r.retryAfter) = none → Next sleep workflow p r (.inl { p with
        retries := p.retries + 1
        retryLimit := some limit
        delays := p.delays ++ [delayOf r.retryAfter] })
  | exhausted {limit : Int} : r.nextAction = some .retry →
      limit = p.retryLimit.getD (limitOf r.retryLimit) → limit ≤ (p.retries : Int) + 1 →
      Next sleep workflow p r (.inr (.failure (retriesExhausted r.stepId)))
  | restless {limit : Int} {d : Defect} : r.nextAction = some .retry →
      limit = p.retryLimit.getD (limitOf r.retryLimit) → (p.retries : Int) + 1 < limit →
      sleep (delayOf r.retryAfter) = some d → Next sleep workflow p r (.inr (.fault (.defect d)))

theorem next_spec (sleep : Sleep) (workflow : Workflow) (p : Progress) (r : StepResult) :
    Next sleep workflow p r (next sleep workflow p r) := by
  unfold next
  cases haction : r.nextAction with
  | none =>
    cases hsuccess : r.success with
    | true => exact .onward haction hsuccess
    | false => exact .failed haction hsuccess
  | some kind =>
    cases kind with
    | finish =>
      cases hsuccess : r.success with
      | true => exact .finished haction hsuccess
      | false => exact .finishedFailed haction hsuccess
    | goto =>
      dsimp only
      cases hindex : workflow.stepIndex? (r.nextStepId.getD "") with
      | none => exact .lost haction hindex
      | some j => exact .jump haction hindex
    | retry =>
      dsimp only
      split_ifs with hlimit
      · exact .exhausted haction rfl (by exact_mod_cast hlimit)
      · have hless : (p.retries : Int) + 1 < p.retryLimit.getD (limitOf r.retryLimit) := by
          push_cast at hlimit
          omega
        cases hsleep : sleep (delayOf r.retryAfter) with
        | none => exact .again haction rfl hless hsleep
        | some d => exact .restless haction rfl hless hsleep

/-- All that one advance can do. -/
inductive Advance (around : Surroundings) (workflow : Workflow) (p : Progress) :
    Progress × Option Stop → Prop
  | past : workflow.steps[p.index]? = none → Advance around workflow p (p, some .success)
  | fault {step : Step} {f : Fault} {session : Session} :
      workflow.steps[p.index]? = some step →
      Attempt.execute around step (workflow.parameters.getD []) p.context p.session =
        (.error f, session) →
      Advance around workflow p ({ p with session := session }, some (.fault f))
  | onward {s : Stride} {q : Progress} : Begins around workflow p s →
      Next around.sleep workflow (record p s.attempt s.closing) s.result (.inl q) →
      Advance around workflow p (q, none)
  | last {s : Stride} {stop : Stop} : Begins around workflow p s →
      Next around.sleep workflow (record p s.attempt s.closing) s.result (.inr stop) →
      Advance around workflow p (record p s.attempt s.closing, some stop)

theorem advance_spec (around : Surroundings) (workflow : Workflow) (p : Progress) :
    Advance around workflow p (advance around workflow p) := by
  unfold advance
  cases hstep : workflow.steps[p.index]? with
  | none => exact .past hstep
  | some step =>
    dsimp only
    cases hexecute : Attempt.execute around step (workflow.parameters.getD []) p.context
        p.session with
    | mk outcome session =>
      cases outcome with
      | error f => exact .fault hstep hexecute
      | ok attempt =>
        obtain ⟨s, hs, hposition, -, hbefore, hopening, rfl, rfl⟩ :=
          Stride.exists_isAttempt hstep hexecute
        have hbegins : Begins around workflow p s := ⟨hs, hposition, hbefore, hopening⟩
        have hnext := next_spec around.sleep workflow (record p s.attempt s.closing) s.result
        dsimp only
        cases hgo : next around.sleep workflow (record p s.attempt s.closing) s.attempt.result with
        | inl q => exact .onward hbegins (hgo ▸ hnext)
        | inr stop => exact .last hbegins (hgo ▸ hnext)

/-- The states that the loop passes through, with the attempts on the way. -/
inductive Walked (around : Surroundings) (workflow : Workflow) (first : Progress) :
    List Stride → Progress → Prop
  | nil : Walked around workflow first [] first
  | concat {trail : List Stride} {p q : Progress} {s : Stride} :
      Walked around workflow first trail p → Begins around workflow p s →
      Next around.sleep workflow (record p s.attempt s.closing) s.result (.inl q) →
      Walked around workflow first (trail ++ [s]) q

/-- How the loop stops behind a trail. -/
inductive Halted (around : Surroundings) (workflow : Workflow) (first : Progress) :
    List Stride → Progress → Stop → Prop
  | past {trail : List Stride} {p : Progress} : Walked around workflow first trail p →
      workflow.steps[p.index]? = none → Halted around workflow first trail p .success
  | fault {trail : List Stride} {p : Progress} {step : Step} {f : Fault} {session : Session} :
      Walked around workflow first trail p → workflow.steps[p.index]? = some step →
      Attempt.execute around step (workflow.parameters.getD []) p.context p.session =
        (.error f, session) →
      Halted around workflow first trail { p with session := session } (.fault f)
  | last {trail : List Stride} {p : Progress} {s : Stride} {stop : Stop} :
      Walked around workflow first trail p → Begins around workflow p s →
      Next around.sleep workflow (record p s.attempt s.closing) s.result (.inr stop) →
      Halted around workflow first (trail ++ [s]) (record p s.attempt s.closing) stop

theorem exists_walked_of_loop {first p q : Progress} {trail : List Stride} {fuel : Nat}
    (h : Walked around workflow first trail p)
    (hloop : loop around workflow fuel p = (q, none)) :
    ∃ more, Walked around workflow first more q ∧ more.length = trail.length + fuel := by
  induction fuel generalizing p trail with
  | zero =>
    cases hloop
    exact ⟨trail, h, rfl⟩
  | succ fuel ih =>
    have hadvance := advance_spec around workflow p
    rw [loop] at hloop
    cases hgo : advance around workflow p with
    | mk middle stop =>
      rw [hgo] at hadvance hloop
      cases hadvance with
      | past => cases hloop
      | fault => cases hloop
      | last => cases hloop
      | onward hbegins hnext =>
        obtain ⟨more, hmore, hlength⟩ := ih (h.concat hbegins hnext) hloop
        refine ⟨more, hmore, ?_⟩
        rw [hlength, List.length_append, List.length_singleton]
        omega

theorem exists_halted_of_loop {first p q : Progress} {trail : List Stride} {fuel : Nat}
    {stop : Stop} (h : Walked around workflow first trail p)
    (hloop : loop around workflow fuel p = (q, some stop)) :
    ∃ more, Halted around workflow first more q stop := by
  induction fuel generalizing p trail with
  | zero => cases hloop
  | succ fuel ih =>
    have hadvance := advance_spec around workflow p
    rw [loop] at hloop
    cases hgo : advance around workflow p with
    | mk middle halt =>
      rw [hgo] at hadvance hloop
      cases hadvance with
      | past hstep =>
        cases hloop
        exact ⟨trail, .past h hstep⟩
      | fault hstep hexecute =>
        cases hloop
        exact ⟨trail, .fault h hstep hexecute⟩
      | last hbegins hnext =>
        cases hloop
        exact ⟨_, .last h hbegins hnext⟩
      | onward hbegins hnext => exact ih (h.concat hbegins hnext) hloop

theorem Begins.exists_target {p : Progress} {s : Stride} (h : Begins around workflow p s)
    (hgoto : s.result.nextAction = some .goto) : ∃ t, s.result.nextStepId = some t := by
  obtain ⟨snapshot, -, hj⟩ := h.attempt.exists_judged
  obtain ⟨action, t, -, -, -, ht⟩ := hj.exists_goto hgoto
  exact ⟨t, ht⟩

/-- A run goes on where the attempt leads, with nothing but its counters changed. -/
theorem Next.follows {sleep : Sleep} {p q : Progress} {r : StepResult}
    (h : Next sleep workflow p r (.inl q))
    (hgoto : r.nextAction = some .goto → ∃ t, r.nextStepId = some t) :
    Follows workflow p.index r q.index := by
  cases h with
  | onward haction hsuccess => exact .onward haction hsuccess
  | jump haction hindex =>
    obtain ⟨t, ht⟩ := hgoto haction
    rw [ht] at hindex
    exact .jump haction ht ((workflow.stepIndex?_eq_some_iff t _).mp hindex)
  | again haction => exact .again haction

theorem Next.frame {sleep : Sleep} {p q : Progress} {r : StepResult}
    (h : Next sleep workflow p r (.inl q)) :
    q.context = p.context ∧ q.session = p.session ∧ q.history = p.history := by
  cases h <;> exact ⟨rfl, rfl, rfl⟩

/-- What the state at the end of a trail remembers of it. -/
structure Carries (workflow : Workflow) (inputs : Entries) (session : Session)
    (trail : List Stride) (p : Progress) : Prop where
  history_eq : p.history = trail.map Stride.result
  context_eq : p.context = contextAfter inputs trail
  session_eq : p.session = sessionAfter session trail
  leadsTo : LeadsTo workflow trail p.index

variable {inputs : Entries} {session : Session} {trail : List Stride} {p : Progress}

theorem Walked.carries (h : Walked around workflow (start inputs session) trail p) :
    Carries workflow inputs session trail p := by
  induction h with
  | nil => exact ⟨rfl, rfl, rfl, rfl⟩
  | @concat trail p q s _ hbegins hnext ih =>
    obtain ⟨hcontext, hsession, hhistory⟩ := hnext.frame
    refine ⟨?_, ?_, ?_, ?_⟩
    · rw [hhistory, List.map_append, ← ih.history_eq]
      rfl
    · rw [hcontext, contextAfter_concat]
      rfl
    · rw [hsession, sessionAfter_concat]
      rfl
    · rw [leadsTo_concat, hbegins.position_eq]
      exact hnext.follows hbegins.exists_target

theorem isTrail_concat {s : Stride} (h : IsTrail around workflow inputs session trail)
    (hp : Carries workflow inputs session trail p) (hs : Begins around workflow p s) :
    IsTrail around workflow inputs session (trail ++ [s]) :=
  h.concat hs.attempt (hs.position_eq ▸ hp.leadsTo) (hs.before_eq.trans hp.context_eq)
    (hs.opening_eq.trans hp.session_eq)

theorem Walked.isTrail (h : Walked around workflow (start inputs session) trail p) :
    IsTrail around workflow inputs session trail := by
  induction h with
  | nil => exact .nil
  | concat hwalked hbegins _ ih => exact isTrail_concat ih hwalked.carries hbegins

theorem Halted.isTrail {stop : Stop}
    (h : Halted around workflow (start inputs session) trail p stop) :
    IsTrail around workflow inputs session trail := by
  cases h with
  | past hwalked => exact hwalked.isTrail
  | fault hwalked => exact hwalked.isTrail
  | last hwalked hbegins => exact isTrail_concat hwalked.isTrail hwalked.carries hbegins

theorem Halted.history_eq {stop : Stop}
    (h : Halted around workflow (start inputs session) trail p stop) :
    p.history = trail.map Stride.result := by
  cases h with
  | past hwalked => exact hwalked.carries.history_eq
  | fault hwalked => exact hwalked.carries.history_eq
  | last hwalked =>
    rw [List.map_append, ← hwalked.carries.history_eq]
    rfl

theorem Halted.context_eq {stop : Stop}
    (h : Halted around workflow (start inputs session) trail p stop) :
    p.context = contextAfter inputs trail := by
  cases h with
  | past hwalked => exact hwalked.carries.context_eq
  | fault hwalked => exact hwalked.carries.context_eq
  | last =>
    rw [contextAfter_concat]
    rfl

/-- The outputs of a workflow in a context. -/
def outputsIn (workflow : Workflow) (context : Context) : Except Fault Entries :=
  Attempt.outputs (context.scope ⟨some workflow.workflowId, none⟩).operand
    (workflow.outputs.getD [])

/-- The result that a stop leads to, as far as its status and what goes with it. -/
inductive Concludes (workflow : Workflow) (context : Context) (result : WorkflowResult) :
    Stop → Prop
  | success {values : Entries} : outputsIn workflow context = .ok values →
      result.status = .success → result.outputs = values →
      Concludes workflow context result .success
  | unresolved {f : Failure} : outputsIn workflow context = .error (.failure f) →
      result.status = .error → result.errorMessage = some f.text →
      Concludes workflow context result .success
  | failure {reason : String} : result.status = .failure → result.reason = some reason →
      Concludes workflow context result (.failure reason)
  | fault {f : Failure} : result.status = .error → result.errorMessage = some f.text →
      Concludes workflow context result (.fault (.failure f))

section
variable {context : Context} {result : WorkflowResult} {stop : Stop}

theorem Concludes.success_iff (h : Concludes workflow context result stop) (values : Entries) :
    (result.status = .success ∧ result.outputs = values) ↔
      stop = .success ∧ outputsIn workflow context = .ok values := by
  cases h with
  | success houtputs hstatus hvalues => simp [hstatus, hvalues, houtputs]
  | unresolved houtputs hstatus => simp [hstatus, houtputs]
  | failure hstatus => simp [hstatus]
  | fault hstatus => simp [hstatus]

theorem Concludes.failure_iff (h : Concludes workflow context result stop) (reason : String) :
    (result.status = .failure ∧ result.reason = some reason) ↔ stop = .failure reason := by
  cases h with
  | success _ hstatus => simp [hstatus]
  | unresolved _ hstatus => simp [hstatus]
  | failure hstatus hreason => simp [hstatus, hreason]
  | fault hstatus => simp [hstatus]

theorem Concludes.foreseen (h : Concludes workflow context result stop) (d : Defect) :
    stop ≠ .fault (.defect d) := by
  rintro rfl
  cases h

theorem Concludes.error_iff (h : Concludes workflow context result stop) (message : String) :
    (result.status = .error ∧ result.errorMessage = some message) ↔
      ∃ f : Failure, f.text = message ∧ (stop = .fault (.failure f) ∨
        stop = .success ∧ outputsIn workflow context = .error (.failure f)) := by
  cases h with
  | success houtputs hstatus => simp [hstatus, houtputs]
  | unresolved houtputs hstatus hmessage => simp [hstatus, hmessage, houtputs]
  | failure hstatus => simp [hstatus]
  | fault hstatus hmessage => simp [hstatus, hmessage]

end

theorem concludes_of_resultOf {made closed : DateTime} {stop : Stop} {result : WorkflowResult}
    (h : resultOf workflow made closed p stop = .ok result) :
    result.stepResults = p.history ∧ Concludes workflow p.context result stop := by
  cases stop with
  | success =>
    cases houtputs : outputsIn workflow p.context with
    | ok values =>
      simp only [outputsIn] at houtputs
      simp only [resultOf, succeed, houtputs, Except.map, Except.ok.injEq] at h
      subst h
      exact ⟨rfl, .success houtputs rfl rfl⟩
    | error f =>
      simp only [outputsIn] at houtputs
      cases f with
      | defect d => simp [resultOf, succeed, houtputs, Except.map] at h
      | failure f =>
        simp only [resultOf, succeed, houtputs, Except.map, Except.ok.injEq] at h
        subst h
        exact ⟨rfl, .unresolved houtputs rfl rfl⟩
  | failure reason =>
    cases h
    exact ⟨rfl, .failure rfl rfl⟩
  | fault f =>
    cases f with
    | defect d => cases h
    | failure f =>
      cases h
      exact ⟨rfl, .fault rfl rfl⟩

/-- Whether a workflow asks for a feature that no run supports. -/
def Refused (workflow : Workflow) : Prop :=
  workflow.dependsOn.getD [] ≠ [] ∨ workflow.successActions.getD [] ≠ [] ∨
    workflow.failureActions.getD [] ≠ []

theorem refusal?_cases (workflow : Workflow) :
    (Refused workflow ∧ ∃ feature, refusal? workflow =
      some (.failure (.unsupported feature ⟨some workflow.workflowId, none⟩))) ∨
    (¬ Refused workflow ∧ refusal? workflow = none) := by
  unfold Refused refusal?
  by_cases hdepends : workflow.dependsOn.getD [] = []
  · by_cases hactions : workflow.successActions.getD [] = [] ∧ workflow.failureActions.getD [] = []
    · exact .inr (by simp [hdepends, hactions])
    · have hone := not_and_or.mp hactions
      exact .inl ⟨.inr hone, .workflowActions, by simp [hdepends, hone]⟩
  · exact .inl ⟨.inl hdepends, .dependencies, by simp [hdepends]⟩

/-- Whether a run returns, and with which status. -/
def Outcome.status? (outcome : Outcome) : Option Status :=
  match outcome.result with
  | some (.ok result) => some result.status
  | _ => none

theorem Outcome.exists_result {outcome : Outcome} {status : Status}
    (h : outcome.status? = some status) :
    ∃ result, outcome.result = some (.ok result) ∧ result.status = status := by
  unfold Outcome.status? at h
  split at h
  · rename_i result hresult
    exact ⟨result, hresult, Option.some.inj h⟩
  · cases h

variable {env : Environment} {fuel : Nat} {result : WorkflowResult}

/-- A run that returns has been refused, or its loop has stopped. -/
theorem returned_halted
    (h : (run env workflow inputs session fuel).result = some (.ok result)) :
    (Refused workflow ∧ result.stepResults = [] ∧ result.status = .error ∧
      (run env workflow inputs session fuel).delays = [] ∧
      (run env workflow inputs session fuel).session = env.opening session) ∨
    (¬ Refused workflow ∧ ∃ trail p stop,
      Halted (env.around workflow) workflow (start inputs (env.opening session)) trail p stop ∧
      result.stepResults = p.history ∧ Concludes workflow p.context result stop ∧
      (run env workflow inputs session fuel).delays = p.delays ∧
      (run env workflow inputs session fuel).session = p.session) := by
  unfold run at h ⊢
  rcases refusal?_cases workflow with ⟨hrefused, feature, hrefusal⟩ | ⟨hrefused, hrefusal⟩
  · simp only [walk, hrefusal, Option.map_some, Option.some.injEq] at h ⊢
    cases h
    exact .inl ⟨hrefused, rfl, rfl, rfl, rfl⟩
  · simp only [walk, hrefusal] at h ⊢
    cases hloop : loop (env.around workflow) workflow fuel
        (start inputs (env.opening session)) with
    | mk p halt =>
      cases halt with
      | none => simp [hloop] at h
      | some stop =>
        simp only [hloop, Option.map_some, Option.some.injEq] at h ⊢
        obtain ⟨hhistory, hconcludes⟩ := concludes_of_resultOf h
        obtain ⟨trail, hhalted⟩ := exists_halted_of_loop .nil hloop
        exact .inr ⟨hrefused, trail, p, stop, hhalted, hhistory,
          hconcludes, rfl, rfl⟩

theorem returned_cases
    (h : (run env workflow inputs session fuel).result = some (.ok result)) :
    (Refused workflow ∧ result.stepResults = [] ∧ result.status = .error ∧
      (run env workflow inputs session fuel).delays = [] ∧
      (run env workflow inputs session fuel).session = env.opening session) ∨
    (¬ Refused workflow ∧ ∃ trail p stop,
      Halted (env.around workflow) workflow (start inputs (env.opening session)) trail p stop ∧
      result.stepResults = p.history ∧ Concludes workflow p.context result stop ∧
      (run env workflow inputs session fuel).delays = p.delays) := by
  rcases returned_halted h with hrefused | ⟨hnot, trail, p, stop, hhalted, hhistory, hconcludes,
    hdelays, -⟩
  · exact .inl hrefused
  · exact .inr ⟨hnot, trail, p, stop, hhalted, hhistory, hconcludes, hdelays⟩

/-! ## Two loops in lockstep -/

section
variable {around' : Surroundings} {workflow' : Workflow} {first : Progress}

/-- Two loops pass through corresponding states, and stop for the same reason, if each advance from a
state that the first one comes to leads to corresponding states. -/
theorem loop_lockstep (f : Progress → Progress)
    (hadvance : ∀ trail p, Walked around workflow first trail p → trail.length < fuel →
      advance around' workflow' (f p) = (advance around workflow p).map f id) :
    loop around' workflow' fuel (f first) = (loop around workflow fuel first).map f id := by
  suffices hrest : ∀ n trail p, Walked around workflow first trail p → trail.length + n = fuel →
      loop around' workflow' n (f p) = (loop around workflow n p).map f id from
    hrest fuel [] first .nil (Nat.zero_add fuel)
  intro n
  induction n with
  | zero =>
    intro trail p _ _
    rfl
  | succ n ih =>
    intro trail p hwalked hlength
    have hstep := advance_spec around workflow p
    rw [loop, loop, hadvance trail p hwalked (by omega)]
    cases hgo : advance around workflow p with
    | mk q stop =>
      rw [hgo] at hstep
      cases hstep with
      | past => rfl
      | fault => rfl
      | last => rfl
      | onward hbegins hnext =>
        refine ih _ q (hwalked.concat hbegins hnext) ?_
        rw [List.length_append, List.length_singleton]
        omega

end

end Run
end Arazzo
