import Arazzo.Proofs.Expression.Evaluation
import Arazzo.Proofs.Workflow.Attempt

/-!
# Where the errors of a step arise

A step that raises an error has met it before its request was handed over, and then nothing has
happened, or behind it: the transport gave up, or the outputs, the criteria or the actions could not
be judged. The kinds of error that tell what is wrong with a request never come from behind it.
-/

namespace Arazzo

/-- The failures that tell what is wrong with a request. -/
inductive Failure.IsOfBuilding : Failure → Prop
  | stepWithoutOperationId (site : Site) : IsOfBuilding (.unsupported .stepWithoutOperationId site)
  | unknownOperation (id : String) (site : Site) : IsOfBuilding (.unknownOperation id site)
  | parameterReference (site : Site) : IsOfBuilding (.unsupported .parameterReference site)
  | parameterLocation (name : String) (site : Site) :
      IsOfBuilding (.unsupported (.parameterLocation name) site)
  | bodyReplacements (site : Site) : IsOfBuilding (.unsupported .bodyReplacements site)
  | xmlBody (site : Site) : IsOfBuilding (.unsupported .xmlBody site)
  | formText (site : Site) : IsOfBuilding (.unsupported .formText site)
  | formNotAMapping (site : Site) : IsOfBuilding (.unsupported .formNotAMapping site)
  | jsonText (site : Site) : IsOfBuilding (.unsupported .jsonText site)
  | jsonNotAContainer (site : Site) : IsOfBuilding (.unsupported .jsonNotAContainer site)
  | contentType (name : String) (site : Site) : IsOfBuilding (.unsupported (.contentType name) site)
  | missingServer (site : Site) : IsOfBuilding (.missingServer site)
  | invalidUrl (url reason : String) (site : Site) :
      IsOfBuilding (.execution (.invalidUrl url reason) site)

/-- The faults that can arise behind a request. -/
inductive Fault.IsLate : Fault → Prop
  | transport (message : String) (site : Site) : IsLate (.failure (.transport message site))
  | expression (text : String) (cause : ExpressionCause) (site : Site) :
      IsLate (.failure (.expression text cause site))
  | criterionType (name : String) (site : Site) :
      IsLate (.failure (.unsupported (.criterionType name) site))
  | actionReference (list : String) (site : Site) :
      IsLate (.failure (.unsupported (.actionReference list) site))
  | actionWorkflow (list : String) (site : Site) :
      IsLate (.failure (.unsupported (.actionWorkflow list) site))
  | retryOfAnotherStep (site : Site) : IsLate (.failure (.unsupported .retryOfAnotherStep site))
  | defect (d : Defect) : IsLate (.defect d)

theorem Failure.IsOfBuilding.not_isLate {f : Failure} (h : f.IsOfBuilding) :
    ¬ (Fault.failure f).IsLate := by
  intro hlate
  cases hlate <;> cases h

namespace Scope

variable {scope : Scope} {f : Fault}

theorem isLate_of_recorded {s : String} (h : scope.recorded s = .error f) : f.IsLate := by
  cases f with
  | failure failure =>
    obtain rfl := recorded_failure h
    exact .expression ..
  | defect d => exact .defect d

theorem isLate_of_judge {condition : String} (h : (scope.judge condition).outcome = .error f) :
    f.IsLate := by
  obtain ⟨text, cause, rfl⟩ | ⟨d, rfl, -⟩ := scope.judge_error_cases h
  · exact .expression ..
  · exact .defect d

end Scope

/-- Criteria fail at the first one that fails, if all criteria in front of it hold. -/
theorem Criterion.judgeAll_error_iff {scope : Scope} {step : Option String}
    {criteria : List Criterion} {f : Fault} : (judgeAll scope step criteria).outcome = .error f ↔
      ∃ before c after, criteria = before ++ c :: after ∧
        (∀ b ∈ before, (b.judge scope step).outcome = .ok true) ∧
        (c.judge scope step).outcome = .error f :=
  Verdict.inSequence_error_iff (by simp [judgeAll, Verdict.ofBool]) (fun _ _ => rfl) criteria

namespace Attempt

variable {scope : Scope} {f : Fault}

theorem isLate_of_criteria {step : Option String} {criteria : List Criterion}
    (h : (Criterion.judgeAll scope step criteria).outcome = .error f) : f.IsLate := by
  obtain ⟨-, c, -, -, -, h⟩ := Criterion.judgeAll_error_iff.mp h
  unfold Criterion.judge at h
  split at h
  · split_ifs at h
    · cases h; exact .defect _
    · cases h; exact .criterionType ..
  · exact Scope.isLate_of_judge h

theorem isLate_of_outputs {expressions : List (String × String)}
    (h : outputs scope.recorded expressions = .error f) : f.IsLate := by
  induction expressions with
  | nil => cases h
  | cons first rest ih =>
    obtain ⟨name, expression⟩ := first
    rw [outputs] at h
    cases hvalue : scope.recorded expression with
    | error g =>
      rw [hvalue] at h
      cases h
      exact Scope.isLate_of_recorded hvalue
    | ok v =>
      cases hrest : outputs scope.recorded rest with
      | error g =>
        rw [hvalue, hrest] at h
        cases h
        exact ih hrest
      | ok values =>
        rw [hvalue, hrest] at h
        cases h

theorem isLate_of_decisionOf {site : Site} {asked : Except Defect (Option Binary64)}
    {action : Action} (h : decisionOf site asked action = .error f) : f.IsLate := by
  unfold decisionOf at h
  split at h
  · cases h
  · cases h
  · split_ifs at h
    · cases h; exact .retryOfAnotherStep site
    · split at h
      · cases h
      · cases h; exact .defect _

theorem isLate_of_decide {site : Site} {list : String} {asked : Except Defect (Option Binary64)}
    {actions : Actions} (h : decide scope site list asked actions = .error f) : f.IsLate := by
  induction actions with
  | nil => cases h
  | cons a rest ih =>
    cases a with
    | reference r => cases h; exact .actionReference list site
    | given action =>
      simp only [decide] at h
      split_ifs at h
      · cases h; exact .actionWorkflow list site
      · split at h
        · next hguard => cases h; exact isLate_of_criteria hguard
        · exact ih h
        · split at h
          · next hdecision => cases h; exact isLate_of_decisionOf hdecision
          · cases h
          · exact ih h

/-- Why an exchange cannot be judged at a time. -/
inductive Misjudges (around : Surroundings) (now : DateTime) (step : Step) (scope : Scope)
    (response : Response) : Fault → Prop
  | outputs {f : Fault} : outputs scope.recorded (step.outputs.getD []) = .error f →
      Misjudges around now step scope response f
  | criteria {values : Entries} {f : Fault} :
      Attempt.outputs scope.recorded (step.outputs.getD []) = .ok values →
      (Criterion.judgeAll scope (some step.stepId) (step.successCriteria.getD [])).outcome =
        .error f →
      Misjudges around now step scope response f
  | actions {values : Entries} {success : Bool} {f : Fault} :
      Attempt.outputs scope.recorded (step.outputs.getD []) = .ok values →
      (Criterion.judgeAll scope (some step.stepId) (step.successCriteria.getD [])).outcome =
        .ok success →
      decide scope (siteOf around step)
        (if success then "onSuccess" else "onFailure")
        (RetryAfter.ofHeaders? now response.headers) (actionsOf step success) = .error f →
      Misjudges around now step scope response f

theorem Misjudges.isLate {around : Surroundings} {now : DateTime} {step : Step}
    {response : Response} (h : Misjudges around now step scope response f) : f.IsLate := by
  cases h with
  | outputs h => exact isLate_of_outputs h
  | criteria _ h => exact isLate_of_criteria h
  | actions _ _ h => exact isLate_of_decide h

variable {around : Surroundings} {now : DateTime} {step : Step} {context : Context}

theorem judge_eq (response : Response) :
    judge around now step response context = (do
      let site : Site := siteOf around step
      let values ← outputs (context.scope site).recorded (step.outputs.getD [])
      let success ←
        (Criterion.judgeAll (context.scope site) site.step (step.successCriteria.getD [])).outcome
      let decision ← decide (context.scope site) site
        (if success then "onSuccess" else "onFailure")
        (RetryAfter.ofHeaders? now response.headers) (actionsOf step success)
      let result := StepResult.ofAttempt step.stepId success values (some response.status)
      .ok ⟨{ result with
        nextAction := decision.action
        nextStepId := decision.stepId
        retryAfter := decision.retryAfter.map .float
        retryLimit := decision.retryLimit }, context⟩) := by
  refine bind_congr fun values => bind_congr fun success => ?_
  cases success <;> rfl

theorem judge_error_iff {response : Response} :
    judge around now step response context = .error f ↔
      Misjudges around now step (context.scope (siteOf around step)) response f := by
  rw [judge_eq]
  simp only [bind_error_iff]
  constructor
  · rintro (houtputs | ⟨values, houtputs, hcriteria | ⟨success, hcriteria, hdecide | ⟨d, -, h⟩⟩⟩)
    · exact .outputs houtputs
    · exact .criteria houtputs hcriteria
    · exact .actions houtputs hcriteria hdecide
    · cases h
  · rintro (houtputs | ⟨houtputs, hcriteria⟩ | ⟨houtputs, hcriteria, hdecide⟩)
    · exact .inl houtputs
    · exact .inr ⟨_, houtputs, .inl hcriteria⟩
    · exact .inr ⟨_, houtputs, .inr ⟨_, hcriteria, .inl hdecide⟩⟩

/-- Why an attempt whose request has been handed over breaks off. -/
inductive BreaksOff (around : Surroundings) (step : Step) (context : Context) (session : Session)
    (request : Request) : Failure → Prop
  | transport {message : String} :
      (around.client.send around.server request session).1 = .error (.failed message) →
      BreaksOff around step context session request
        (.transport ("Request failed: " ++ message) (siteOf around step))
  | judging {exchange : Exchange} {snapshot : Snapshot} {closing : Session} {f : Failure} :
      around.client.send around.server request session = (.ok exchange, closing) →
      Snapshot.ofExchange exchange = .ok snapshot →
      Misjudges around (around.judgedAt closing) step
        ({ context with snapshot := snapshot }.scope (siteOf around step))
        exchange.response (.failure f) →
      BreaksOff around step context session request f

variable {shared : Parameters} {session closing : Session} {f : Failure}

theorem BreaksOff.isLate {r : Request} (h : BreaksOff around step context session r f) :
    (Fault.failure f).IsLate := by
  cases h with
  | transport => exact .transport ..
  | judging _ _ h => exact h.isLate

theorem conclude_error_iff {exchange : Exchange} :
    conclude around now step context exchange = .error (.failure f) ↔
      ∃ snapshot, Snapshot.ofExchange exchange = .ok snapshot ∧
        Misjudges around now step
          ({ context with snapshot := snapshot }.scope (siteOf around step))
          exchange.response (.failure f) := by
  rw [conclude_eq]
  cases Snapshot.ofExchange exchange with
  | error d => simp
  | ok snapshot => simp [judge_error_iff]

/-- A failure of a step arises before its request is handed over, or behind it. -/
theorem execute_error_iff :
    execute around step shared context session = (.error (.failure f), closing) ↔
      (request around step shared context session = .error (.failure f) ∧ closing = session) ∨
      ∃ r, request around step shared context session = .ok r ∧
        closing = (around.client.send around.server r session).2 ∧
        BreaksOff around step context session r f := by
  unfold execute
  cases hrequest : request around step shared context session with
  | error g => simp [eq_comm]
  | ok r =>
    simp only [reduceCtorEq, false_and, Except.ok.injEq, false_or, exists_eq_left']
    cases hsend : around.client.send around.server r session with
    | mk outcome last =>
      constructor
      · intro h
        cases outcome with
        | error fault =>
          cases fault with
          | defect d => cases h
          | failed message =>
            cases h
            exact ⟨rfl, .transport (congrArg Prod.fst hsend)⟩
        | ok exchange =>
          obtain ⟨hconclude, rfl⟩ := Prod.mk.inj h
          obtain ⟨snapshot, hsnapshot, hmisjudges⟩ := conclude_error_iff.mp hconclude
          exact ⟨rfl, .judging hsend hsnapshot hmisjudges⟩
      · rintro ⟨rfl, hbreaks⟩
        cases hbreaks with
        | transport h =>
          rw [hsend] at h
          cases h
          rfl
        | judging h hsnapshot hmisjudges =>
          rw [hsend] at h
          cases h
          exact congrArg (·, _) (conclude_error_iff.mpr ⟨_, hsnapshot, hmisjudges⟩)

end Attempt
end Arazzo
