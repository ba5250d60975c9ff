import Arazzo.Proofs.Schema.Checked
import Arazzo.Proofs.Workflow.Faults
import Arazzo.Proofs.Workflow.Visit

/-!
# What a judged exchange comes to

An exchange whose outputs have values and whose criteria are judged has come to the actions of its
outcome, and the first decisive one of them settles what follows. What a result says of the next step
and of repetitions fits together for that reason.
-/

namespace Arazzo
namespace Attempt

variable {scope : Scope} {site : Site} {list : String} {asked : Except Defect (Option Binary64)}

/-- The name of the list of actions that follows an outcome. -/
abbrev listAfter (success : Bool) : String := if success then "onSuccess" else "onFailure"

/-- What is read behind an exchange is read in the context before it with its snapshot. -/
abbrev scopeBehind (around : Surroundings) (step : Step) (context : Context) (snapshot : Snapshot) :
    Scope :=
  { context with snapshot := snapshot }.scope (siteOf around step)

/-- An exchange is judged up to the actions of its outcome. -/
structure ReachesActions (around : Surroundings) (step : Step) (context : Context)
    (exchange : Exchange) (snapshot : Snapshot) (values : Entries) (success : Bool) : Prop where
  snapshot_eq : Snapshot.ofExchange exchange = .ok snapshot
  outputs_eq : outputs (scopeBehind around step context snapshot).recorded (step.outputs.getD []) =
    .ok values
  success_eq : (Criterion.judgeAll (scopeBehind around step context snapshot) (some step.stepId)
    (step.successCriteria.getD [])).outcome = .ok success

/-- What a decision makes of a judged exchange. -/
def decided (step : Step) (context : Context) (exchange : Exchange) (snapshot : Snapshot)
    (values : Entries) (success : Bool) (d : Decision) : Attempt where
  result := { StepResult.ofAttempt step.stepId success values (some exchange.response.status) with
    nextAction := d.action
    nextStepId := d.stepId
    retryAfter := d.retryAfter.map .float
    retryLimit := d.retryLimit }
  context := { context with snapshot := snapshot }

section
variable {around : Surroundings} {now : DateTime} {step : Step} {context : Context}
  {exchange : Exchange}
  {snapshot : Snapshot} {values : Entries} {success : Bool} {attempt : Attempt}

theorem ReachesActions.conclude_eq
    (h : ReachesActions around step context exchange snapshot values success) :
    conclude around now step context exchange =
      (decide (scopeBehind around step context snapshot) (siteOf around step) (listAfter success)
        (RetryAfter.ofHeaders? now exchange.response.headers) (actionsOf step success)).map
        (decided step context exchange snapshot values success) := by
  obtain ⟨hsnapshot, houtputs, hsuccess⟩ := h
  rw [Attempt.conclude_eq, hsnapshot]
  dsimp only
  rw [judge_eq]
  cases hdecide : decide (scopeBehind around step context snapshot) (siteOf around step)
    (listAfter success) (RetryAfter.ofHeaders? now exchange.response.headers)
    (actionsOf step success) with
  | error f => simp [houtputs, hsuccess, hdecide, bind, Except.bind, Except.map]
  | ok d => simp [houtputs, hsuccess, hdecide, bind, Except.bind, Except.map, decided]

/-- An exchange that is judged has come to the actions of its outcome. -/
theorem exists_reachesActions (h : conclude around now step context exchange = .ok attempt) :
    ∃ snapshot values success d,
      ReachesActions around step context exchange snapshot values success ∧
      FirstDecides (scopeBehind around step context snapshot) (siteOf around step)
        (listAfter success) (RetryAfter.ofHeaders? now exchange.response.headers)
        (actionsOf step success) (.ok d) ∧
      decided step context exchange snapshot values success d = attempt := by
  obtain ⟨snapshot, hsnapshot, hjudged⟩ := exists_judged_of_conclude h
  have hreaches : ReachesActions around step context exchange snapshot attempt.result.outputs
      attempt.result.success := ⟨hsnapshot, hjudged.outputs_eq, hjudged.success_eq⟩
  rw [hreaches.conclude_eq] at h
  obtain ⟨d, hd, hattempt⟩ := map_ok_iff.mp h
  exact ⟨snapshot, _, _, d, hreaches, decide_eq_iff.mp hd, hattempt⟩

/-- A result names a step exactly if it jumps, and speaks of repetitions only if it repeats. -/
structure IsConsistent (result : StepResult) : Prop where
  jumps_iff : result.nextAction = some .goto ↔ ∃ t, result.nextStepId = some t
  named : ∀ t, result.nextStepId = some t → t ≠ ""
  repeats_of_delay : ∀ v, result.retryAfter = some v → result.nextAction = some .retry
  repeats_of_limit : ∀ n, result.retryLimit = some n → result.nextAction = some .retry

theorem isConsistent_decided {d : Decision} {actions : Actions}
    (h : FirstDecides scope site list asked actions (.ok d)) :
    IsConsistent (decided step context exchange snapshot values success d).result := by
  cases h with
  | none => constructor <;> simp [decided, Decision.none]
  | first _ _ _ _ hsettles =>
    cases hsettles with
    | finish => constructor <;> simp [decided, Decision.finish]
    | goto _ _ _ hstep =>
      obtain ⟨-, hnamed⟩ := named?_eq_some_iff.mp hstep
      constructor <;> simp [decided, Decision.goto, hnamed]
    | retry => constructor <;> simp [decided, Decision.retry]

theorem not_success_of_retry {v : Value} (hstep : Check.step v = .ok step)
    (h : conclude around now step context exchange = .ok attempt)
    (hretry : attempt.result.nextAction = some .retry) : attempt.result.success = false := by
  obtain ⟨snapshot, values, success, d, -, hfirst, rfl⟩ := exists_reachesActions h
  obtain ⟨before, action, after, -, hactions, -, -, hkind, -⟩ :=
    hfirst.exists_retry hretry
  cases success with
  | false => rfl
  | true =>
    have hmem : OrReference.given action ∈ step.onSuccess.getD [] := by
      change OrReference.given action ∈ actionsOf step true
      simp [hactions]
    exact absurd hkind (Check.kind_of_onSuccess hstep hmem)

end

/-- What follows an executed step is decided by the first decisive element in the actions of its
outcome, an action without criteria being unguarded; whatever stands behind that element has no say.
So a result names a step exactly if it jumps, and speaks of repetitions only if it repeats, which only
the failure of a checked step does. On lists without repetitions success and failure choose alike. -/
theorem execute_decides (around : Surroundings) (step : Step) (shared : Parameters)
    (context : Context) (session : Session) :
    (∀ r exchange closing snapshot values success,
      request around step shared context session = .ok r →
      around.client.send around.server r session = (.ok exchange, closing) →
      ReachesActions around step context exchange snapshot values success →
      ∃ outcome,
        FirstDecides (scopeBehind around step context snapshot) (siteOf around step)
          (listAfter success)
          (RetryAfter.ofHeaders? (around.judgedAt closing) exchange.response.headers)
          (actionsOf step success) outcome ∧
        execute around step shared context session =
          (outcome.map (decided step context exchange snapshot values success), closing)) ∧
    (∀ scope site action, action.criteria.getD [] = [] →
      guardHolds scope site action = .ok true) ∧
    (∀ scope site list asked a before after after', IsDecisive scope site a →
      decide scope site list asked (before ++ a :: after) =
        decide scope site list asked (before ++ a :: after')) ∧
    (∀ attempt closing, execute around step shared context session = (.ok attempt, closing) →
      IsConsistent attempt.result ∧
      ∀ v, Check.step v = .ok step → attempt.result.nextAction = some .retry →
        attempt.result.success = false) ∧
    ∀ scope site asked asked' actions d,
      (∀ action, .given action ∈ actions → action.kind ≠ .retry) →
      (decide scope site "onSuccess" asked actions = .ok d ↔
        decide scope site "onFailure" asked' actions = .ok d) := by
  refine ⟨?_, ?_, ?_, ?_, ?_⟩
  · intro r exchange closing snapshot values success hrequest hsend hreaches
    refine ⟨_, firstDecides_decide _ _ _ _ _, ?_⟩
    rw [execute, hrequest]
    dsimp only
    rw [hsend]
    dsimp only
    rw [hreaches.conclude_eq]
  · intro scope site action hcriteria
    exact guardHolds_of_unguarded hcriteria
  · intro scope site list asked a before after after' ha
    exact decide_ignores ha before after after'
  · intro attempt closing hexecute
    obtain ⟨r, exchange, -, -, hconclude⟩ := execute_ok_iff.mp hexecute
    obtain ⟨snapshot, values, success, d, -, hfirst, hattempt⟩ := exists_reachesActions hconclude
    refine ⟨hattempt ▸ isConsistent_decided hfirst, ?_⟩
    intro v hstep hretry
    exact not_success_of_retry hstep hconclude hretry
  · intro scope site asked asked' actions d hretry
    exact decide_ok_iff_of_no_retry hretry "onFailure" asked' d

end Attempt

namespace Polling

/-- A step that is repeated: the end does not apply, and the jump names nothing. The reference behind
the repetition is never looked at. -/
def guarded : Step where
  stepId := "first"
  description := none
  operationId := some "ask"
  operationPath := none
  workflowId := none
  parameters := none
  requestBody := none
  successCriteria := some [⟨"$statusCode == 200", none, none, []⟩]
  onSuccess := none
  onFailure := some
    [.given ⟨"stop", .finish, none, none, none, none,
      some [⟨"$statusCode == 500", none, none, []⟩], []⟩,
     .given ⟨"skip", .goto, none, some "", none, none, none, []⟩,
     .given ⟨"again", .retry, none, none, none, some 3, none, []⟩,
     .reference ⟨"$components.failureActions.giveUp", .null, []⟩]
  outputs := none
  extra := []

/-- The document that the step is read from. -/
def guardedDocument : Value :=
  let action (fields : List (String × Value)) : Value := .map (Entries.ofTexts fields)
  .map (Entries.ofTexts
    [("stepId", .text "first"), ("operationId", .text "ask"),
     ("successCriteria", .list [action [("condition", .text "$statusCode == 200")]]),
     ("onFailure", .list
       [action [("name", .text "stop"), ("type", .text "end"),
          ("criteria", .list [action [("condition", .text "$statusCode == 500")]])],
        action [("name", .text "skip"), ("type", .text "goto"), ("stepId", .text "")],
        action [("name", .text "again"), ("type", .text "retry"), ("retryLimit", .int 3)],
        action [("reference", .text "$components.failureActions.giveUp")]])])

theorem step_guardedDocument : Check.step guardedDocument = .ok guarded := by rfl

/-- What surrounds the step. -/
def busy : Surroundings := (environment fun _ => false).around (workflow [guarded])

/-- The server is busy, so the step fails. -/
def guardedAttempt : Except Fault Attempt × Session :=
  Attempt.execute busy guarded [] (.start []) .start

end Polling

namespace Attempt

/-- The third action decides although the list goes on with a reference. -/
theorem execute_decides_guarded : ∃ attempt closing, ∃ exchange : Exchange, ∃ snapshot outcome,
    Polling.guardedAttempt = (.ok attempt, closing) ∧
    attempt.result.nextAction = some .retry ∧ attempt.result.retryLimit = some 3 ∧
    attempt.result.success = false ∧ IsConsistent attempt.result ∧
    FirstDecides (scopeBehind Polling.busy Polling.guarded (.start []) snapshot)
      (siteOf Polling.busy Polling.guarded) (listAfter attempt.result.success)
      (RetryAfter.ofHeaders? (Polling.busy.judgedAt closing) exchange.response.headers)
      (actionsOf Polling.guarded attempt.result.success) outcome := by
  obtain ⟨hdecides, -, -, hconsistent, -⟩ :=
    execute_decides Polling.busy Polling.guarded [] (.start []) .start
  have haction : Polling.guardedAttempt.1.toOption.map
      (fun a => (a.result.nextAction, a.result.retryLimit)) = some (some .retry, some 3) := by
    decide +kernel
  cases hexecute : Polling.guardedAttempt with
  | mk returned closing =>
    cases returned with
    | error f => simp [hexecute, Except.toOption] at haction
    | ok attempt =>
      obtain ⟨hretry, hlimit⟩ : attempt.result.nextAction = some .retry ∧
          attempt.result.retryLimit = some 3 := by
        simpa [hexecute, Except.toOption] using haction
      obtain ⟨hresult, hchecked⟩ := hconsistent attempt closing hexecute
      have hfailed := hchecked _ Polling.step_guardedDocument hretry
      obtain ⟨r, exchange, hrequest, hsend, hconclude⟩ := execute_ok_iff.mp hexecute
      obtain ⟨snapshot, values, success, d, hreaches, -, rfl⟩ := exists_reachesActions hconclude
      obtain ⟨outcome, hfirst, -⟩ := hdecides r exchange closing _ _ _ hrequest hsend hreaches
      exact ⟨_, closing, exchange, snapshot, outcome, rfl, hretry, hlimit, hfailed, hresult,
        hfirst⟩

end Attempt
end Arazzo
