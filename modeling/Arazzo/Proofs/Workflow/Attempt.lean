import Arazzo.Proofs.Except
import Arazzo.Proofs.Workflow.Decision
import Mathlib.Tactic.SplitIfs

/-!
# What an attempt shows

An attempt that returns names its step, holds the outputs and the success that the context behind the
exchange gives, and has decided by one of the actions of its outcome. Everything that is evaluated
after the request is evaluated in that one context: the context before the attempt with the snapshot
of its own exchange.
-/

namespace Arazzo
namespace Attempt

/-- Where the errors of a step are reported. -/
abbrev siteOf (around : Surroundings) (step : Step) : Site := ⟨around.workflow, some step.stepId⟩

/-- The actions that decide after an attempt. -/
def actionsOf (step : Step) (success : Bool) : Actions :=
  (if success then step.onSuccess else step.onFailure).getD []

/-- Where a decision comes from. A jump and a repetition are those of an action in the list. -/
inductive DecidedBy (actions : Actions) : Decision → Prop
  | none : DecidedBy actions .none
  | finish : DecidedBy actions .finish
  | goto {action : Action} {t : String} : .given action ∈ actions → action.kind = .goto →
      action.stepId = some t → DecidedBy actions (.goto t)
  | retry {action : Action} {after : Option Binary64} : .given action ∈ actions →
      action.kind = .retry → DecidedBy actions (.retry after action.retryLimit)

theorem decidedBy_of_decide {scope : Scope} {site : Site} {list : String}
    {asked : Except Defect (Option Binary64)} {actions : Actions} {d : Decision}
    (h : decide scope site list asked actions = .ok d) : DecidedBy actions d := by
  cases decide_eq_iff.mp h with
  | none => exact .none
  | @first before after a _ _ _ hsettles =>
    have hmem : a ∈ before ++ a :: after := List.mem_append_right before List.mem_cons_self
    cases hsettles with
    | finish => exact .finish
    | goto _ _ hkind hstep => exact .goto hmem hkind (named?_eq_some_iff.mp hstep).1
    | retry _ _ hkind => exact .retry hmem hkind

/-- What a judged attempt holds, by the context it was judged in. -/
structure JudgedIn (around : Surroundings) (step : Step) (context : Context)
    (attempt : Attempt) : Prop where
  context_eq : attempt.context = context
  stepId_eq : attempt.result.stepId = step.stepId
  outputs_eq : outputs (context.scope ⟨around.workflow, some step.stepId⟩).recorded
    (step.outputs.getD []) = .ok attempt.result.outputs
  success_eq : (Criterion.judgeAll (context.scope ⟨around.workflow, some step.stepId⟩)
    (some step.stepId) (step.successCriteria.getD [])).outcome = .ok attempt.result.success
  decided : ∃ d, DecidedBy (actionsOf step attempt.result.success) d ∧
    attempt.result.nextAction = d.action ∧ attempt.result.nextStepId = d.stepId ∧
    attempt.result.retryLimit = d.retryLimit

theorem judgedIn_of_judge {around : Surroundings} {now : DateTime} {step : Step}
    {response : Response} {context : Context} {attempt : Attempt}
    (h : judge around now step response context = .ok attempt) :
    JudgedIn around step context attempt := by
  unfold judge at h
  obtain ⟨values, hvalues, h⟩ := bind_eq_ok h
  obtain ⟨success, hsuccess, h⟩ := bind_eq_ok h
  cases success with
  | true =>
    obtain ⟨d, hd, h⟩ := bind_eq_ok h
    cases h
    exact ⟨rfl, rfl, hvalues, hsuccess, d, decidedBy_of_decide hd, rfl, rfl, rfl⟩
  | false =>
    obtain ⟨d, hd, h⟩ := bind_eq_ok h
    cases h
    exact ⟨rfl, rfl, hvalues, hsuccess, d, decidedBy_of_decide hd, rfl, rfl, rfl⟩

/-- An exchange is judged in the context before the attempt, with the snapshot of the exchange. -/
theorem conclude_eq (around : Surroundings) (now : DateTime) (step : Step) (context : Context)
    (exchange : Exchange) :
    conclude around now step context exchange =
      match Snapshot.ofExchange exchange with
      | .error d => .error (.defect d)
      | .ok snapshot =>
        judge around now step exchange.response { context with snapshot := snapshot } := by
  unfold conclude Context.withExchange
  cases Snapshot.ofExchange exchange with
  | error d => rfl
  | ok snapshot => rfl

theorem exists_judged_of_conclude {around : Surroundings} {now : DateTime} {step : Step}
    {context : Context} {exchange : Exchange} {attempt : Attempt}
    (h : conclude around now step context exchange = .ok attempt) :
    ∃ snapshot, Snapshot.ofExchange exchange = .ok snapshot ∧
      JudgedIn around step { context with snapshot := snapshot } attempt := by
  rw [conclude_eq] at h
  cases hs : Snapshot.ofExchange exchange with
  | error d => simp [hs] at h
  | ok snapshot =>
    rw [hs] at h
    exact ⟨snapshot, rfl, judgedIn_of_judge h⟩

/-- An execution leaves the session to the client, or as it is if it builds no request. -/
theorem session_execute (around : Surroundings) (step : Step) (shared : Parameters)
    (context : Context) (session : Session) :
    (∃ f, request around step shared context session = .error f ∧
        (execute around step shared context session).2 = session) ∨
      ∃ r, request around step shared context session = .ok r ∧
        (execute around step shared context session).2 =
          (around.client.send around.server r session).2 := by
  unfold execute
  cases request around step shared context session with
  | error f => exact .inl ⟨f, rfl, rfl⟩
  | ok r =>
    refine .inr ⟨r, rfl, ?_⟩
    dsimp only
    cases around.client.send around.server r session with
    | mk outcome closing => cases outcome <;> rfl

/-- An execution returns exactly if its request is built and answered and the exchange is judged. -/
theorem execute_ok_iff {around : Surroundings} {step : Step} {shared : Parameters}
    {context : Context} {session closing : Session} {attempt : Attempt} :
    execute around step shared context session = (.ok attempt, closing) ↔
      ∃ r exchange, request around step shared context session = .ok r ∧
        around.client.send around.server r session = (.ok exchange, closing) ∧
        conclude around (around.judgedAt closing) step context exchange = .ok attempt := by
  constructor
  · intro h
    unfold execute at h
    split at h
    · cases h
    · next r hrequest =>
      split at h
      · cases h
      · next exchange last hsend =>
        obtain ⟨hconclude, rfl⟩ := Prod.mk.inj h
        exact ⟨r, exchange, hrequest, hsend, hconclude⟩
  · rintro ⟨r, exchange, hrequest, hsend, hconclude⟩
    simp only [execute, hrequest, hsend, hconclude]

/-- A decided attempt repeats or jumps by an action of its outcome. -/
theorem JudgedIn.exists_goto {around : Surroundings} {step : Step} {context : Context}
    {attempt : Attempt} (h : JudgedIn around step context attempt)
    (hgoto : attempt.result.nextAction = some .goto) :
    ∃ action t, .given action ∈ actionsOf step attempt.result.success ∧ action.kind = .goto ∧
      action.stepId = some t ∧ attempt.result.nextStepId = some t := by
  obtain ⟨d, hd, haction, hstep, -⟩ := h.decided
  rw [hgoto] at haction
  cases hd with
  | none => cases haction
  | finish => cases haction
  | goto hmem hkind ht => exact ⟨_, _, hmem, hkind, ht, hstep⟩
  | retry => cases haction

theorem JudgedIn.exists_retry {around : Surroundings} {step : Step} {context : Context}
    {attempt : Attempt} (h : JudgedIn around step context attempt)
    (hretry : attempt.result.nextAction = some .retry) :
    ∃ action, .given action ∈ actionsOf step attempt.result.success ∧ action.kind = .retry ∧
      attempt.result.retryLimit = action.retryLimit := by
  obtain ⟨d, hd, haction, -, hlimit⟩ := h.decided
  rw [hretry] at haction
  cases hd with
  | none => cases haction
  | finish => cases haction
  | goto => cases haction
  | retry hmem hkind => exact ⟨_, hmem, hkind, hlimit⟩

end Attempt
end Arazzo
