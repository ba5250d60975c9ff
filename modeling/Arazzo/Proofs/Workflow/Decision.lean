import Arazzo.Workflow.Attempt

/-!
# The action that decides

A list of actions is decided by its first decisive element. The elements before it are skipped, and
those behind it have no say, whatever they are. The relations here say what a single element does; the
list is then one induction.
-/

namespace Arazzo
namespace Attempt

variable {scope : Scope} {site : Site}

theorem named?_eq_some_iff {o : Option String} {s : String} :
    named? o = some s ↔ o = some s ∧ s ≠ "" := by
  cases o with
  | none => simp [named?]
  | some t =>
    by_cases ht : t = ""
    · simp [named?, ht]
    · simp only [named?, if_neg ht, Option.some.injEq]
      constructor
      · rintro rfl
        exact ⟨rfl, ht⟩
      · exact And.left

/-- An action without criteria is guarded by nothing. -/
theorem guardHolds_of_unguarded {action : Action} (h : action.criteria.getD [] = []) :
    guardHolds scope site action = .ok true := by
  rw [guardHolds, h]
  rfl

variable (scope site)

/-- Whether a list of actions is decided by an element, if by none before it. -/
inductive IsDecisive : OrReference Action → Prop
  | reference (r : Reusable) : IsDecisive (.reference r)
  | elsewhere {action : Action} {workflow : String} :
      named? action.workflowId = some workflow → IsDecisive (.given action)
  | raising {action : Action} {f : Fault} :
      guardHolds scope site action = .error f → IsDecisive (.given action)
  | finish {action : Action} : guardHolds scope site action = .ok true →
      action.kind = .finish → IsDecisive (.given action)
  | goto {action : Action} {target : String} : guardHolds scope site action = .ok true →
      action.kind = .goto → named? action.stepId = some target → IsDecisive (.given action)
  | retry {action : Action} : guardHolds scope site action = .ok true →
      action.kind = .retry → IsDecisive (.given action)

/-- What a decisive element leads to. References and other workflows are refused before any guard is
looked at; what the server asks for matters to a repetition only. -/
inductive Settles (list : String) (asked : Except Defect (Option Binary64)) :
    OrReference Action → Except Fault Decision → Prop
  | reference (r : Reusable) : Settles list asked (.reference r)
      (.error (.failure (.unsupported (.actionReference list) site)))
  | elsewhere {action : Action} {workflow : String} :
      named? action.workflowId = some workflow → Settles list asked (.given action)
        (.error (.failure (.unsupported (.actionWorkflow list) site)))
  | raising {action : Action} {f : Fault} : named? action.workflowId = none →
      guardHolds scope site action = .error f → Settles list asked (.given action) (.error f)
  | finish {action : Action} : named? action.workflowId = none →
      guardHolds scope site action = .ok true → action.kind = .finish →
      Settles list asked (.given action) (.ok .finish)
  | goto {action : Action} {target : String} : named? action.workflowId = none →
      guardHolds scope site action = .ok true → action.kind = .goto →
      named? action.stepId = some target → Settles list asked (.given action) (.ok (.goto target))
  | retryElsewhere {action : Action} {target : String} : named? action.workflowId = none →
      guardHolds scope site action = .ok true → action.kind = .retry →
      named? action.stepId = some target → Settles list asked (.given action)
        (.error (.failure (.unsupported .retryOfAnotherStep site)))
  | retry {action : Action} {after : Option Binary64} : named? action.workflowId = none →
      guardHolds scope site action = .ok true → action.kind = .retry →
      named? action.stepId = none → asked = .ok after → Settles list asked (.given action)
        (.ok (.retry (after.or action.retryAfter) action.retryLimit))
  | overwhelmed {action : Action} {d : Defect} : named? action.workflowId = none →
      guardHolds scope site action = .ok true → action.kind = .retry →
      named? action.stepId = none → asked = .error d →
      Settles list asked (.given action) (.error (.defect d))

/-- The first decisive element of a list decides; without one nothing is decided. -/
inductive FirstDecides (list : String) (asked : Except Defect (Option Binary64)) :
    Actions → Except Fault Decision → Prop
  | none {actions : Actions} : (∀ a ∈ actions, ¬ IsDecisive scope site a) →
      FirstDecides list asked actions (.ok .none)
  | first (before after : Actions) {a : OrReference Action} {outcome : Except Fault Decision} :
      (∀ b ∈ before, ¬ IsDecisive scope site b) → IsDecisive scope site a →
      Settles scope site list asked a outcome →
      FirstDecides list asked (before ++ a :: after) outcome

variable {scope site} {list : String} {asked : Except Defect (Option Binary64)}
  {a : OrReference Action} {outcome : Except Fault Decision}

/-- Every decisive element leads to something. -/
theorem IsDecisive.exists_settles (h : IsDecisive scope site a) (list : String)
    (asked : Except Defect (Option Binary64)) : ∃ outcome, Settles scope site list asked a outcome := by
  cases a with
  | reference r => exact ⟨_, .reference r⟩
  | given action =>
    cases hworkflow : named? action.workflowId with
    | some workflow => exact ⟨_, .elsewhere hworkflow⟩
    | none =>
      cases h with
      | elsewhere hsome => simp [hworkflow] at hsome
      | raising hguard => exact ⟨_, .raising hworkflow hguard⟩
      | finish hguard hkind => exact ⟨_, .finish hworkflow hguard hkind⟩
      | goto hguard hkind hstep => exact ⟨_, .goto hworkflow hguard hkind hstep⟩
      | retry hguard hkind =>
        cases hstep : named? action.stepId with
        | some target => exact ⟨_, .retryElsewhere hworkflow hguard hkind hstep⟩
        | none =>
          cases hasked : asked with
          | error d => exact ⟨_, .overwhelmed hworkflow hguard hkind hstep rfl⟩
          | ok after => exact ⟨_, .retry hworkflow hguard hkind hstep rfl⟩

/-! ## Lists of actions -/

theorem decide_cons_of_settles (h : Settles scope site list asked a outcome) (rest : Actions) :
    decide scope site list asked (a :: rest) = outcome := by
  cases h with
  | reference r => rfl
  | elsewhere hworkflow => simp [decide, hworkflow]
  | raising hworkflow hguard => simp [decide, hworkflow, hguard]
  | finish hworkflow hguard hkind => simp [decide, hworkflow, hguard, decisionOf, hkind]
  | goto hworkflow hguard hkind hstep => simp [decide, hworkflow, hguard, decisionOf, hkind, hstep]
  | retryElsewhere hworkflow hguard hkind hstep =>
    simp [decide, hworkflow, hguard, decisionOf, hkind, hstep]
  | retry hworkflow hguard hkind hstep hasked =>
    simp [decide, hworkflow, hguard, decisionOf, hkind, hstep, hasked]
  | overwhelmed hworkflow hguard hkind hstep hasked =>
    simp [decide, hworkflow, hguard, decisionOf, hkind, hstep, hasked]

theorem decide_cons_of_not_isDecisive (h : ¬ IsDecisive scope site a) (rest : Actions) :
    decide scope site list asked (a :: rest) = decide scope site list asked rest := by
  cases a with
  | reference r => exact absurd (.reference r) h
  | given action =>
    cases hworkflow : named? action.workflowId with
    | some workflow => exact absurd (.elsewhere hworkflow) h
    | none =>
      cases hguard : guardHolds scope site action with
      | error f => exact absurd (.raising hguard) h
      | ok holds =>
        cases holds with
        | false => simp [decide, hworkflow, hguard]
        | true =>
          cases hkind : action.kind with
          | finish => exact absurd (.finish hguard hkind) h
          | retry => exact absurd (.retry hguard hkind) h
          | goto =>
            cases hstep : named? action.stepId with
            | some target => exact absurd (.goto hguard hkind hstep) h
            | none => simp [decide, hworkflow, hguard, decisionOf, hkind, hstep]

theorem decide_append {before : Actions} (h : ∀ b ∈ before, ¬ IsDecisive scope site b)
    (rest : Actions) :
    decide scope site list asked (before ++ rest) = decide scope site list asked rest := by
  induction before with
  | nil => rfl
  | cons b before ih =>
    obtain ⟨hb, hbefore⟩ := List.forall_mem_cons.mp h
    rw [List.cons_append, decide_cons_of_not_isDecisive hb, ih hbefore]

theorem FirstDecides.decide_eq {actions : Actions}
    (h : FirstDecides scope site list asked actions outcome) :
    decide scope site list asked actions = outcome := by
  cases h with
  | none hnone =>
    rw [← List.append_nil actions, decide_append hnone]
    rfl
  | first before after hbefore _ hsettles => rw [decide_append hbefore, decide_cons_of_settles hsettles]

theorem firstDecides_decide (scope : Scope) (site : Site) (list : String)
    (asked : Except Defect (Option Binary64)) (actions : Actions) :
    FirstDecides scope site list asked actions (decide scope site list asked actions) := by
  induction actions with
  | nil => exact .none (by simp)
  | cons a rest ih =>
    by_cases ha : IsDecisive scope site a
    · obtain ⟨outcome, hsettles⟩ := ha.exists_settles list asked
      rw [decide_cons_of_settles hsettles]
      exact .first [] rest (by simp) ha hsettles
    · rw [decide_cons_of_not_isDecisive ha]
      generalize decide scope site list asked rest = outcome at ih
      cases ih with
      | none hrest => exact .none (List.forall_mem_cons.mpr ⟨ha, hrest⟩)
      | first before after hbefore hb hsettles =>
        exact .first (a :: before) after (List.forall_mem_cons.mpr ⟨ha, hbefore⟩) hb hsettles

theorem decide_eq_iff {actions : Actions} :
    decide scope site list asked actions = outcome ↔
      FirstDecides scope site list asked actions outcome := by
  constructor
  · rintro rfl
    exact firstDecides_decide scope site list asked actions
  · exact FirstDecides.decide_eq

/-- Whatever stands behind a decisive element has no say. -/
theorem decide_ignores (ha : IsDecisive scope site a) (before after after' : Actions) :
    decide scope site list asked (before ++ a :: after) =
      decide scope site list asked (before ++ a :: after') := by
  induction before with
  | nil =>
    obtain ⟨outcome, hsettles⟩ := ha.exists_settles list asked
    exact (decide_cons_of_settles hsettles after).trans (decide_cons_of_settles hsettles after').symm
  | cons b before ih =>
    by_cases hb : IsDecisive scope site b
    · obtain ⟨outcome, hsettles⟩ := hb.exists_settles list asked
      rw [List.cons_append, List.cons_append, decide_cons_of_settles hsettles,
        decide_cons_of_settles hsettles]
    · rw [List.cons_append, List.cons_append, decide_cons_of_not_isDecisive hb,
        decide_cons_of_not_isDecisive hb, ih]

/-- Without repetitions the name of a list matters to its refusals only. -/
theorem FirstDecides.of_no_retry {actions : Actions} {d : Decision}
    (h : FirstDecides scope site list asked actions (.ok d))
    (hretry : ∀ action, .given action ∈ actions → action.kind ≠ .retry) (list' : String)
    (asked' : Except Defect (Option Binary64)) :
    FirstDecides scope site list' asked' actions (.ok d) := by
  cases h with
  | none hnone => exact .none hnone
  | first before after hbefore ha hsettles =>
    refine .first before after hbefore ha ?_
    cases hsettles with
    | finish hworkflow hguard hkind => exact .finish hworkflow hguard hkind
    | goto hworkflow hguard hkind hstep => exact .goto hworkflow hguard hkind hstep
    | retry _ _ hkind => exact absurd hkind (hretry _ (List.mem_append_right before List.mem_cons_self))

/-- On a list without repetitions an action is chosen after a success exactly when it is chosen after
a failure. -/
theorem decide_ok_iff_of_no_retry {actions : Actions}
    (hretry : ∀ action, .given action ∈ actions → action.kind ≠ .retry) (list' : String)
    (asked' : Except Defect (Option Binary64)) (d : Decision) :
    decide scope site list asked actions = .ok d ↔
      decide scope site list' asked' actions = .ok d := by
  rw [decide_eq_iff, decide_eq_iff]
  constructor
  · intro h
    exact h.of_no_retry hretry list' asked'
  · intro h
    exact h.of_no_retry hretry list asked

theorem FirstDecides.exists_retry {d : Decision} {actions : Actions}
    (h : FirstDecides scope site list asked actions (.ok d)) (hretry : d.action = some .retry) :
    ∃ before action after waited,
      actions = before ++ .given action :: after ∧ (∀ b ∈ before, ¬ IsDecisive scope site b) ∧
      IsDecisive scope site (.given action) ∧ action.kind = .retry ∧ asked = .ok waited ∧
      d = .retry (waited.or action.retryAfter) action.retryLimit := by
  cases h with
  | none => cases hretry
  | first before after hbefore ha hsettles =>
    cases hsettles with
    | finish => cases hretry
    | goto => cases hretry
    | retry _ _ hkind _ hasked => exact ⟨before, _, after, _, rfl, hbefore, ha, hkind, hasked, rfl⟩

end Attempt
end Arazzo
