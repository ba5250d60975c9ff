import Arazzo.Proofs.Expression.Defects
import Mathlib.Data.List.Basic

/-!
# Where evaluation fails

The evaluation of a condition goes from left to right and stops as soon as the outcome is certain. It
ends in an error if and only if it comes to a part that has no value: everything in front of this part
holds in each conjunction around it, and nothing in each alternative.
-/

namespace Arazzo
namespace Verdict

variable {first second verdict : Verdict} {wanted : Bool} {f : Fault}

theorem continueOn_error_iff : (continueOn wanted first second).outcome = .error f ↔
    first.outcome = .error f ∨ first.outcome = .ok wanted ∧ second.outcome = .error f := by
  obtain ⟨failed, outcome⟩ := first
  cases outcome with
  | error g => simp [continueOn]
  | ok b =>
    by_cases hb : b = wanted
    · simp [continueOn, hb]
    · simp [continueOn, hb]

theorem not_error_iff : verdict.not.outcome = .error f ↔ verdict.outcome = .error f := by
  obtain ⟨failed, outcome⟩ := verdict
  cases outcome <;> simp [Verdict.not, Except.map]

/-- What is judged in turn, as long as each verdict has a given outcome, fails at one of its members. -/
theorem inSequence_error_iff {α : Type} {judge : α → Verdict} {go : List α → Verdict}
    (nil : ∀ f, (go []).outcome ≠ .error f)
    (cons : ∀ a rest, go (a :: rest) = continueOn wanted (judge a) (go rest)) (as : List α) :
    (go as).outcome = .error f ↔ ∃ before a after, as = before ++ a :: after ∧
      (∀ b ∈ before, (judge b).outcome = .ok wanted) ∧ (judge a).outcome = .error f := by
  induction as with
  | nil => simp [nil f]
  | cons a rest ih =>
    rw [cons, continueOn_error_iff, ih]
    constructor
    · rintro (ha | ⟨ha, before, b, after, rfl, hbefore, hb⟩)
      · exact ⟨[], a, rest, rfl, by simp, ha⟩
      · exact ⟨a :: before, b, after, rfl, List.forall_mem_cons.mpr ⟨ha, hbefore⟩, hb⟩
    · rintro ⟨before, b, after, heq, hbefore, hb⟩
      cases before with
      | nil =>
        obtain ⟨rfl, -⟩ := List.cons.inj heq
        exact .inl hb
      | cons c before =>
        obtain ⟨rfl, rfl⟩ := List.cons.inj heq
        obtain ⟨hc, hbefore⟩ := List.forall_mem_cons.mp hbefore
        exact .inr ⟨hc, before, b, after, rfl, hbefore, hb⟩

end Verdict

namespace Condition

variable {reader : Reader} {f : Fault}

/-- What holds of every condition if it holds of its parts holds of all conditions. -/
@[elab_as_elim]
theorem induction_parts {P : Condition → Prop}
    (comparison : ∀ text left op right, P (.comparison text left op right))
    (falsity : ∀ operand, P (.falsity operand))
    (negation : ∀ inner, P inner → P (.negation inner))
    (malformed : ∀ text cause, P (.malformed text cause))
    (all : ∀ conditions, (∀ c ∈ conditions, P c) → P (.all conditions))
    (any : ∀ conditions, (∀ c ∈ conditions, P c) → P (.any conditions)) (c : Condition) : P c := by
  match c with
  | .comparison text left op right => exact comparison text left op right
  | .falsity operand => exact falsity operand
  | .negation inner =>
    exact negation inner (induction_parts comparison falsity negation malformed all any inner)
  | .malformed text cause => exact malformed text cause
  | .all conditions =>
    exact all conditions fun c hc =>
      have hpart := List.sizeOf_lt_of_mem hc
      induction_parts comparison falsity negation malformed all any c
  | .any conditions =>
    exact any conditions fun c hc =>
      have hpart := List.sizeOf_lt_of_mem hc
      induction_parts comparison falsity negation malformed all any c
termination_by sizeOf c

/-- Evaluation comes to a part of a condition. -/
inductive Reaches (reader : Reader) : Condition → Condition → Prop
  | here (c : Condition) : Reaches reader c c
  | negation {inner part : Condition} : Reaches reader inner part →
      Reaches reader (.negation inner) part
  | all {before after : List Condition} {c part : Condition} :
      (∀ d ∈ before, (d.evaluate reader).outcome = .ok true) → Reaches reader c part →
      Reaches reader (.all (before ++ c :: after)) part
  | any {before after : List Condition} {c part : Condition} :
      (∀ d ∈ before, (d.evaluate reader).outcome = .ok false) → Reaches reader c part →
      Reaches reader (.any (before ++ c :: after)) part

/-- A part without parts of its own has no value. -/
inductive Fails (reader : Reader) : Condition → Fault → Prop
  | left {text left right : String} {op : Operator} {f : Fault} :
      reader.value left = .error f → Fails reader (.comparison text left op right) f
  | right {text left right : String} {op : Operator} {l : Value} {f : Fault} :
      reader.value left = .ok l → reader.value right = .error f →
      Fails reader (.comparison text left op right) f
  | comparison {text left right : String} {op : Operator} {l r : Value} {d : Defect} :
      reader.value left = .ok l → reader.value right = .ok r →
      Comparison.compare l op r = .error d → Fails reader (.comparison text left op right) (.defect d)
  | falsity {operand : String} {f : Fault} : reader.value operand = .error f →
      Fails reader (.falsity operand) f
  | malformed (text : String) (cause : ExpressionCause) :
      Fails reader (.malformed text cause) (reader.malformed text cause)

theorem compareOperands_error_iff {text left right : String} {op : Operator} :
    (compareOperands reader text left op right).outcome = .error f ↔
      Fails reader (.comparison text left op right) f := by
  constructor
  · intro h
    unfold compareOperands at h
    split at h
    · next hleft => cases h; exact .left hleft
    · next hleft =>
      split at h
      · next hright => cases h; exact .right hleft hright
      · next hright =>
        split at h
        · next hcompare => cases h; exact .comparison hleft hright hcompare
        · cases h
        · cases h
  · rintro (hleft | ⟨hleft, hright⟩ | ⟨hleft, hright, hcompare⟩)
    · simp [compareOperands, hleft, Verdict.fault]
    · simp [compareOperands, hleft, hright, Verdict.fault]
    · simp [compareOperands, hleft, hright, hcompare, Verdict.fault]

theorem evaluateAll_error_iff (conditions : List Condition) :
    (evaluateAll reader conditions).outcome = .error f ↔
      ∃ before c after, conditions = before ++ c :: after ∧
        (∀ d ∈ before, (d.evaluate reader).outcome = .ok true) ∧
        (c.evaluate reader).outcome = .error f :=
  Verdict.inSequence_error_iff (by simp [evaluateAll, Verdict.ofBool]) (fun _ _ => rfl) conditions

theorem evaluateAny_error_iff (conditions : List Condition) :
    (evaluateAny reader conditions).outcome = .error f ↔
      ∃ before c after, conditions = before ++ c :: after ∧
        (∀ d ∈ before, (d.evaluate reader).outcome = .ok false) ∧
        (c.evaluate reader).outcome = .error f :=
  Verdict.inSequence_error_iff (by simp [evaluateAny, Verdict.ofBool]) (fun _ _ => rfl) conditions

theorem Reaches.evaluate_eq {c part : Condition} (h : Reaches reader c part)
    (hpart : Fails reader part f) : (c.evaluate reader).outcome = .error f := by
  induction h with
  | here c =>
    cases hpart with
    | left hleft => exact compareOperands_error_iff.mpr (.left hleft)
    | right hleft hright => exact compareOperands_error_iff.mpr (.right hleft hright)
    | comparison hleft hright hcompare =>
      exact compareOperands_error_iff.mpr (.comparison hleft hright hcompare)
    | falsity hvalue => simp [evaluate, hvalue, Verdict.fault]
    | malformed text cause => rfl
  | negation _ ih =>
    rw [evaluate, Verdict.not_error_iff]
    exact ih hpart
  | all hbefore _ ih =>
    rw [evaluate, evaluateAll_error_iff]
    exact ⟨_, _, _, rfl, hbefore, ih hpart⟩
  | any hbefore _ ih =>
    rw [evaluate, evaluateAny_error_iff]
    exact ⟨_, _, _, rfl, hbefore, ih hpart⟩

theorem exists_reaches_of_evaluate {c : Condition} (h : (c.evaluate reader).outcome = .error f) :
    ∃ part, Reaches reader c part ∧ Fails reader part f := by
  induction c using induction_parts with
  | comparison text left op right => exact ⟨_, .here _, compareOperands_error_iff.mp h⟩
  | falsity operand =>
    refine ⟨_, .here _, .falsity ?_⟩
    rw [evaluate] at h
    split at h
    · cases h
    · next hvalue => cases h; exact hvalue
  | negation inner ih =>
    obtain ⟨part, hreaches, hfails⟩ := ih (Verdict.not_error_iff.mp h)
    exact ⟨part, .negation hreaches, hfails⟩
  | malformed text cause =>
    cases h
    exact ⟨_, .here _, .malformed text cause⟩
  | all conditions ih =>
    rw [evaluate] at h
    obtain ⟨before, c, after, rfl, hbefore, hc⟩ := (evaluateAll_error_iff conditions).mp h
    obtain ⟨part, hreaches, hfails⟩ := ih c (by simp) hc
    exact ⟨part, .all hbefore hreaches, hfails⟩
  | any conditions ih =>
    rw [evaluate] at h
    obtain ⟨before, c, after, rfl, hbefore, hc⟩ := (evaluateAny_error_iff conditions).mp h
    obtain ⟨part, hreaches, hfails⟩ := ih c (by simp) hc
    exact ⟨part, .any hbefore hreaches, hfails⟩

theorem evaluate_error_iff {c : Condition} : (c.evaluate reader).outcome = .error f ↔
    ∃ part, Reaches reader c part ∧ Fails reader part f := by
  constructor
  · exact exists_reaches_of_evaluate
  · rintro ⟨part, hreaches, hfails⟩
    exact hreaches.evaluate_eq hfails

end Condition

/-- A condition that has no truth value tells the expression to blame, or it meets a defect that keeps an
expression from having a value. -/
theorem Scope.judge_error_cases (scope : Scope) {condition : String} {f : Fault}
    (h : (scope.judge condition).outcome = .error f) :
    (∃ text cause, f = scope.expressionFault text cause) ∨
      ∃ d, f = .defect d ∧ d.IsOfEvaluation := by
  have hoperand {s : String} (hs : scope.operand s = .error f) :
      (∃ text cause, f = scope.expressionFault text cause) ∨
        ∃ d, f = .defect d ∧ d.IsOfEvaluation := by
    cases f with
    | failure failure => exact .inl ⟨s, .invalidPath, congrArg Fault.failure (operand_failure hs)⟩
    | defect d => exact .inr ⟨d, rfl, scope.operand_errors s _ hs⟩
  obtain ⟨part, -, hfails⟩ := Condition.evaluate_error_iff.mp h
  cases hfails with
  | left hleft => exact hoperand hleft
  | right _ hright => exact hoperand hright
  | falsity hvalue => exact hoperand hvalue
  | malformed text cause => exact .inl ⟨text, cause, rfl⟩
  | comparison _ _ hcompare => exact .inr ⟨_, rfl, Comparison.compare_errors _ _ _ _ hcompare⟩

end Arazzo
