import Arazzo.Proofs.Expression.Grouping
import Arazzo.Proofs.Workflow.Faults
import Arazzo.Workflow.Criteria

/-!
# Criteria

Simple criteria are judged as the conjunction of their conditions, each in parentheses. A criterion of
another type is an error once it is reached, which is the case if all criteria in front of it hold.
-/

namespace Arazzo
namespace Criterion

open Condition (conjunction)
open Scan (Closed)

/-- A criterion of no type, or of the type that goes without saying. -/
def IsSimple (c : Criterion) : Prop := c.type = none ∨ c.type = some (.named "simple")

variable {scope : Scope} {step : Option String} {criteria before after : List Criterion}
  {c : Criterion} {name : Value} {f : Fault}

theorem unsupportedType?_eq_none_iff : c.unsupportedType? = none ↔ c.IsSimple := by
  unfold unsupportedType? IsSimple
  split
  · next htype => simp [htype]
  · next name htype => simp [htype]
  · next details htype => simp [htype]

theorem IsSimple.judge_eq (h : c.IsSimple) : c.judge scope step = scope.judge c.condition := by
  rw [judge, unsupportedType?_eq_none_iff.mpr h]

theorem evaluateAll_eq_judgeAll (h : ∀ c ∈ criteria, c.IsSimple) :
    Condition.evaluateAll scope.reader
        (criteria.map fun c => .any [Condition.read c.condition.toList]) =
      judgeAll scope step criteria := by
  induction criteria with
  | nil => rfl
  | cons c rest ih =>
    obtain ⟨hc, hrest⟩ := List.forall_mem_cons.mp h
    rw [List.map_cons, Condition.evaluateAll, ih hrest, judgeAll, hc.judge_eq, Condition.evaluate,
      Condition.evaluateAny, Condition.evaluateAny, Verdict.or_ofBool_false, Scope.judge]

/-- Simple criteria with closed conditions have the verdict of the conjunction. -/
theorem judgeAll_eq_conjunction (hne : criteria ≠ []) (hsimple : ∀ c ∈ criteria, c.IsSimple)
    (hclosed : ∀ c ∈ criteria, Closed c.condition.toList) :
    judgeAll scope step criteria = scope.judge (conjunction (criteria.map condition)) := by
  have hnil : criteria.map condition ≠ [] := by simpa using hne
  rw [Scope.judge, Condition.read_conjunction hnil (List.forall_mem_map.mpr hclosed),
    Condition.evaluate, List.map_map]
  exact (evaluateAll_eq_judgeAll hsimple).symm

/-- What a criterion of another type ends in. -/
theorem judge_of_unsupported (h : c.unsupportedType? = some name) :
    (c.judge scope step).outcome =
      if name.hasLong then .error (.defect .numberTooLong)
      else .error (.failure (.unsupported (.criterionType name.plain) ⟨scope.site.workflow, step⟩)) := by
  rw [judge, h]
  dsimp only
  split <;> rfl

/-- An error that no simple criterion ends in is that of the first criterion of another type, which is
reached if all criteria in front of it hold. -/
theorem judgeAll_error_iff_of_simple (hbefore : ∀ b ∈ before, b.IsSimple)
    (hc : c.unsupportedType? = some name)
    (hf : ∀ condition, (scope.judge condition).outcome ≠ .error f) :
    (judgeAll scope step (before ++ c :: after)).outcome = .error f ↔
      (∀ b ∈ before, (scope.judge b.condition).outcome = .ok true) ∧
        (c.judge scope step).outcome = .error f := by
  rw [judgeAll_error_iff]
  constructor
  · rintro ⟨past, d, rest, heq, hpast, hd⟩
    have hrefused : (c.judge scope step).outcome ≠ .ok true := by
      rw [judge_of_unsupported hc]
      split_ifs <;> exact nofun
    -- Neither a simple criterion fails so, nor does evaluation get past the other one.
    obtain ⟨rfl, rfl⟩ : past = before ∧ d = c := by
      rcases List.append_eq_append_iff.mp heq with ⟨more, rfl, hmore⟩ | ⟨more, rfl, hmore⟩
      · cases more with
        | nil => exact ⟨List.append_nil before, (List.cons.inj hmore).1.symm⟩
        | cons e more =>
          obtain rfl := (List.cons.inj hmore).1
          exact absurd (hpast c (by simp)) hrefused
      · cases more with
        | nil => exact ⟨(List.append_nil past).symm, (List.cons.inj hmore).1⟩
        | cons e more =>
          obtain rfl := (List.cons.inj hmore).1
          rw [(hbefore d (by simp)).judge_eq] at hd
          exact absurd hd (hf d.condition)
    refine ⟨fun b hb => ?_, hd⟩
    rw [← (hbefore b hb).judge_eq]
    exact hpast b hb
  · rintro ⟨hholds, hf⟩
    refine ⟨before, c, after, rfl, fun b hb => ?_, hf⟩
    rw [(hbefore b hb).judge_eq]
    exact hholds b hb

/-- Simple criteria with closed conditions are judged as their conjunction: with the same outcome and the
same failed comparisons. A criterion of another type is refused exactly if all criteria in front of it
hold; if its type goes by a number that is too long to be told, the refusal is a defect. -/
theorem judgeAll_conjoins (scope : Scope) (step : Option String) :
    (∀ criteria : List Criterion, criteria ≠ [] → (∀ c ∈ criteria, c.IsSimple) →
      (∀ c ∈ criteria, Closed c.condition.toList) →
      judgeAll scope step criteria = scope.judge (conjunction (criteria.map condition))) ∧
    ∀ (before after : List Criterion) (c : Criterion), (∀ b ∈ before, b.IsSimple) → ¬ c.IsSimple →
      ∃ name, c.unsupportedType? = some name ∧
        (∀ feature site,
          (judgeAll scope step (before ++ c :: after)).outcome =
              .error (.failure (.unsupported feature site)) ↔
            (∀ b ∈ before, (scope.judge b.condition).outcome = .ok true) ∧ name.hasLong = false ∧
              feature = .criterionType name.plain ∧ site = ⟨scope.site.workflow, step⟩) ∧
        ((judgeAll scope step (before ++ c :: after)).outcome = .error (.defect .numberTooLong) ↔
          (∀ b ∈ before, (scope.judge b.condition).outcome = .ok true) ∧ name.hasLong = true) := by
  refine ⟨fun criteria hne hsimple hclosed => judgeAll_eq_conjunction hne hsimple hclosed, ?_⟩
  intro before after c hbefore hother
  obtain ⟨name, hc⟩ := Option.ne_none_iff_exists'.mp (mt unsupportedType?_eq_none_iff.mp hother)
  have hunsupported : ∀ feature site condition,
      (scope.judge condition).outcome ≠ .error (.failure (.unsupported feature site)) := by
    intro feature site condition h
    obtain ⟨text, cause, heq⟩ | ⟨d, heq, -⟩ := scope.judge_error_cases h <;> cases heq
  have htooLong : ∀ condition, (scope.judge condition).outcome ≠ .error (.defect .numberTooLong) := by
    intro condition h
    obtain ⟨text, cause, heq⟩ | ⟨d, heq, hd⟩ := scope.judge_error_cases h
    · cases heq
    · cases heq
      cases hd
  refine ⟨name, hc, fun feature site => ?_, ?_⟩
  · rw [judgeAll_error_iff_of_simple hbefore hc (hunsupported feature site), judge_of_unsupported hc]
    refine and_congr_right fun _ => ?_
    cases name.hasLong <;> simp [eq_comm]
  · rw [judgeAll_error_iff_of_simple hbefore hc htooLong, judge_of_unsupported hc]
    refine and_congr_right fun _ => ?_
    cases name.hasLong <;> simp

/-- A simple criterion. -/
def simple (condition : String) : Criterion := ⟨condition, none, none, []⟩

/-- A criterion of a type with details. -/
def detailed (type : Value) : Criterion := ⟨"x", none, some (.detailed [("type", type)]), []⟩

theorem judgeAll_conjoins_mixed :
    judgeAll ⟨⟨.map [], []⟩, default⟩ none [simple "1 == '1'", simple "2 < "] =
      Scope.judge ⟨⟨.map [], []⟩, default⟩ "(1 == '1') && (2 < )" ∧
    (judgeAll ⟨⟨.map [], []⟩, default⟩ none [simple "1 == '1'", detailed (.text "jsonpath")]).outcome =
      .error (.failure (.unsupported (.criterionType "jsonpath") default)) := by
  obtain ⟨hsimple, hother⟩ := judgeAll_conjoins ⟨⟨.map [], []⟩, default⟩ none
  constructor
  · have hclosed : ∀ c ∈ [simple "1 == '1'", simple "2 < "], Closed c.condition.toList := by
      simp only [List.forall_mem_cons]
      exact ⟨by decide, by decide, nofun⟩
    exact hsimple _ (List.cons_ne_nil _ _) (by simp [IsSimple, simple]) hclosed
  · obtain ⟨name, hname, hrefused, -⟩ := hother [simple "1 == '1'"] [] (detailed (.text "jsonpath"))
      (by simp [IsSimple, simple]) (by simp [IsSimple, detailed])
    obtain rfl : Value.text "jsonpath" = name := Option.some.inj hname
    refine (hrefused _ _).mpr ⟨?_, rfl, rfl, rfl⟩
    rw [List.forall_mem_singleton]
    decide +kernel

/-- A criterion of another type behind one that holds is a defect if its type goes by a long number. -/
theorem judgeAll_unnamed :
    (judgeAll ⟨⟨.map [], []⟩, default⟩ none [simple "1 == 1"]).outcome = .ok true ∧
    (judgeAll ⟨⟨.map [], []⟩, default⟩ none [simple "1 == 1", detailed (.int longNumber)]).outcome =
      .error (.defect .numberTooLong) := by
  decide +kernel

end Criterion
end Arazzo
