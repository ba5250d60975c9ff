import Arazzo.Proofs.Expression.Reading
import Mathlib.Data.List.Infix

/-!
# Conditions in parentheses

A closed text in parentheses is evaluated as it stands by itself, whatever surrounds it and whether it
is well formed or not: what is wrong with it shows when evaluation reaches it and not before.
-/

namespace Arazzo
namespace Verdict

/-- The verdict of one evaluation and, only if it has a given outcome, of a second one behind it. -/
inductive InTurn (wanted : Bool) (first second : Verdict) : Verdict → Prop
  | stopped : first.outcome ≠ .ok wanted → InTurn wanted first second first
  | continued : first.outcome = .ok wanted →
      InTurn wanted first second ⟨first.failed ++ second.failed, second.outcome⟩

theorem inTurn_continueOn (wanted : Bool) (first second : Verdict) :
    InTurn wanted first second (continueOn wanted first second) := by
  obtain ⟨failed, outcome⟩ := first
  cases outcome with
  | error f => exact .stopped (by simp)
  | ok b =>
    by_cases hb : b = wanted
    · have heq : continueOn wanted ⟨failed, .ok b⟩ second =
          ⟨failed ++ second.failed, second.outcome⟩ := if_pos hb
      rw [heq]
      exact .continued (congrArg Except.ok hb)
    · have heq : continueOn wanted ⟨failed, .ok b⟩ second = ⟨failed, .ok b⟩ := if_neg hb
      rw [heq]
      exact .stopped fun hok => hb (Except.ok.inj hok)

theorem continueOn_ofBool (wanted : Bool) (verdict : Verdict) :
    continueOn wanted verdict (ofBool wanted) = verdict := by
  obtain ⟨failed, outcome⟩ := verdict
  cases outcome with
  | error f => rfl
  | ok b =>
    by_cases hb : b = wanted
    · simp [continueOn, ofBool, hb]
    · simp [continueOn, hb]

@[simp] theorem and_ofBool_true (verdict : Verdict) : verdict.and (ofBool true) = verdict :=
  continueOn_ofBool true verdict

@[simp] theorem or_ofBool_false (verdict : Verdict) : verdict.or (ofBool false) = verdict :=
  continueOn_ofBool false verdict

end Verdict

namespace Scan

instance : DecidablePred Closed := fun cs =>
  decidable_of_iff ((∀ past ∈ cs.inits, 0 ≤ (run start past).depth) ∧ run start cs = start)
    ⟨fun h => ⟨fun past hpast => h.1 past ((List.mem_inits past cs).mpr hpast), h.2⟩,
      fun h => ⟨fun past hpast => h.depth_nonneg past ((List.mem_inits past cs).mp hpast),
        h.run_eq⟩⟩

end Scan

namespace Condition

open Text Scan

variable {p q : List Char}

theorem allBlank_space : AllBlank [' '] := by
  intro c hc
  rw [List.mem_singleton.mp hc]
  decide

theorem IsPart.split_eq (h : IsPart p) {mark : Char} (hmark : mark ∈ ['&', '|'])
    (tail : List Char) : split (mark :: tail) p = [p] := by
  rw [split_of_undivided (h.undivided mark hmark), h.stripped.strip_eq]

/-- A separator behind a part divides it from what follows, and drops the blanks around it. -/
theorem IsPart.split_behind (hp : IsPart p) {mark : Char} (hmark : mark ∈ ['&', '|'])
    (rest : List Char) :
    split [mark, mark] ((p ++ [' ']) ++ ([mark, mark] ++ ([' '] ++ rest))) =
      p :: split [mark, mark] rest := by
  have hplain : isDelimiter mark = false ∧ isBlank mark = false := by
    simp only [List.mem_cons, List.not_mem_nil, or_false] at hmark
    rcases hmark with rfl | rfl <;> decide
  have hblank : ∀ c ∈ [mark, mark], isBlank c = false := by simp [hplain.2]
  have hspace : Undivided mark start [' '] := undivided_of_allBlank hplain.2 allBlank_space
  have hbefore : Undivided mark start (p ++ [' ']) :=
    (hp.undivided mark hmark).append hp.closed hspace
  rw [split_append hplain.1 hbefore (hp.closed.append (closed_of_allBlank allBlank_space)).run_eq,
    strip_append_blanks allBlank_space, hp.stripped.strip_eq, ← split_strip hblank ([' '] ++ rest),
    strip_blanks_append allBlank_space, split_strip hblank]

theorem IsPart.read_eq (h : IsPart p) : read p = .all [.any [partWith read p p]] := by
  rw [Condition.read_eq h.strip_ne_nil, h.split_eq (by decide), List.map_singleton,
    h.split_eq (by decide)]
  rfl

/-- A text that is one part has the verdict of the part. -/
theorem IsPart.evaluate_read (h : IsPart p) (reader : Reader) :
    (read p).evaluate reader = (partWith read p p).evaluate reader := by
  rw [h.read_eq]
  simp [evaluate, evaluateAll, evaluateAny]

theorem IsPart.read_both (hp : IsPart p) (hq : IsPart q) {whole : List Char}
    (hwhole : whole = (p ++ [' ']) ++ (['&', '&'] ++ ([' '] ++ q))) :
    read whole = .all [.any [partWith read whole p], .any [partWith read whole q]] := by
  have hne : strip whole ≠ [] := Text.strip_ne_nil (c := '&') (by simp [hwhole]) (by decide)
  have hgroups : split ['&', '&'] whole = [p, q] := by
    rw [hwhole, hp.split_behind (by decide), hq.split_eq (by decide)]
  rw [Condition.read_eq hne, hgroups, List.map_cons, List.map_singleton, hp.split_eq (by decide),
    hq.split_eq (by decide)]
  rfl

theorem IsPart.read_either (hp : IsPart p) (hq : IsPart q) {whole : List Char}
    (hwhole : whole = (p ++ [' ']) ++ (['|', '|'] ++ ([' '] ++ q))) :
    read whole = .all [.any [partWith read whole p, partWith read whole q]] := by
  have hne : strip whole ≠ [] := Text.strip_ne_nil (c := '|') (by simp [hwhole]) (by decide)
  have hundivided : Undivided '&' start whole := by
    have hsigns : whole = p ++ ([' ', '|', '|', ' '] ++ q) := by simp [hwhole]
    have hbetween : Undivided '&' start [' ', '|', '|', ' '] := undivided_of_not_mem (by decide)
    rw [hsigns]
    exact (hp.undivided '&' (by decide)).append hp.closed
      (hbetween.append (closed_of_plain (forall_eq_false rfl)) (hq.undivided '&' (by decide)))
  have hparts : split ['|', '|'] (strip whole) = [p, q] := by
    rw [split_strip (forall_eq_false rfl), hwhole, hp.split_behind (by decide),
      hq.split_eq (by decide)]
  rw [Condition.read_eq hne, split_of_undivided hundivided, List.map_singleton, hparts]
  rfl

/-! ## Conjunctions -/

def enclosed (c : String) : String := "(" ++ c ++ ")"

/-- Conditions in parentheses with conjunction signs between them. -/
def conjunction (conditions : List String) : String := joined " && " (conditions.map enclosed)

theorem toList_enclosed (c : String) : (enclosed c).toList = '(' :: c.toList ++ [')'] := by
  simp [enclosed]

theorem toList_conjunction_cons (c d : String) (rest : List String) :
    (conjunction (c :: d :: rest)).toList =
      (('(' :: c.toList ++ [')']) ++ [' ']) ++
        (['&', '&'] ++ ([' '] ++ (conjunction (d :: rest)).toList)) := by
  simp [conjunction, joined, toList_enclosed]

variable {conditions : List String}

theorem split_conjunction (hne : conditions ≠ []) (h : ∀ c ∈ conditions, Closed c.toList) :
    split ['&', '&'] (conjunction conditions).toList =
      conditions.map fun c => '(' :: c.toList ++ [')'] := by
  induction conditions with
  | nil => exact absurd rfl hne
  | cons c rest ih =>
    obtain ⟨hc, hrest⟩ := List.forall_mem_cons.mp h
    cases rest with
    | nil =>
      have htext : (conjunction [c]).toList = '(' :: c.toList ++ [')'] := toList_enclosed c
      rw [htext, (isPart_enclosed hc).split_eq (by decide), List.map_singleton]
    | cons d rest =>
      rw [toList_conjunction_cons, (isPart_enclosed hc).split_behind (by decide),
        ih (List.cons_ne_nil d rest) hrest]
      rfl

/-- A conjunction of closed texts denotes what each of them denotes by itself. -/
theorem read_conjunction (hne : conditions ≠ []) (h : ∀ c ∈ conditions, Closed c.toList) :
    read (conjunction conditions).toList = .all (conditions.map fun c => .any [read c.toList]) := by
  have hstrip : strip (conjunction conditions).toList ≠ [] := by
    obtain ⟨c, rest, rfl⟩ := List.exists_cons_of_ne_nil hne
    have hmem : '(' ∈ (conjunction (c :: rest)).toList := by
      cases rest <;> simp [conjunction, joined, enclosed]
    exact Text.strip_ne_nil hmem (by decide)
  rw [Condition.read_eq hstrip, split_conjunction hne h, List.map_map]
  refine congrArg Condition.all (List.map_congr_left fun c hc => ?_)
  have hparts : split ['|', '|'] ('(' :: c.toList ++ [')']) = ['(' :: c.toList ++ [')']] :=
    (isPart_enclosed (h c hc)).split_eq (by decide) ['|']
  rw [Function.comp_apply, hparts, List.map_singleton, partWith_enclosed (h c hc)]

end Condition

namespace Scope

open Condition Scan

variable {c c₁ c₂ : String}

theorem judge_enclosed (h : Closed c.toList) (scope : Scope) :
    scope.judge ("(" ++ c ++ ")") = scope.judge c := by
  rw [judge, ← enclosed, toList_enclosed, (isPart_enclosed h).evaluate_read, partWith_enclosed h, judge]

theorem judge_negated (h : Closed c.toList) (scope : Scope) :
    scope.judge ("!(" ++ c ++ ")") = (scope.judge c).not := by
  have htext : ("!(" ++ c ++ ")").toList = '!' :: ([] ++ ('(' :: c.toList ++ [')'])) := by simp
  have hpart : IsPart ('!' :: ([] ++ ('(' :: c.toList ++ [')']))) :=
    (isPart_enclosed h).negated (by simp [Text.AllBlank])
  rw [judge, htext, hpart.evaluate_read, partWith_negated_enclosed (by simp [Text.AllBlank]) h,
    evaluate, judge]

/-- Closed texts in parentheses are evaluated one after the other, each as it stands by itself: the
second one only if the first one leaves the outcome open. -/
theorem judge_grouped (h₁ : Closed c₁.toList) (h₂ : Closed c₂.toList) (scope : Scope) :
    Verdict.InTurn true (scope.judge c₁) (scope.judge c₂)
      (scope.judge ("(" ++ c₁ ++ ") && (" ++ c₂ ++ ")")) ∧
    Verdict.InTurn false (scope.judge c₁) (scope.judge c₂)
      (scope.judge ("(" ++ c₁ ++ ") || (" ++ c₂ ++ ")")) ∧
    scope.judge ("(" ++ c₁ ++ ")") = scope.judge c₁ ∧
    (scope.judge ("!(" ++ c₁ ++ ")")).failed = (scope.judge c₁).failed ∧
    (∀ b, (scope.judge ("!(" ++ c₁ ++ ")")).outcome = .ok b ↔ (scope.judge c₁).outcome = .ok !b) ∧
    ∀ f, (scope.judge ("!(" ++ c₁ ++ ")")).outcome = .error f ↔
      (scope.judge c₁).outcome = .error f := by
  have hpart₁ := isPart_enclosed h₁
  have hpart₂ := isPart_enclosed h₂
  refine ⟨?_, ?_, judge_enclosed h₁ scope, ?_, ?_, ?_⟩
  · have htext : ("(" ++ c₁ ++ ") && (" ++ c₂ ++ ")").toList =
        (('(' :: c₁.toList ++ [')']) ++ [' ']) ++
          (['&', '&'] ++ ([' '] ++ ('(' :: c₂.toList ++ [')']))) := by simp
    have hjudge : scope.judge ("(" ++ c₁ ++ ") && (" ++ c₂ ++ ")") =
        (scope.judge c₁).and (scope.judge c₂) := by
      rw [judge, hpart₁.read_both hpart₂ htext, partWith_enclosed h₁, partWith_enclosed h₂]
      simp [evaluate, evaluateAll, evaluateAny, judge]
    rw [hjudge]
    exact Verdict.inTurn_continueOn true _ _
  · have htext : ("(" ++ c₁ ++ ") || (" ++ c₂ ++ ")").toList =
        (('(' :: c₁.toList ++ [')']) ++ [' ']) ++
          (['|', '|'] ++ ([' '] ++ ('(' :: c₂.toList ++ [')']))) := by simp
    have hjudge : scope.judge ("(" ++ c₁ ++ ") || (" ++ c₂ ++ ")") =
        (scope.judge c₁).or (scope.judge c₂) := by
      rw [judge, hpart₁.read_either hpart₂ htext, partWith_enclosed h₁, partWith_enclosed h₂]
      simp [evaluate, evaluateAll, evaluateAny, judge]
    rw [hjudge]
    exact Verdict.inTurn_continueOn false _ _
  · rw [judge_negated h₁]
    rfl
  · intro b
    rw [judge_negated h₁, Verdict.not]
    cases (scope.judge c₁).outcome with
    | error f => simp [Except.map]
    | ok d => cases d <;> cases b <;> simp [Except.map]
  · intro f
    rw [judge_negated h₁, Verdict.not]
    cases (scope.judge c₁).outcome with
    | error g => simp [Except.map]
    | ok d => simp [Except.map]

/-- Two texts that are closed and no conditions. -/
theorem judge_grouped_malformed : Closed "1 == 2 || ')' <".toList ∧ Closed "! (&&)".toList ∧
    ∀ scope : Scope,
      Verdict.InTurn true (scope.judge "1 == 2 || ')' <") (scope.judge "! (&&)")
        (scope.judge ("(" ++ "1 == 2 || ')' <" ++ ") && (" ++ "! (&&)" ++ ")")) ∧
      Verdict.InTurn false (scope.judge "1 == 2 || ')' <") (scope.judge "! (&&)")
        (scope.judge ("(" ++ "1 == 2 || ')' <" ++ ") || (" ++ "! (&&)" ++ ")")) ∧
      scope.judge ("(" ++ "1 == 2 || ')' <" ++ ")") = scope.judge "1 == 2 || ')' <" := by
  have h₁ : Closed "1 == 2 || ')' <".toList := by decide
  have h₂ : Closed "! (&&)".toList := by decide
  refine ⟨h₁, h₂, fun scope => ?_⟩
  obtain ⟨hand, hor, henclosed, -⟩ := judge_grouped h₁ h₂ scope
  exact ⟨hand, hor, henclosed⟩

end Scope
end Arazzo
