import Arazzo.Proofs.Expression.Grouping

/-!
# Parentheses around a whole text

One pair of parentheses encloses a text exactly if the parentheses between its ends match. The two at
the ends are then a pair, and every other pair of the text is a pair of what stands between them. So
the ends can be taken away without a change to what is grouped, again and again until no pair encloses
what is left.
-/

namespace Arazzo
namespace Scan

variable {scan : Scan} {cs inside : List Char} {i j : Nat}

/-- Two parentheses of a text belong together: both stand outside quotation marks, and those between
them match. -/
def Paired (cs : List Char) (i j : Nat) : Prop :=
  ∃ before between after, cs = before ++ '(' :: between ++ ')' :: after ∧ before.length = i ∧
    before.length + between.length + 1 = j ∧ (∃ signs, Outside before signs) ∧ Matched between

/-! ## What the scan for the enclosing pair has seen -/

theorem depth_step_quoted (q : Char) (depth : Int) (c : Char) :
    (step ⟨some q, depth⟩ c).depth = depth := by
  unfold step
  dsimp only
  split <;> rfl

theorem depth_pos_of_step {c : Char} (hpos : 0 < scan.depth)
    (h : ¬ (scan.quote.isNone ∧ c = ')' ∧ (scan.step c).depth = 0)) : 0 < (scan.step c).depth := by
  obtain ⟨quote, depth⟩ := scan
  change 0 < depth at hpos
  cases quote with
  | some q => rwa [depth_step_quoted]
  | none =>
    by_cases hc : Literal.isQuote c = true
    · simpa [step, hc] using hpos
    · rw [Bool.not_eq_true] at hc
      by_cases hclose : c = ')'
      · subst hclose
        simp only [step_eq hc, excess] at h ⊢
        simp at h ⊢
        omega
      · have hexcess : 0 ≤ excess [c] := by simp [excess, hclose]
        rw [step_eq hc]
        exact Int.add_pos_of_pos_of_nonneg hpos hexcess

/-- If the parentheses do not close before the end of a text, they are open all the way to it. -/
theorem run_of_closesAtEnd (hpos : 0 < scan.depth) (h : closesAtEnd scan (cs ++ [')']) = true) :
    (∀ past, past <+: cs → 0 < (run scan past).depth) ∧ run scan cs = ⟨none, 1⟩ := by
  induction cs generalizing scan with
  | nil =>
    have hclosed : (scan.step ')').depth = 0 := by simpa [closesAtEnd] using h
    obtain ⟨quote, depth⟩ := scan
    cases quote with
    | some q =>
      rw [depth_step_quoted] at hclosed
      exact absurd hclosed (Int.ne_of_gt hpos)
    | none =>
      have hone : depth = 1 := by
        simp [step, Literal.isQuote] at hclosed
        omega
      subst hone
      refine ⟨fun past hpast => ?_, rfl⟩
      rw [List.prefix_nil.mp hpast]
      exact hpos
  | cons c cs ih =>
    rw [List.cons_append, closesAtEnd] at h
    split at h
    · cases h
    · next hgoes =>
      have hnext : 0 < (scan.step c).depth := by
        refine depth_pos_of_step hpos ?_
        rintro ⟨hquote, rfl, hzero⟩
        exact hgoes (by simp [hquote, hzero])
      obtain ⟨hdepth, hrun⟩ := ih hnext h
      exact ⟨forall_prefix_cons.mpr ⟨hpos, hdepth⟩, hrun⟩

theorem closed_of_run_inside (hdepth : ∀ past, past <+: cs → 0 < (run ⟨none, 1⟩ past).depth)
    (hrun : run ⟨none, 1⟩ cs = ⟨none, 1⟩) : Closed cs := by
  simp only [← deepen_start 1, run_deepen] at hdepth hrun
  refine ⟨fun past hpast => ?_, ?_⟩
  · have hpos : 0 < (run start past).depth + 1 := hdepth past hpast
    omega
  · cases hstate : run start cs
    rw [hstate] at hrun
    simp only [deepen, start, Scan.mk.injEq] at hrun ⊢
    exact ⟨hrun.1, by omega⟩

theorem isWrapped_iff_closed :
    isWrapped cs = true ↔ ∃ inside, cs = '(' :: inside ++ [')'] ∧ Closed inside := by
  constructor
  · intro h
    have heq := eq_of_isWrapped h
    refine ⟨inner cs, heq, ?_⟩
    simp only [isWrapped, Bool.and_eq_true] at h
    obtain ⟨-, hcloses⟩ := h
    rw [heq, List.cons_append, closesAtEnd] at hcloses
    have hopen : start.step '(' = ⟨none, 1⟩ := rfl
    rw [hopen] at hcloses
    obtain ⟨hdepth, hrun⟩ := run_of_closesAtEnd Int.one_pos hcloses
    exact closed_of_run_inside hdepth hrun
  · rintro ⟨inside, rfl, hclosed⟩
    exact hclosed.isWrapped_enclosed

/-! ## Pairs of an enclosed text -/

theorem Paired.enclosed (h : Paired inside i j) : Paired ('(' :: inside ++ [')']) (i + 1) (j + 1) := by
  obtain ⟨before, between, after, rfl, rfl, rfl, ⟨signs, hsigns⟩, hmatched⟩ := h
  refine ⟨'(' :: before, between, after ++ [')'], by simp, rfl, ?_, ⟨_, .cons rfl hsigns⟩, hmatched⟩
  rw [List.length_cons]
  omega

/-- A parenthesis that closes the first one of an enclosed text stands at the end. -/
theorem eq_of_closes_first (h : Closed inside) {between after : List Char} (hbetween : Closed between)
    (heq : inside ++ [')'] = between ++ ')' :: after) : between = inside := by
  cases after using List.reverseRecOn with
  | nil => exact (List.append_inj_left' heq rfl).symm
  | append_singleton after c =>
    have hends : inside ++ [')'] = between ++ [')'] ++ after ++ [c] := by simpa using heq
    have hinside : inside = between ++ [')'] ++ after := List.append_inj_left' hends rfl
    have hnonneg := h.depth_nonneg (between ++ [')']) ⟨after, hinside.symm⟩
    rw [run_append, hbetween.run_eq] at hnonneg
    exact absurd hnonneg (by decide)

/-- A pair behind the first parenthesis of an enclosed text stands between its ends. -/
theorem exists_of_closes_later (h : Closed inside) {before between after : List Char}
    (hbefore : ∃ signs, Outside before signs) (hbetween : Closed between)
    (heq : inside ++ [')'] = before ++ '(' :: between ++ ')' :: after) :
    ∃ after', inside = before ++ '(' :: between ++ ')' :: after' := by
  cases after using List.reverseRecOn with
  | nil =>
    have hinside : inside = before ++ '(' :: between := List.append_inj_left' heq rfl
    obtain ⟨signs, hsigns⟩ := hbefore
    have hnonneg := h.depth_nonneg before ⟨_, hinside.symm⟩
    have hrun := h.run_eq
    rw [start, hsigns.run_eq] at hnonneg
    rw [hinside, run_append, start, hsigns.run_eq, run_cons, step_eq rfl, hbetween.run_inside] at hrun
    have hdepth := congrArg Scan.depth hrun
    simp [excess] at hdepth hnonneg
    omega
  | append_singleton after c =>
    have hends : inside ++ [')'] = before ++ '(' :: between ++ ')' :: after ++ [c] := by
      simpa using heq
    exact ⟨after, List.append_inj_left' hends rfl⟩

theorem paired_enclosed_iff (h : Closed inside) : Paired ('(' :: inside ++ [')']) i j ↔
    i = 0 ∧ j = inside.length + 1 ∨ ∃ i' j', i = i' + 1 ∧ j = j' + 1 ∧ Paired inside i' j' := by
  constructor
  · rintro ⟨before, between, after, heq, rfl, rfl, hbefore, hmatched⟩
    have hbetween := closed_iff_matched.mpr hmatched
    cases before with
    | nil =>
      rw [eq_of_closes_first h hbetween (List.cons.inj heq).2]
      exact .inl ⟨rfl, by simp⟩
    | cons c before =>
      obtain ⟨rfl, htail⟩ := List.cons.inj heq
      have hrest : ∃ signs, Outside before signs := by
        obtain ⟨signs, hsigns⟩ := hbefore
        cases hsigns with
        | cons _ hsigns => exact ⟨_, hsigns⟩
        | quoted hq => cases hq
      obtain ⟨after, hinside⟩ := exists_of_closes_later h hrest hbetween htail
      refine .inr ⟨before.length, before.length + between.length + 1, rfl, ?_, before, between, after,
        hinside, rfl, rfl, hrest, hmatched⟩
      rw [List.length_cons]
      omega
  · rintro (⟨rfl, rfl⟩ | ⟨i, j, rfl, rfl, hpaired⟩)
    · exact ⟨[], inside, [], rfl, rfl, by simp, ⟨[], .nil⟩, closed_iff_matched.mp h⟩
    · exact hpaired.enclosed

/-! ## Taking the ends away -/

/-- Every pair that is taken away takes two characters, so an end comes to it. -/
theorem exists_unwrapped (cs : List Char) : ∃ n, 2 * n ≤ cs.length ∧
    (∀ k < n, isWrapped (inner^[k] cs) = true) ∧ isWrapped (inner^[n] cs) = false := by
  induction hlength : cs.length using Nat.strong_induction_on generalizing cs with
  | _ m ih =>
    subst hlength
    by_cases hwrapped : isWrapped cs = true
    · have hinner := Condition.length_inner hwrapped
      obtain ⟨n, hn, hbefore, hend⟩ := ih (inner cs).length (by omega) (inner cs) rfl
      refine ⟨n + 1, by omega, fun k hk => ?_, hend⟩
      cases k with
      | zero => exact hwrapped
      | succ k => exact hbefore k (Nat.lt_of_succ_lt_succ hk)
    · exact ⟨0, Nat.zero_le _, fun k hk => absurd hk (Nat.not_lt_zero k), by simpa using hwrapped⟩

theorem judge_inner (h : isWrapped cs = true) (scope : Scope) :
    scope.judge (String.ofList cs) = scope.judge (String.ofList (inner cs)) := by
  obtain ⟨inside, rfl, hclosed⟩ := isWrapped_iff_closed.mp h
  rw [inner_enclosed, ← scope.judge_enclosed (c := String.ofList inside) (by simpa using hclosed)]
  exact congrArg scope.judge (String.toList_injective (by simp))

/-- A text counts as enclosed exactly if the parentheses between a first and a last one match. Those two
are then a pair, the other pairs are those of the text between them, and a condition holds as it does
without the two. Taking such pairs away comes to an end. -/
theorem isWrapped_encloses (cs : List Char) :
    (isWrapped cs = true ↔ ∃ inside, cs = '(' :: inside ++ [')'] ∧ Matched inside) ∧
    (isWrapped cs = true →
      (∀ i j, Paired cs i j ↔ i = 0 ∧ j + 1 = cs.length ∨
        ∃ i' j', i = i' + 1 ∧ j = j' + 1 ∧ Paired (inner cs) i' j') ∧
      ∀ scope : Scope, scope.judge (String.ofList cs) = scope.judge (String.ofList (inner cs))) ∧
    ∃ n, 2 * n ≤ cs.length ∧ (∀ k < n, isWrapped (inner^[k] cs) = true) ∧
      isWrapped (inner^[n] cs) = false := by
  refine ⟨?_, fun h => ⟨fun i j => ?_, judge_inner h⟩, exists_unwrapped cs⟩
  · simp only [← closed_iff_matched]
    exact isWrapped_iff_closed
  · obtain ⟨inside, rfl, hclosed⟩ := isWrapped_iff_closed.mp h
    rw [inner_enclosed, paired_enclosed_iff hclosed]
    simp

/-- The parenthesis between quotation marks belongs to no pair. -/
theorem isWrapped_encloses_quoted : isWrapped "(x == ')' && (y))".toList = true ∧
    (∃ inside, "(x == ')' && (y))".toList = '(' :: inside ++ [')'] ∧ Matched inside) ∧
    (∀ i j, Paired "(x == ')' && (y))".toList i j ↔ i = 0 ∧ j + 1 = 17 ∨
      ∃ i' j', i = i' + 1 ∧ j = j' + 1 ∧ Paired "x == ')' && (y)".toList i' j') ∧
    ∀ scope : Scope, scope.judge "(x == ')' && (y))" = scope.judge "x == ')' && (y)" := by
  obtain ⟨hiff, hinside, -⟩ := isWrapped_encloses "(x == ')' && (y))".toList
  have hwrapped : isWrapped "(x == ')' && (y))".toList = true := by decide
  have hinner : inner "(x == ')' && (y))".toList = "x == ')' && (y)".toList := by decide
  obtain ⟨hpairs, hjudge⟩ := hinside hwrapped
  rw [hinner] at hpairs
  simp only [hinner, String.ofList_toList] at hjudge
  exact ⟨hwrapped, hiff.mp hwrapped, hpairs, hjudge⟩

end Scan
end Arazzo
