import Arazzo.Number.Shortest
import Arazzo.Proofs.Number.Rounding

/-!
# Decimals that read back

The decimal that stands for a finite value is among the rationals that round to it, so that reading it
gives the value, whatever the search for few digits has come to.
-/

namespace Arazzo
namespace Binary64

/-! ## Comparisons -/

/-- A power with a non-negative exponent, up to one with its opposite. -/
theorem toNat_pow_eq {b : ℕ} (hb : b ≠ 0) (e : ℤ) :
    ((Nat.pow b e.toNat : ℕ) : ℚ) = (b : ℚ) ^ e * (Nat.pow b (-e).toNat : ℕ) := by
  have hne : (b : ℚ) ≠ 0 := by exact_mod_cast hb
  by_cases he : 0 ≤ e
  · rw [pow_toNat he, Int.toNat_eq_zero.mpr (by omega : -e ≤ 0)]
    simp
  · rw [pow_toNat (by omega : 0 ≤ -e), Int.toNat_eq_zero.mpr (by omega : e ≤ 0),
      ← zpow_add₀ hne]
    simp

/-- Comparing a decimal with a binary is comparing two natural multiples of them. -/
theorem exists_compareDecimal (digits n : ℕ) (exponent e : ℤ) : ∃ a b : ℕ, ∃ c : ℚ, 0 < c ∧
    (a : ℚ) = digits * 10 ^ exponent * c ∧ (b : ℚ) = n * 2 ^ e * c ∧
      compareDecimal digits exponent n e = compare a b := by
  refine ⟨digits * Nat.pow 10 exponent.toNat * Nat.pow 2 (-e).toNat,
    n * Nat.pow 2 e.toNat * Nat.pow 10 (-exponent).toNat,
    (Nat.pow 10 (-exponent).toNat : ℕ) * (Nat.pow 2 (-e).toNat : ℕ), ?_, ?_, ?_, rfl⟩
  · exact mul_pos (Nat.cast_pos.mpr (Nat.pow_pos (by decide)))
      (Nat.cast_pos.mpr (Nat.pow_pos (by decide)))
  · rw [Nat.cast_mul, Nat.cast_mul, toNat_pow_eq (by decide) exponent, Nat.cast_ofNat]
    ring
  · rw [Nat.cast_mul, Nat.cast_mul, toNat_pow_eq (by decide) e, Nat.cast_ofNat]
    ring

theorem compareDecimal_spec (digits n : ℕ) (exponent e : ℤ) :
    (compareDecimal digits exponent n e = .lt ↔ (digits * 10 ^ exponent : ℚ) < n * 2 ^ e) ∧
    (compareDecimal digits exponent n e = .eq ↔ (digits * 10 ^ exponent : ℚ) = n * 2 ^ e) ∧
    (compareDecimal digits exponent n e = .gt ↔ (n * 2 ^ e : ℚ) < digits * 10 ^ exponent) := by
  obtain ⟨a, b, c, hc, ha, hb, heq⟩ := exists_compareDecimal digits n exponent e
  rw [heq, compare_lt_iff_lt, compare_eq_iff_eq, compare_gt_iff_gt, ← Nat.cast_lt (α := ℚ),
    ← Nat.cast_inj (R := ℚ), ← Nat.cast_lt (α := ℚ), ha, hb]
  exact ⟨mul_lt_mul_iff_left₀ hc, mul_left_inj' hc.ne', mul_lt_mul_iff_left₀ hc⟩

theorem readsBack_iff (m : ℕ) (e : ℤ) (digits : ℕ) (exponent : ℤ) :
    readsBack m e digits exponent = true ↔ Rounds m e (digits * 10 ^ exponent) := by
  obtain ⟨-, hlowEq, hlowGt⟩ := compareDecimal_spec digits (lowEnd m e) exponent (e - 2)
  obtain ⟨hhighLt, hhighEq, -⟩ := compareDecimal_spec digits (4 * m + 2) exponent (e - 2)
  have hreads : readsBack m e digits exponent =
      ((compareDecimal digits exponent (lowEnd m e) (e - 2) == .gt ||
          m % 2 == 0 && compareDecimal digits exponent (lowEnd m e) (e - 2) == .eq) &&
        (compareDecimal digits exponent (4 * m + 2) (e - 2) == .lt ||
          m % 2 == 0 && compareDecimal digits exponent (4 * m + 2) (e - 2) == .eq)) := rfl
  simp only [hreads, Bool.and_eq_true, Bool.or_eq_true, beq_iff_eq, hlowEq, hlowGt, hhighLt,
    hhighEq]
  constructor
  · rintro ⟨hlow, hhigh⟩
    exact ⟨hlow.imp_right (And.imp_right Eq.symm), hhigh⟩
  · rintro ⟨hlow, hhigh⟩
    exact ⟨hlow.imp_right (And.imp_right Eq.symm), hhigh⟩

/-! ## The search -/

theorem roundedQuotient_cases (num den : ℕ) :
    roundedQuotient num den = num / den ∨ roundedQuotient num den = num / den + 1 := by
  simp only [roundedQuotient]
  split_ifs <;> simp

theorem readsBack_of_onGrid {m digits : ℕ} {e grid exponent : ℤ}
    (h : onGrid m e grid = some (digits, exponent)) :
    exponent = grid ∧ readsBack m e digits exponent = true := by
  simp only [onGrid] at h
  split at h
  · next hbelow _ =>
    obtain ⟨rfl, rfl⟩ := Prod.mk.inj (Option.some.inj h)
    exact ⟨rfl, (Bool.and_eq_true _ _ ▸ hbelow).2⟩
  · next _ habove =>
    obtain ⟨rfl, rfl⟩ := Prod.mk.inj (Option.some.inj h)
    exact ⟨rfl, habove⟩
  · cases h
  · next hbelow habove =>
    obtain ⟨rfl, rfl⟩ := Prod.mk.inj (Option.some.inj h)
    refine ⟨rfl, ?_⟩
    rcases roundedQuotient_cases (m * Nat.pow 2 e.toNat * Nat.pow 10 (-grid).toNat)
      (Nat.pow 2 (-e).toNat * Nat.pow 10 grid.toNat) with heq | heq
    · rw [heq]
      exact (Bool.and_eq_true _ _ ▸ hbelow).2
    · rw [heq]
      exact habove

/-- Zeros at the end move without a change of the value. -/
theorem dropZeros_spec (fuel digits : ℕ) (exponent : ℤ) :
    ((dropZeros fuel digits exponent).1 * 10 ^ (dropZeros fuel digits exponent).2 : ℚ) =
      digits * 10 ^ exponent ∧ exponent ≤ (dropZeros fuel digits exponent).2 := by
  induction fuel generalizing digits exponent with
  | zero => exact ⟨rfl, le_rfl⟩
  | succ fuel ih =>
    rw [dropZeros]
    split_ifs with hzero
    · obtain ⟨hvalue, hle⟩ := ih (digits / 10) (exponent + 1)
      refine ⟨?_, by omega⟩
      have hdigits : (digits : ℚ) = 10 * (digits / 10 : ℕ) := by
        exact_mod_cast (Nat.mul_div_cancel' (Nat.dvd_of_mod_eq_zero hzero.2)).symm
      rw [hvalue, zpow_add_one₀ (by norm_num), hdigits]
      ring
    · exact ⟨rfl, le_rfl⟩

theorem le_decimalScale (m : ℕ) (e : ℤ) :
    ((m.log2 : ℤ) + e) * 30103 / 100000 - 1 ≤ decimalScale m e := by
  rw [decimalScale]
  obtain ⟨estimate, hestimate⟩ : ∃ k, ((m.log2 : ℤ) + e) * 30103 / 100000 = k := ⟨_, rfl⟩
  simp only [hestimate]
  cases hfind : List.find? (fun k => compareDecimal 1 k m e == .gt)
      ((List.range 4).map fun step => estimate - 1 + (step : ℕ)) with
  | none => simp only [Option.getD_none]; omega
  | some k =>
    obtain ⟨step, -, rfl⟩ := List.mem_map.mp (List.mem_of_find?_eq_some hfind)
    simp only [Option.getD_some]
    omega

theorem rounds_self {m : ℕ} {e : ℤ} (hm : m ≠ 0) : Rounds m e (m * 2 ^ e) := by
  have hunit : (0 : ℚ) < 2 ^ (e - 2) := by positivity
  have hlow : (lowEnd m e : ℚ) < 4 * m := by
    have hlt : lowEnd m e < 4 * m := by
      unfold lowEnd
      split_ifs <;> omega
    exact_mod_cast hlt
  rw [← four_mul_zpow e, ← mul_assoc, mul_comm (m : ℚ)]
  refine ⟨.inl (mul_lt_mul_of_pos_right hlow hunit), .inl (mul_lt_mul_of_pos_right ?_ hunit)⟩
  push_cast
  linarith

/-- The decimal that stands for a value rounds to it. -/
theorem shortest_spec {m : ℕ} {e : ℤ} (hnormal : IsNormal m e) (hm : m ≠ 0) :
    Rounds m e ((shortest m e).1 * 10 ^ (shortest m e).2) ∧ -1100 ≤ (shortest m e).2 := by
  have hleast := hnormal.least_le
  rw [leastExponent] at hleast
  simp only [shortest]
  split
  · next digits exponent hfind =>
    obtain ⟨n, hn, hgrid⟩ := List.exists_of_findSome?_eq_some hfind
    obtain ⟨rfl, hreads⟩ := readsBack_of_onGrid hgrid
    obtain ⟨hvalue, hle⟩ := dropZeros_spec 17 digits (decimalScale m e - 1 - n)
    have hscale := le_decimalScale m e
    have hn17 := List.mem_range.mp hn
    rw [hvalue]
    exact ⟨(readsBack_iff m e digits _).mp hreads, by omega⟩
  · split_ifs with he
    · refine ⟨?_, (by decide : (-1100 : ℤ) ≤ 0)⟩
      rw [Nat.cast_mul, pow_toNat he, zpow_zero, mul_one]
      exact rounds_self hm
    · refine ⟨?_, by omega⟩
      have hpower : ((5 : ℕ) : ℚ) ^ (-e) * 10 ^ e = 2 ^ e := by
        rw [show (10 : ℚ) = 5 * 2 by norm_num, mul_zpow, ← mul_assoc, Nat.cast_ofNat,
          ← zpow_add₀ (by norm_num), neg_add_cancel, zpow_zero, one_mul]
      rw [Nat.cast_mul, pow_toNat (by omega), mul_assoc, hpower]
      exact rounds_self hm

end Binary64
end Arazzo
