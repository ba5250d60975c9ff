import Arazzo.Number.Exact
import Mathlib.Algebra.Order.Field.Power
import Mathlib.Data.Nat.Log
import Mathlib.Data.Int.Order.Basic
import Mathlib.Data.Rat.Cast.Order
import Mathlib.Order.Compare
import Mathlib.Tactic.Linarith
import Mathlib.Tactic.Positivity
import Mathlib.Tactic.Ring
import Mathlib.Tactic.FieldSimp
import Mathlib.Tactic.NormNum

/-!
# Rounding to the 64-bit format

A finite value is in normal form if its mantissa is below `2 ^ 53` and, except at the least exponent,
not below `2 ^ 52`. Rounding gives a normal form or an infinity, and it gives a normal form back for
every rational between the midpoints to its neighbours. What is above zero by exact value has a mantissa
or is infinite, and a positive integer stays above zero.
-/

namespace Arazzo
namespace Binary64

/-! ## Quotients -/

/-- The rationals that round to a natural number: up to halfway to its neighbours, the ends included if
it is even. -/
structure RoundsTo (x : ℚ) (q : ℕ) : Prop where
  low : 2 * (q : ℚ) - 1 < 2 * x ∨ q % 2 = 0 ∧ 2 * (q : ℚ) - 1 = 2 * x
  high : 2 * x < 2 * q + 1 ∨ q % 2 = 0 ∧ 2 * x = 2 * q + 1

theorem RoundsTo.of_fraction {num den q : ℕ} (hden : 0 < den) (h : RoundsTo (num / den : ℚ) q) :
    ((2 * q - 1) * den < (2 * num : ℤ) ∨ q % 2 = 0 ∧ (2 * q - 1) * den = (2 * num : ℤ)) ∧
      ((2 * num : ℤ) < (2 * q + 1) * den ∨ q % 2 = 0 ∧ (2 * num : ℤ) = (2 * q + 1) * den) := by
  have hpos : (0 : ℚ) < den := by exact_mod_cast hden
  obtain ⟨hlow, hhigh⟩ := h
  rw [← mul_div_assoc, lt_div_iff₀ hpos, eq_div_iff hpos.ne'] at hlow
  rw [← mul_div_assoc, div_lt_iff₀ hpos, div_eq_iff hpos.ne'] at hhigh
  exact ⟨by exact_mod_cast hlow, by exact_mod_cast hhigh⟩

theorem roundedQuotient_eq {num den q : ℕ} (hden : 0 < den) (h : RoundsTo (num / den : ℚ) q) :
    roundedQuotient num den = q := by
  obtain ⟨hlow, hhigh⟩ := h.of_fraction hden
  obtain ⟨k, hk⟩ : ∃ k, num / den = k := ⟨_, rfl⟩
  obtain ⟨r, hr⟩ : ∃ r, num % den = r := ⟨_, rfl⟩
  have hnum : (den * k + r : ℤ) = num := by
    rw [← hk, ← hr]
    exact_mod_cast Nat.div_add_mod num den
  have hrlt : r < den := hr ▸ Nat.mod_lt num hden
  rw [← hnum] at hlow hhigh
  have hle : q ≤ k + 1 := by
    by_contra hgt
    have hmul : ((k : ℤ) + 2) * den ≤ q * den :=
      mul_le_mul_of_nonneg_right (by omega) (Int.natCast_nonneg den)
    rcases hlow with hlow | ⟨-, hlow⟩ <;> linarith
  have hge : k ≤ q := by
    by_contra hlt
    have hmul : ((q : ℤ) + 1) * den ≤ k * den :=
      mul_le_mul_of_nonneg_right (by omega) (Int.natCast_nonneg den)
    rcases hhigh with hhigh | ⟨-, hhigh⟩ <;> linarith
  simp only [roundedQuotient, hk, hr]
  rcases Nat.le_succ_iff.mp hle with hsame | rfl
  · obtain rfl : q = k := Nat.le_antisymm hsame hge
    have hr2 : 2 * r < den ∨ q % 2 = 0 ∧ 2 * r = den := by
      rcases hhigh with hhigh | ⟨heven, hhigh⟩
      · exact .inl (by linarith)
      · exact .inr ⟨heven, by linarith⟩
    split_ifs <;> omega
  · have hr2 : den < 2 * r ∨ (k + 1) % 2 = 0 ∧ 2 * r = den := by
      push_cast at hlow
      rcases hlow with hlow | ⟨heven, hlow⟩
      · exact .inl (by linarith)
      · exact .inr ⟨heven, by linarith⟩
    split_ifs <;> omega

theorem le_roundedQuotient {num den q : ℕ} (hden : 0 < den) (h : (q : ℚ) ≤ num / den) :
    q ≤ roundedQuotient num den := by
  rw [le_div_iff₀ (by exact_mod_cast hden)] at h
  have hq : q ≤ num / den := (Nat.le_div_iff_mul_le hden).mpr (by exact_mod_cast h)
  simp only [roundedQuotient]
  split_ifs <;> omega

theorem roundedQuotient_le {num den q : ℕ} (hden : 0 < den) (h : (num / den : ℚ) ≤ q) :
    roundedQuotient num den ≤ q := by
  rw [div_le_iff₀ (by exact_mod_cast hden)] at h
  have hnum : num ≤ q * den := by exact_mod_cast h
  have hq : num / den ≤ q := Nat.div_le_of_le_mul (by rwa [Nat.mul_comm])
  have hrest := Nat.div_add_mod num den
  -- A quotient that is reached leaves no rest to round up.
  have hstrict : num % den ≠ 0 → num / den < q := by
    intro hne
    refine lt_of_le_of_ne hq fun heq => hne ?_
    rw [heq, Nat.mul_comm] at hrest
    omega
  simp only [roundedQuotient]
  split_ifs <;> omega

/-! ## Mantissas -/

theorem pow_toNat {e : ℤ} (h : 0 ≤ e) (b : ℕ) : ((Nat.pow b e.toNat : ℕ) : ℚ) = (b : ℚ) ^ e := by
  obtain ⟨n, rfl⟩ := Int.eq_ofNat_of_zero_le h
  simp

/-- A fraction at an exponent is again a fraction. -/
theorem exists_mantissaAt {num den : ℕ} (hden : 0 < den) (e : ℤ) :
    ∃ a b : ℕ, 0 < b ∧ (a / b : ℚ) = num / den / 2 ^ e ∧
      mantissaAt num den e = roundedQuotient a b := by
  unfold mantissaAt
  by_cases he : 0 ≤ e
  · refine ⟨num, den * Nat.pow 2 e.toNat, Nat.mul_pos hden (Nat.pow_pos (by decide)), ?_,
      if_pos he⟩
    rw [Nat.cast_mul, pow_toNat he, div_div]
    rfl
  · refine ⟨num * Nat.pow 2 (-e).toNat, den, hden, ?_, if_neg he⟩
    rw [Nat.cast_mul, pow_toNat (by omega), zpow_neg, div_right_comm, div_eq_mul_inv (num : ℚ)]
    rfl

theorem mantissaAt_eq {num den q : ℕ} {e : ℤ} (hden : 0 < den)
    (h : RoundsTo (num / den / 2 ^ e : ℚ) q) : mantissaAt num den e = q := by
  obtain ⟨a, b, hb, hfraction, hmantissa⟩ := exists_mantissaAt hden e
  rw [hmantissa, roundedQuotient_eq hb (hfraction ▸ h)]

theorem overflowsAt_iff {num den : ℕ} (hden : 0 < den) (e : ℤ) :
    overflowsAt num den e = true ↔ (2 * leadingBit : ℚ) * 2 ^ e ≤ num / den := by
  have hpos : (0 : ℚ) < den := by exact_mod_cast hden
  rw [le_div_iff₀ hpos]
  unfold overflowsAt
  split_ifs with he
  · rw [decide_eq_true_iff, ← Nat.cast_le (α := ℚ), Nat.cast_mul, Nat.cast_mul, Nat.cast_mul,
      pow_toNat he, mul_comm (den : ℚ), ← mul_assoc]
    rfl
  · have hscale : (0 : ℚ) < 2 ^ e := by positivity
    rw [decide_eq_true_iff, ← Nat.cast_le (α := ℚ), Nat.cast_mul, Nat.cast_mul, Nat.cast_mul,
      pow_toNat (by omega), Nat.cast_ofNat, zpow_neg, ← div_eq_mul_inv, le_div_iff₀ hscale,
      mul_right_comm]

/-- The exponent at which a positive rational has a mantissa below `2 ^ 53`, and not below `2 ^ 52`
unless the exponent is the least one. -/
structure IsScale (x : ℚ) (e : ℤ) : Prop where
  least_le : leastExponent ≤ e
  lt : x < 2 * leadingBit * 2 ^ e
  le : e = leastExponent ∨ leadingBit * 2 ^ e ≤ x

theorem IsScale.le_of_isScale {x : ℚ} {e e' : ℤ} (h : IsScale x e) (h' : IsScale x e') :
    e' ≤ e := by
  by_contra hlt
  rcases h'.le with heq | hle
  · have := h.least_le
    omega
  · have hpow : (2 : ℚ) ^ (e + 1) ≤ 2 ^ e' := zpow_le_zpow_right₀ (by norm_num) (by omega)
    rw [zpow_add_one₀ (by norm_num)] at hpow
    have hbit : (0 : ℚ) < leadingBit := by norm_num [leadingBit]
    have hbelow := h.lt
    nlinarith

theorem IsScale.unique {x : ℚ} {e e' : ℤ} (h : IsScale x e) (h' : IsScale x e') : e = e' :=
  le_antisymm (h'.le_of_isScale h) (h.le_of_isScale h')

/-- The exponent that rounding chooses. -/
def scaleOf (num den : ℕ) : ℤ :=
  let guess := max leastExponent ((num.log2 : ℤ) - den.log2 - 53)
  if overflowsAt num den guess then guess + 1 else guess

theorem leadingBit_eq : (leadingBit : ℚ) = 2 ^ (52 : ℤ) := by
  norm_num [leadingBit]

/-- The bits of numerator and denominator say how large the fraction is up to a factor of two. -/
theorem fraction_bounds {num den : ℕ} (hnum : 0 < num) (hden : 0 < den) :
    (2 : ℚ) ^ ((num.log2 : ℤ) - den.log2 - 1) < num / den ∧
      (num / den : ℚ) < 2 ^ ((num.log2 : ℤ) - den.log2 + 1) := by
  have hpos : (0 : ℚ) < den := by exact_mod_cast hden
  have hnumLow : (2 : ℚ) ^ (num.log2 : ℤ) ≤ num := by
    exact_mod_cast Nat.log2_self_le hnum.ne'
  have hdenLow : (2 : ℚ) ^ (den.log2 : ℤ) ≤ den := by
    exact_mod_cast Nat.log2_self_le hden.ne'
  have hnumHigh : (num : ℚ) < 2 ^ ((num.log2 : ℤ) + 1) := by
    exact_mod_cast (Nat.lt_log2_self : num < 2 ^ (num.log2 + 1))
  have hdenHigh : (den : ℚ) < 2 ^ ((den.log2 : ℤ) + 1) := by
    exact_mod_cast (Nat.lt_log2_self : den < 2 ^ (den.log2 + 1))
  constructor
  · rw [lt_div_iff₀ hpos]
    calc (2 : ℚ) ^ ((num.log2 : ℤ) - den.log2 - 1) * den
        < 2 ^ ((num.log2 : ℤ) - den.log2 - 1) * 2 ^ ((den.log2 : ℤ) + 1) := by gcongr
      _ = 2 ^ (num.log2 : ℤ) := by rw [← zpow_add₀ (by norm_num)]; congr 1; ring
      _ ≤ num := hnumLow
  · rw [div_lt_iff₀ hpos]
    calc (num : ℚ) < 2 ^ ((num.log2 : ℤ) + 1) := hnumHigh
      _ = 2 ^ ((num.log2 : ℤ) - den.log2 + 1) * 2 ^ (den.log2 : ℤ) := by
          rw [← zpow_add₀ (by norm_num)]; congr 1; ring
      _ ≤ 2 ^ ((num.log2 : ℤ) - den.log2 + 1) * den := by gcongr

theorem isScale_scaleOf {num den : ℕ} (hnum : 0 < num) (hden : 0 < den) :
    IsScale (num / den) (scaleOf num den) := by
  obtain ⟨hlow, hhigh⟩ := fraction_bounds hnum hden
  obtain ⟨k, hk⟩ : ∃ k : ℤ, (num.log2 : ℤ) - den.log2 = k := ⟨_, rfl⟩
  obtain ⟨guess, hguess⟩ : ∃ guess, max leastExponent (k - 53) = guess := ⟨_, rfl⟩
  rw [hk] at hlow hhigh
  have htwo : (2 : ℚ) ≠ 0 := by norm_num
  simp only [scaleOf, hk, hguess]
  split_ifs with hover
  · rw [overflowsAt_iff hden] at hover
    refine ⟨by omega, hhigh.trans_le ?_, .inr ?_⟩
    · rw [leadingBit_eq, mul_assoc, ← zpow_add₀ htwo, ← zpow_one_add₀ htwo]
      exact zpow_le_zpow_right₀ (by norm_num) (by omega)
    · rw [zpow_add_one₀ htwo]
      linarith
  · rw [overflowsAt_iff hden, not_le] at hover
    refine ⟨by omega, hover, ?_⟩
    by_cases hleast : guess = leastExponent
    · exact .inl hleast
    · refine .inr (le_trans (le_of_eq ?_) hlow.le)
      rw [leadingBit_eq, ← zpow_add₀ htwo]
      congr 1
      omega

/-- The value with a mantissa of up to `2 ^ 53`. -/
def ofMantissa (negative : Bool) (m : ℕ) (e : ℤ) : Binary64 :=
  let (m, e) := if m = 2 * leadingBit then (leadingBit, e + 1) else (m, e)
  if e > greatestExponent then .infinity negative else .finite negative m e

theorem ofRatio_eq (negative : Bool) {num den : ℕ} (hnum : 0 < num) (hden : 0 < den) :
    ofRatio negative num den =
      ofMantissa negative (mantissaAt num den (scaleOf num den)) (scaleOf num den) := by
  rw [ofRatio, if_neg (by omega)]
  rfl

/-! ## Normal forms -/

/-- The mantissas and exponents of finite values in normal form. -/
structure IsNormal (m : ℕ) (e : ℤ) : Prop where
  least_le : leastExponent ≤ e
  le_greatest : e ≤ greatestExponent
  lt : m < 2 * leadingBit
  le : e = leastExponent ∨ leadingBit ≤ m

/-- The values that rounding gives. -/
inductive IsRounded : Binary64 → Prop
  | infinity (negative : Bool) : IsRounded (.infinity negative)
  | finite (negative : Bool) {m : ℕ} {e : ℤ} : IsNormal m e → IsRounded (.finite negative m e)

theorem isRounded_zero (negative : Bool) : IsRounded (zero negative) :=
  .finite negative ⟨le_refl _, by decide, by decide, .inl rfl⟩

theorem isRounded_ofMantissa (negative : Bool) {m : ℕ} {e : ℤ} (hleast : leastExponent ≤ e)
    (hm : m ≤ 2 * leadingBit) (hbit : e = leastExponent ∨ leadingBit ≤ m) :
    IsRounded (ofMantissa negative m e) := by
  by_cases hcarry : m = 2 * leadingBit
  · simp only [ofMantissa, if_pos hcarry]
    split_ifs with hgreat
    · exact .infinity negative
    · exact .finite negative ⟨by omega, by omega, by decide, .inr le_rfl⟩
  · simp only [ofMantissa, if_neg hcarry]
    split_ifs with hgreat
    · exact .infinity negative
    · exact .finite negative ⟨hleast, by omega, by omega, hbit⟩

theorem isRounded_ofRatio (negative : Bool) (num den : ℕ) :
    IsRounded (ofRatio negative num den) := by
  by_cases hzero : num = 0 ∨ den = 0
  · rw [ofRatio, if_pos hzero]
    exact isRounded_zero negative
  · have hden : 0 < den := by omega
    have hscale := isScale_scaleOf (by omega : 0 < num) hden
    obtain ⟨a, b, hb, hfraction, hmantissa⟩ := exists_mantissaAt hden (scaleOf num den)
    have hpow : (0 : ℚ) < 2 ^ scaleOf num den := by positivity
    rw [ofRatio_eq negative (by omega) hden, hmantissa]
    refine isRounded_ofMantissa negative hscale.least_le (roundedQuotient_le hb ?_) ?_
    · rw [hfraction, div_le_iff₀ hpow]
      exact_mod_cast hscale.lt.le
    · refine hscale.le.imp_right fun hle => le_roundedQuotient hb ?_
      rwa [hfraction, le_div_iff₀ hpow]

theorem isRounded_ofDecimal (negative : Bool) (digits : ℕ) (exponent : ℤ) :
    IsRounded (ofDecimal negative digits exponent) := by
  simp only [ofDecimal]
  split_ifs
  · exact isRounded_zero negative
  · exact .infinity negative
  · exact isRounded_zero negative
  · exact isRounded_ofRatio negative _ _
  · exact isRounded_ofRatio negative _ _

/-! ## Reading back -/

/-- Four times the mantissa at the lower end of what rounds to a value. Below a power of two the
neighbour is half as far away. -/
def lowEnd (m : ℕ) (e : ℤ) : ℕ :=
  if m = leadingBit ∧ leastExponent < e then 4 * m - 1 else 4 * m - 2

/-- The rationals that round to `m * 2 ^ e`, the ends included if the mantissa is even. -/
structure Rounds (m : ℕ) (e : ℤ) (x : ℚ) : Prop where
  low : lowEnd m e * 2 ^ (e - 2) < x ∨ m % 2 = 0 ∧ lowEnd m e * 2 ^ (e - 2) = x
  high : x < (4 * m + 2 : ℕ) * 2 ^ (e - 2) ∨ m % 2 = 0 ∧ x = (4 * m + 2 : ℕ) * 2 ^ (e - 2)

variable {m : ℕ} {e : ℤ} {x : ℚ}

theorem ofMantissa_of_isNormal (negative : Bool) (h : IsNormal m e) :
    ofMantissa negative m e = .finite negative m e := by
  have hlt := h.lt
  have hle := h.le_greatest
  simp only [ofMantissa, if_neg hlt.ne, if_neg (not_lt.mpr hle)]

theorem ofMantissa_carry (negative : Bool) (h : e ≤ greatestExponent) :
    ofMantissa negative (2 * leadingBit) (e - 1) = .finite negative leadingBit e := by
  simp only [ofMantissa, if_pos, sub_add_cancel, if_neg (not_lt.mpr h)]

theorem le_lowEnd (m : ℕ) (e : ℤ) : 4 * m - 2 ≤ lowEnd m e := by
  unfold lowEnd
  split_ifs <;> omega

theorem four_mul_zpow (e : ℤ) : (4 : ℚ) * 2 ^ (e - 2) = 2 ^ e := by
  rw [show (4 : ℚ) = 2 ^ (2 : ℤ) by norm_num, ← zpow_add₀ (by norm_num)]
  congr 1
  ring

theorem two_mul_zpow (e : ℤ) : (2 : ℚ) * 2 ^ (e - 2) = 2 ^ (e - 1) := by
  rw [← zpow_one_add₀ (by norm_num)]
  congr 1
  ring

theorem cast_le_lowEnd (hm : m ≠ 0) (e : ℤ) : (4 * m - 2 : ℚ) ≤ lowEnd m e := by
  have hle : ((4 * m - 2 : ℕ) : ℚ) ≤ lowEnd m e := by exact_mod_cast le_lowEnd m e
  rwa [Nat.cast_sub (by omega), Nat.cast_mul, Nat.cast_ofNat, Nat.cast_ofNat] at hle

/-- What rounds to `m * 2 ^ e`, in quarters of the last place. -/
structure InReach (m : ℕ) (e : ℤ) (y : ℚ) : Prop where
  low : lowEnd m e < y ∨ m % 2 = 0 ∧ lowEnd m e = y
  high : y < 4 * m + 2 ∨ m % 2 = 0 ∧ y = 4 * m + 2

theorem Rounds.exists_inReach (h : Rounds m e x) : ∃ y, x = y * 2 ^ (e - 2) ∧ InReach m e y := by
  have hpos : (0 : ℚ) < 2 ^ (e - 2) := by positivity
  obtain ⟨y, rfl⟩ : ∃ y, x = y * 2 ^ (e - 2) := ⟨x / 2 ^ (e - 2), by field_simp⟩
  obtain ⟨hlow, hhigh⟩ := h
  rw [mul_lt_mul_iff_left₀ hpos, mul_left_inj' hpos.ne'] at hlow hhigh
  push_cast at hhigh
  exact ⟨y, rfl, hlow, hhigh⟩

namespace InReach

variable {y : ℚ} (h : InReach m e y)
include h

theorem ge (hm : m ≠ 0) : 4 * (m : ℚ) - 2 ≤ y := by
  have hend := cast_le_lowEnd hm e
  rcases h.low with hlow | ⟨-, hlow⟩ <;> linarith

theorem le : y ≤ 4 * m + 2 := by
  rcases h.high with hhigh | ⟨-, hhigh⟩ <;> linarith

theorem pos (hm : m ≠ 0) : 0 < y := by
  have hmpos : (1 : ℚ) ≤ m := by exact_mod_cast Nat.one_le_iff_ne_zero.mpr hm
  linarith [h.ge hm]

/-- At its own exponent a value is what its mantissa is rounded to. -/
theorem roundsTo (hm : m ≠ 0) : RoundsTo (y / 4) m := by
  have hend := cast_le_lowEnd hm e
  refine ⟨?_, ?_⟩
  · rcases h.low with hlow | ⟨heven, hlow⟩
    · exact .inl (by linarith)
    · rcases hend.lt_or_eq with hlt | heq
      · exact .inl (by linarith)
      · exact .inr ⟨heven, by linarith⟩
  · rcases h.high with hhigh | ⟨heven, hhigh⟩
    · exact .inl (by linarith)
    · exact .inr ⟨heven, by linarith⟩

theorem isScale (hnormal : IsNormal m e) (hle : e = leastExponent ∨ 4 * (leadingBit : ℚ) ≤ y) :
    IsScale (y * 2 ^ (e - 2)) e := by
  have hunit : (0 : ℚ) < 2 ^ (e - 2) := by positivity
  have hmlt : (m : ℚ) + 1 ≤ 2 * leadingBit := by exact_mod_cast hnormal.lt
  have hhigh := h.le
  refine ⟨hnormal.least_le, ?_, hle.imp_right fun hle => ?_⟩
  · rw [← four_mul_zpow e, ← mul_assoc]
    exact mul_lt_mul_of_pos_right (by linarith) hunit
  · rw [← four_mul_zpow e, ← mul_assoc]
    exact mul_le_mul_of_nonneg_right (by linarith) hunit.le

/-- Only the mantissa of a power of two has something below that power in reach. -/
theorem eq_leadingBit (hm : m ≠ 0) (hnormal : IsNormal m e) (hne : e ≠ leastExponent)
    (hbelow : y < 4 * (leadingBit : ℚ)) : m = leadingBit := by
  refine le_antisymm ?_ (hnormal.le.resolve_left hne)
  by_contra hgt
  have hcast : (leadingBit : ℚ) + 1 ≤ m := by exact_mod_cast not_le.mp hgt
  linarith [h.ge hm]

end InReach

section
variable {y : ℚ} (h : InReach leadingBit e y) (hlt : leastExponent < e)
include h hlt

theorem InReach.lowEnd_le : 4 * (leadingBit : ℚ) - 1 ≤ y := by
  have hend : (lowEnd leadingBit e : ℚ) = 4 * leadingBit - 1 := by
    rw [lowEnd, if_pos ⟨rfl, hlt⟩]
    norm_num [leadingBit]
  rcases h.low with hlow | ⟨-, hlow⟩ <;> linarith

/-- Below a power of two the exponent is one less. -/
theorem InReach.isScale_below (hbelow : y < 4 * (leadingBit : ℚ)) :
    IsScale (y * 2 ^ (e - 2)) (e - 1) := by
  have hunit : (0 : ℚ) < 2 ^ (e - 2) := by positivity
  have hbit : (1 : ℚ) ≤ leadingBit := by norm_num [leadingBit]
  have hlow := h.lowEnd_le hlt
  refine ⟨by omega, ?_, .inr ?_⟩
  · rw [← two_mul_zpow e, ← mul_assoc]
    exact mul_lt_mul_of_pos_right (by linarith) hunit
  · rw [← two_mul_zpow e, ← mul_assoc]
    exact mul_le_mul_of_nonneg_right (by linarith) hunit.le

/-- There the mantissa is rounded up to the power. -/
theorem InReach.roundsTo_below (hbelow : y < 4 * (leadingBit : ℚ)) :
    RoundsTo (y / 2) (2 * leadingBit) := by
  have hlow := h.lowEnd_le hlt
  refine ⟨?_, .inl ?_⟩
  · rcases hlow.lt_or_eq with hlow | hlow
    · refine .inl ?_
      push_cast
      linarith
    · refine .inr ⟨rfl, ?_⟩
      push_cast
      linarith
  · push_cast
    linarith

end

theorem ofRatio_of_isScale (negative : Bool) {num den q : ℕ} (hnum : 0 < num) (hden : 0 < den)
    (hscale : IsScale (num / den) e) (hround : RoundsTo (num / den / 2 ^ e : ℚ) q) :
    ofRatio negative num den = ofMantissa negative q e := by
  rw [ofRatio_eq negative hnum hden, (isScale_scaleOf hnum hden).unique hscale,
    mantissaAt_eq hden hround]

/-- What rounds to a value is rounded to it. -/
theorem ofRatio_of_rounds (negative : Bool) {num den : ℕ} (hden : 0 < den) (hnormal : IsNormal m e)
    (hm : m ≠ 0) (h : Rounds m e (num / den)) :
    ofRatio negative num den = .finite negative m e := by
  obtain ⟨y, hy, hreach⟩ := h.exists_inReach
  have hunit : (2 : ℚ) ^ (e - 2) ≠ 0 := by positivity
  have hnum : 0 < num := by
    refine Nat.pos_of_ne_zero fun hzero => ?_
    rw [hzero, Nat.cast_zero, zero_div] at hy
    exact mul_ne_zero (hreach.pos hm).ne' hunit hy.symm
  by_cases hscale : e = leastExponent ∨ 4 * (leadingBit : ℚ) ≤ y
  · have hround : RoundsTo (num / den / 2 ^ e : ℚ) m := by
      rw [hy, ← four_mul_zpow e, mul_div_mul_right _ _ hunit]
      exact hreach.roundsTo hm
    rw [ofRatio_of_isScale negative hnum hden (hy ▸ hreach.isScale hnormal hscale) hround,
      ofMantissa_of_isNormal negative hnormal]
  · -- Just below a power of two the mantissa is rounded up at the exponent below.
    rw [not_or, not_le] at hscale
    obtain ⟨hne, hbelow⟩ := hscale
    obtain rfl := hreach.eq_leadingBit hm hnormal hne hbelow
    have hlt : leastExponent < e := lt_of_le_of_ne hnormal.least_le (Ne.symm hne)
    have hround : RoundsTo (num / den / 2 ^ (e - 1) : ℚ) (2 * leadingBit) := by
      rw [hy, ← two_mul_zpow e, mul_div_mul_right _ _ hunit]
      exact hreach.roundsTo_below hlt hbelow
    rw [ofRatio_of_isScale negative hnum hden (hy ▸ hreach.isScale_below hlt hbelow) hround,
      ofMantissa_carry negative hnormal.le_greatest]

/-! ## Decimals -/

theorem ten_pow_le_two_pow (n : ℕ) : (10 : ℚ) ^ (3 * (n / 10)) ≤ 2 ^ n := by
  calc (10 : ℚ) ^ (3 * (n / 10)) = (10 ^ 3) ^ (n / 10) := pow_mul _ _ _
    _ ≤ (2 ^ 10) ^ (n / 10) := by gcongr; norm_num
    _ = 2 ^ (10 * (n / 10)) := (pow_mul _ _ _).symm
    _ ≤ 2 ^ n := pow_le_pow_right₀ (by norm_num) (Nat.mul_div_le n 10)

theorem two_pow_le_ten_pow (n : ℕ) : (2 : ℚ) ^ n ≤ 10 ^ (10 * (n / 33 + 1)) := by
  calc (2 : ℚ) ^ n ≤ 2 ^ (33 * (n / 33 + 1)) := pow_le_pow_right₀ (by norm_num) (by omega)
    _ = (2 ^ 33) ^ (n / 33 + 1) := pow_mul _ _ _
    _ ≤ (10 ^ 10) ^ (n / 33 + 1) := by gcongr; norm_num
    _ = 10 ^ (10 * (n / 33 + 1)) := (pow_mul _ _ _).symm

theorem ten_pow_lt_least : (10 : ℚ) ^ (-324 : ℤ) < 2 * 2 ^ (-1076 : ℤ) := by
  have hpow : ((2 ^ 1075 : ℕ) : ℚ) < (10 ^ 324 : ℕ) := Nat.cast_lt.mpr (by decide +kernel)
  rw [Nat.cast_pow, Nat.cast_pow] at hpow
  rw [← zpow_one_add₀ (by norm_num), zpow_neg, show (1 : ℤ) + -1076 = -1075 by norm_num, zpow_neg,
    inv_lt_inv₀ (by positivity) (by positivity)]
  exact hpow

theorem greatest_lt_ten_pow : (2 : ℚ) ^ (55 : ℤ) * 2 ^ (969 : ℤ) < 10 ^ (309 : ℤ) := by
  have hpow : ((2 ^ 1024 : ℕ) : ℚ) < (10 ^ 309 : ℕ) := Nat.cast_lt.mpr (by decide +kernel)
  rw [Nat.cast_pow, Nat.cast_pow] at hpow
  rw [← zpow_add₀ (by norm_num)]
  exact hpow

/-- What rounds to a finite value other than zero is neither too small nor too large. -/
theorem Rounds.bounds (hnormal : IsNormal m e) (hm : m ≠ 0) (h : Rounds m e x) :
    (10 : ℚ) ^ (-324 : ℤ) < x ∧ x < 10 ^ (309 : ℤ) := by
  obtain ⟨y, rfl, hreach⟩ := h.exists_inReach
  have hmpos : (1 : ℚ) ≤ m := by exact_mod_cast Nat.one_le_iff_ne_zero.mpr hm
  have hmlt : (m : ℚ) + 1 ≤ 2 * leadingBit := by exact_mod_cast hnormal.lt
  have hleast := hnormal.least_le
  have hgreatest := hnormal.le_greatest
  simp only [leastExponent, greatestExponent] at hleast hgreatest
  have hylow : 2 ≤ y := by linarith [hreach.ge hm]
  have hyhigh : y ≤ 2 ^ (55 : ℤ) := by
    norm_num [leadingBit] at hmlt ⊢
    linarith [hreach.le]
  have hunitLow : (2 : ℚ) ^ (-1076 : ℤ) ≤ 2 ^ (e - 2) :=
    zpow_le_zpow_right₀ (by norm_num) (by omega)
  have hunitHigh : (2 : ℚ) ^ (e - 2) ≤ 2 ^ (969 : ℤ) :=
    zpow_le_zpow_right₀ (by norm_num) (by omega)
  constructor
  · refine ten_pow_lt_least.trans_le ?_
    gcongr
  · refine lt_of_le_of_lt ?_ greatest_lt_ten_pow
    gcongr

/-- The estimate of a decimal is right within what it is used for, if there are not too many digits. -/
theorem magnitude_bounds {digits : ℕ} {exponent : ℤ} (hdigits : digits ≠ 0)
    (hexponent : -1100 ≤ exponent) (hlow : (10 : ℚ) ^ (-324 : ℤ) < digits * 10 ^ exponent)
    (hhigh : (digits * 10 ^ exponent : ℚ) < 10 ^ (309 : ℤ)) :
    -400 ≤ (Nat.log2 digits : ℤ) * 30103 / 100000 + exponent ∧
      (Nat.log2 digits : ℤ) * 30103 / 100000 + exponent ≤ 400 := by
  have hten : (0 : ℚ) < 10 ^ exponent := by positivity
  have hbelow : (2 : ℚ) ^ digits.log2 ≤ digits := by exact_mod_cast Nat.log2_self_le hdigits
  have habove : (digits : ℚ) < 2 ^ (digits.log2 + 1) := by
    exact_mod_cast (Nat.lt_log2_self : digits < 2 ^ (digits.log2 + 1))
  obtain ⟨bits, hbits⟩ : ∃ bits, digits.log2 = bits := ⟨_, rfl⟩
  rw [hbits] at hbelow habove ⊢
  have hlong : (3 * (bits / 10 : ℕ) : ℤ) + exponent < 309 := by
    rw [← zpow_lt_zpow_iff_right₀ (by norm_num : (1 : ℚ) < 10)]
    refine lt_of_le_of_lt ?_ hhigh
    rw [zpow_add₀ (by norm_num)]
    refine mul_le_mul_of_nonneg_right (le_trans ?_ hbelow) hten.le
    exact_mod_cast ten_pow_le_two_pow bits
  have hshort : -324 < (10 * ((bits + 1) / 33 + 1 : ℕ) : ℤ) + exponent := by
    rw [← zpow_lt_zpow_iff_right₀ (by norm_num : (1 : ℚ) < 10)]
    refine lt_of_lt_of_le hlow ?_
    rw [zpow_add₀ (by norm_num)]
    refine mul_le_mul_of_nonneg_right (le_trans habove.le ?_) hten.le
    exact_mod_cast two_pow_le_ten_pow (bits + 1)
  constructor
  · omega
  · omega

theorem ofDecimal_of_rounds (negative : Bool) {digits : ℕ} {exponent : ℤ}
    (hexponent : -1100 ≤ exponent) (hnormal : IsNormal m e) (hm : m ≠ 0)
    (h : Rounds m e (digits * 10 ^ exponent)) :
    ofDecimal negative digits exponent = .finite negative m e := by
  obtain ⟨hlow, hhigh⟩ := h.bounds hnormal hm
  have hdigits : digits ≠ 0 := by
    rintro rfl
    rw [Nat.cast_zero, zero_mul] at hlow
    have : (0 : ℚ) < 10 ^ (-324 : ℤ) := by positivity
    linarith
  obtain ⟨hsmall, hlarge⟩ := magnitude_bounds hdigits hexponent hlow hhigh
  simp only [ofDecimal, if_neg hdigits, if_neg (not_lt.mpr hsmall), if_neg (not_lt.mpr hlarge)]
  split_ifs with hwhole
  · refine ofRatio_of_rounds negative Nat.one_pos hnormal hm ?_
    rwa [Nat.cast_one, div_one, Nat.cast_mul, pow_toNat hwhole]
  · refine ofRatio_of_rounds negative (Nat.pow_pos (by decide)) hnormal hm ?_
    rwa [pow_toNat (by omega), Nat.cast_ofNat, zpow_neg, div_inv_eq_mul]

/-! ## Signs -/

/-- Whether a number is above zero. -/
def IsPositive (x : Binary64) : Prop := Exact.order? (.ofBinary x) (.ofInt 0) = some .gt

instance (x : Binary64) : Decidable x.IsPositive :=
  inferInstanceAs (Decidable (_ = _))

theorem compareScaled_zero (a i : Int) : compareScaled a i 0 0 = compare a 0 := by
  have hpow : (0 : Int) < Nat.pow 2 (i - min i 0).toNat := by
    exact_mod_cast Nat.pow_pos (n := (i - min i 0).toNat) Nat.zero_lt_two
  simp only [compareScaled, Int.zero_mul]
  rcases lt_trichotomy a 0 with ha | rfl | ha
  · rw [compare_lt_iff_lt.mpr ha, compare_lt_iff_lt.mpr (Int.mul_neg_of_neg_of_pos ha hpow)]
  · rw [Int.zero_mul]
  · rw [compare_gt_iff_gt.mpr ha, compare_gt_iff_gt.mpr (Int.mul_pos ha hpow)]

theorem order?_finite (negative : Bool) (m : Nat) (e : Int) :
    Exact.order? (.ofBinary (.finite negative m e)) (.ofInt 0) =
      some (compare (if negative then -(m : Int) else m) 0) := by
  rw [← compareScaled_zero _ e]
  rfl

theorem isPositive_finite (negative : Bool) (m : Nat) (e : Int) :
    (finite negative m e).IsPositive ↔ negative = false ∧ m ≠ 0 := by
  rw [IsPositive, order?_finite, Option.some.injEq, compare_gt_iff_gt]
  cases negative with
  | true => simp
  | false => simp [Nat.pos_iff_ne_zero]

theorem isPositive_ofMantissa {m : ℕ} (h : m ≠ 0) (e : ℤ) : (ofMantissa false m e).IsPositive := by
  unfold ofMantissa
  dsimp only
  split_ifs with hcarry hgreat hgreat
  · rfl
  · exact (isPositive_finite _ _ _).mpr ⟨rfl, show leadingBit ≠ 0 by decide⟩
  · rfl
  · exact (isPositive_finite _ _ _).mpr ⟨rfl, h⟩

/-- A fraction of at least one does not round to zero. -/
theorem isPositive_ofRatio {num den : ℕ} (hden : 0 < den) (h : (1 : ℚ) ≤ num / den) :
    (ofRatio false num den).IsPositive := by
  have hnum : 0 < num := by
    rw [Nat.pos_iff_ne_zero]
    rintro rfl
    norm_num at h
  have hscale := isScale_scaleOf hnum hden
  have hpow : (0 : ℚ) < 2 ^ scaleOf num den := by positivity
  obtain ⟨a, b, hb, hfraction, hmantissa⟩ := exists_mantissaAt hden (scaleOf num den)
  rw [ofRatio_eq false hnum hden, hmantissa]
  refine isPositive_ofMantissa (Nat.one_le_iff_ne_zero.mp (le_roundedQuotient hb ?_)) _
  rw [hfraction, Nat.cast_one, le_div_iff₀ hpow, one_mul]
  rcases hscale.le with heq | hle
  · rw [heq]
    exact (zpow_le_one_of_nonpos₀ one_le_two (by decide)).trans h
  · have hbit : (1 : ℚ) ≤ leadingBit := by norm_num [leadingBit]
    exact (le_mul_of_one_le_left hpow.le hbit).trans hle

/-- The nearest value to a positive integer is positive. -/
theorem isPositive_ofInt {i : ℤ} (h : 0 < i) : (ofInt i).IsPositive := by
  have hone : (1 : ℚ) ≤ (i.natAbs : ℕ) / (1 : ℕ) := by
    rw [Nat.cast_one, div_one]
    exact_mod_cast Int.natAbs_pos.mpr h.ne'
  rw [ofInt, decide_eq_false (by omega)]
  exact isPositive_ofRatio one_pos hone

end Binary64
end Arazzo
