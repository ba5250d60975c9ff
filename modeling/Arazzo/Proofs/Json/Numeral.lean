import Arazzo.Json.Reader
import Arazzo.Json.Writer
import Arazzo.Proofs.Number.Shortest
import Mathlib.Data.List.TakeWhile

/-!
# Numerals read back

The digits of a number read as the number, and a numeral ends where no digit, point or exponent
follows. So integers are read back, and floating-point values in normal form: the layouts of a decimal
say the same digits and the same exponent, or the digits with zeros behind them and a lower exponent.
-/

namespace Arazzo
namespace Json

open Numeral

/-! ## Digits -/

theorem valueOf_foldl (base init : ℕ) (ds : List ℕ) :
    ds.foldl (fun n d => n * base + d) init = init * base ^ ds.length + valueOf base ds := by
  unfold valueOf
  induction ds generalizing init with
  | nil => simp
  | cons d ds ih =>
    rw [List.foldl_cons, ih, List.foldl_cons, ih (0 * base + d), List.length_cons, pow_succ]
    ring

theorem valueOf_append (base : ℕ) (ds es : List ℕ) :
    valueOf base (ds ++ es) = valueOf base ds * base ^ es.length + valueOf base es := by
  rw [valueOf, List.foldl_append, valueOf_foldl]
  rfl

/-- The values of ASCII digits. -/
def digitValues (ds : List Char) : List ℕ := ds.map fun c => c.toNat - '0'.toNat

theorem digitValues_append (ds es : List Char) :
    digitValues (ds ++ es) = digitValues ds ++ digitValues es :=
  List.map_append

theorem valueOf_toDigits (n : ℕ) : valueOf 10 (digitValues (Nat.toDigits 10 n)) = n := by
  have hvalue : Nat.ofDigitChars 10 (Nat.toDigits 10 n) 0 = n := Nat.ofDigitChars_ten_toDigits
  rw [Nat.ofDigitChars_eq_foldl] at hvalue
  rw [valueOf, digitValues, List.foldl_map]
  simpa only [Nat.mul_comm] using hvalue

theorem valueOf_zeros (k : ℕ) : valueOf 10 (digitValues (Binary64.zeros k)) = 0 := by
  induction k with
  | zero => rfl
  | succ k ih =>
    rw [Binary64.zeros, List.replicate_succ', digitValues_append, valueOf_append,
      ← Binary64.zeros, ih]
    rfl

/-- Only zero starts with a zero. -/
theorem head?_toDigits {n : ℕ} (h : n ≠ 0) : (Nat.toDigits 10 n).head? ≠ some '0' := by
  induction n using Nat.strongRecOn with
  | ind n ih =>
    rw [Nat.toDigits_eq_if (by decide)]
    split_ifs with hlt
    · simpa using h
    · rw [List.head?_append_of_ne_nil _ Nat.toDigits_ne_nil]
      exact ih (n / 10) (Nat.div_lt_self (by omega) (by decide)) (by omega)

/-- A text of digits only. -/
def AllDigits (ds : List Char) : Prop := ∀ c ∈ ds, c.isDigit = true

theorem allDigits_toDigits (n : ℕ) : AllDigits (Nat.toDigits 10 n) :=
  fun _ hc => Nat.isDigit_of_mem_toDigits (by decide) (by decide) hc

theorem allDigits_zeros (k : ℕ) : AllDigits (Binary64.zeros k) := by
  intro c hc
  rw [List.eq_of_mem_replicate hc]
  rfl

theorem AllDigits.append {ds es : List Char} (hds : AllDigits ds) (hes : AllDigits es) :
    AllDigits (ds ++ es) := by
  intro c hc
  rcases List.mem_append.mp hc with hmem | hmem
  · exact hds c hmem
  · exact hes c hmem

theorem AllDigits.of_subset {ds es : List Char} (hds : AllDigits ds) (h : es ⊆ ds) :
    AllDigits es :=
  fun c hc => hds c (h hc)

/-! ## Parts of a numeral -/

variable {ds rest : List Char}

/-- What stands behind digits and is none. -/
def EndsDigits (rest : List Char) : Prop := ∀ c ∈ rest.head?, c.isDigit = false

theorem takeDigits_append (hds : AllDigits ds) (hrest : EndsDigits rest) :
    takeDigits (ds ++ rest) = (digitValues ds, rest) := by
  have hnone : rest.takeWhile Char.isDigit = [] ∧ rest.dropWhile Char.isDigit = rest := by
    cases rest with
    | nil => exact ⟨rfl, rfl⟩
    | cons c rest => simp [hrest c rfl]
  rw [takeDigits, List.takeWhile_append_of_pos hds, List.dropWhile_append_of_pos hds, hnone.1,
    hnone.2, List.append_nil]
  rfl

theorem digitValues_ne_nil (h : ds ≠ []) : digitValues ds ≠ [] := by
  simpa [digitValues] using h

/-- The whole part of a numeral has no needless zero in front. -/
theorem readIntegerPart_append (hds : AllDigits ds) (hne : ds ≠ []) (hzero : ds.head? ≠ some '0')
    (hrest : EndsDigits rest) : readIntegerPart (ds ++ rest) = some (digitValues ds, rest) := by
  unfold readIntegerPart
  split
  · next tail heq =>
    obtain ⟨c, es, rfl⟩ := List.exists_cons_of_ne_nil hne
    exact absurd (congrArg some (List.cons.inj heq).1) hzero
  · rw [takeDigits_append hds hrest]
    obtain ⟨d, es, hvalues⟩ := List.exists_cons_of_ne_nil (digitValues_ne_nil hne)
    rw [hvalues]

theorem readFraction_append (hds : AllDigits ds) (hne : ds ≠ []) (hrest : EndsDigits rest) :
    readFraction ('.' :: (ds ++ rest)) = (some (digitValues ds), rest) := by
  obtain ⟨d, es, hvalues⟩ := List.exists_cons_of_ne_nil (digitValues_ne_nil hne)
  simp only [readFraction, takeDigits_append hds hrest, hvalues]

theorem readFraction_of_ne (h : ∀ c ∈ rest.head?, c ≠ '.') : readFraction rest = (none, rest) := by
  unfold readFraction
  split
  · exact absurd rfl (h '.' rfl)
  · rfl

theorem readExponent_append (negative : Bool) (hds : AllDigits ds) (hne : ds ≠ [])
    (hrest : EndsDigits rest) :
    readExponent ('e' :: (if negative then '-' else '+') :: (ds ++ rest)) =
      (some (signed negative (valueOf 10 (digitValues ds))), rest) := by
  obtain ⟨d, es, hvalues⟩ := List.exists_cons_of_ne_nil (digitValues_ne_nil hne)
  cases negative <;> simp [readExponent, sign, takeDigits_append hds hrest, hvalues]

theorem readExponent_of_ne (h : ∀ c ∈ rest.head?, c ≠ 'e' ∧ c ≠ 'E') :
    readExponent rest = (none, rest) := by
  cases rest with
  | nil => rfl
  | cons c rest => simp [readExponent, h c rfl]

/-- What ends a numeral of any form. -/
def EndsNumeral (rest : List Char) : Prop :=
  ∀ c ∈ rest.head?, c.isDigit = false ∧ c ≠ '.' ∧ c ≠ 'e' ∧ c ≠ 'E'

namespace EndsNumeral

theorem endsDigits (h : EndsNumeral rest) : EndsDigits rest := fun c hc => (h c hc).1

theorem readFraction (h : EndsNumeral rest) : readFraction rest = (none, rest) :=
  readFraction_of_ne fun c hc => (h c hc).2.1

theorem readExponent (h : EndsNumeral rest) : readExponent rest = (none, rest) :=
  readExponent_of_ne fun c hc => (h c hc).2.2

end EndsNumeral

/-! ## Numerals -/

variable {fraction : List Char} (negative : Bool)

theorem readMagnitude_toDigits {n : ℕ} (hlength : (Nat.toDigits 10 n).length ≤ digitLimit)
    (hrest : EndsNumeral rest) :
    readMagnitude negative (Nat.toDigits 10 n ++ rest) = some (.int (signed negative n), rest) := by
  have hwhole : readIntegerPart (Nat.toDigits 10 n ++ rest) =
      some (digitValues (Nat.toDigits 10 n), rest) := by
    by_cases hn : n = 0
    · rw [hn]
      rfl
    · exact readIntegerPart_append (allDigits_toDigits n) Nat.toDigits_ne_nil (head?_toDigits hn)
        hrest.endsDigits
  have hshort : ¬ (digitValues (Nat.toDigits 10 n)).length > digitLimit := by
    simpa [digitValues] using hlength
  simp [readMagnitude, hwhole, hrest.readFraction, hrest.readExponent, hshort, valueOf_toDigits]

/-- Digits around a point. -/
theorem readMagnitude_point {whole : List ℕ} {cs : List Char}
    (hwhole : readIntegerPart (cs ++ '.' :: (fraction ++ rest)) =
      some (whole, '.' :: (fraction ++ rest)))
    (hfraction : AllDigits fraction) (hne : fraction ≠ []) (hrest : EndsNumeral rest) :
    readMagnitude negative (cs ++ '.' :: (fraction ++ rest)) =
      some (.float (decimalValue negative (whole ++ digitValues fraction)
        (-(fraction.length : ℤ))), rest) := by
  simp [readMagnitude, hwhole, readFraction_append hfraction hne hrest.endsDigits,
    hrest.readExponent, digitValues]

theorem signed_natAbs (e : ℤ) : signed (e < 0) e.natAbs = e := by
  unfold signed
  split_ifs with h
  · rw [decide_eq_true_iff] at h
    omega
  · rw [decide_eq_true_iff] at h
    omega

theorem readExponent_exponentText (e : ℤ) (hrest : EndsDigits rest) :
    readExponent ('e' :: (Binary64.exponentText e ++ rest)) = (some e, rest) := by
  have hdigits := (allDigits_zeros (2 - (Nat.toDigits 10 e.natAbs).length)).append
    (allDigits_toDigits e.natAbs)
  have hne : Binary64.zeros (2 - (Nat.toDigits 10 e.natAbs).length) ++
      Nat.toDigits 10 e.natAbs ≠ [] := by simp [Nat.toDigits_ne_nil]
  have hread := readExponent_append (e < 0) hdigits hne hrest
  rw [digitValues_append, valueOf_append, valueOf_zeros, valueOf_toDigits, zero_mul, zero_add,
    signed_natAbs] at hread
  simpa [Binary64.exponentText, Binary64.digitsOf] using hread

/-- A leading digit, a fraction if there is one, and an exponent. -/
theorem readMagnitude_exponent {c : Char} (e : ℤ) (hc : c.isDigit = true) (hzero : c ≠ '0')
    (hfraction : AllDigits fraction) (hrest : EndsNumeral rest) :
    readMagnitude negative (c :: ((if fraction.isEmpty then [] else '.' :: fraction) ++
        'e' :: (Binary64.exponentText e ++ rest))) =
      some (.float (decimalValue negative (digitValues (c :: fraction))
        (e - (fraction.length : ℤ))), rest) := by
  have hdigit : AllDigits [c] := by simpa [AllDigits] using hc
  have hwhole : ∀ tail, EndsDigits tail →
      readIntegerPart (c :: tail) = some (digitValues [c], tail) := fun tail htail =>
    readIntegerPart_append hdigit (List.cons_ne_nil c []) (by simpa using hzero) htail
  have hexponent := readExponent_exponentText e hrest.endsDigits
  have hends : EndsDigits ('e' :: (Binary64.exponentText e ++ rest)) := by simp [EndsDigits]
  cases fraction with
  | nil =>
    have hpoint : readFraction ('e' :: (Binary64.exponentText e ++ rest)) = (none, _) :=
      readFraction_of_ne (by simp)
    simp [readMagnitude, hwhole _ hends, hpoint, hexponent, digitValues]
  | cons d ds =>
    have hpoint := readFraction_append hfraction (List.cons_ne_nil d ds) hends
    have hbehind := hwhole ('.' :: (d :: ds ++ 'e' :: (Binary64.exponentText e ++ rest)))
      (by simp [EndsDigits])
    simp only [List.cons_append] at hpoint hbehind
    simp [readMagnitude, hbehind, hpoint, hexponent, digitValues]

/-! ## Floating-point values -/

section
variable (hds : AllDigits ds) (hne : ds ≠ []) (hrest : EndsNumeral rest)
include hds hne hrest

/-- Zeros stand between the point and the digits. -/
theorem readMagnitude_small (k : ℕ) :
    readMagnitude negative ('0' :: '.' :: (Binary64.zeros k ++ ds) ++ rest) =
      some (.float (Binary64.ofDecimal negative (valueOf 10 (digitValues ds))
        (-((k : ℤ) + ds.length))), rest) := by
  have hwhole : readIntegerPart (['0'] ++ '.' :: (Binary64.zeros k ++ ds ++ rest)) =
      some ([0], '.' :: (Binary64.zeros k ++ ds ++ rest)) := rfl
  have hread := readMagnitude_point negative hwhole ((allDigits_zeros k).append hds)
    (by simp [hne]) hrest
  rw [decimalValue, valueOf_append, digitValues_append, valueOf_append, valueOf_zeros] at hread
  simpa [valueOf, Binary64.zeros] using hread

/-- Zeros stand behind the digits. -/
theorem readMagnitude_large (hzero : ds.head? ≠ some '0') (k : ℕ) :
    readMagnitude negative (ds ++ Binary64.zeros k ++ ['.', '0'] ++ rest) =
      some (.float (Binary64.ofDecimal negative (valueOf 10 (digitValues ds) * 10 ^ k * 10) (-1)),
        rest) := by
  have hhead : (ds ++ Binary64.zeros k).head? ≠ some '0' := by
    rwa [List.head?_append_of_ne_nil _ hne]
  have hend : EndsDigits ('.' :: (['0'] ++ rest)) := by simp [EndsDigits]
  have hwhole := readIntegerPart_append (hds.append (allDigits_zeros k)) (by simp [hne]) hhead hend
  have hread := readMagnitude_point negative hwhole (by simp [AllDigits]) (by simp) hrest
  rw [decimalValue, valueOf_append, digitValues_append, valueOf_append, valueOf_zeros] at hread
  simpa [valueOf, Binary64.zeros, digitValues] using hread

/-- The point stands among the digits. -/
theorem readMagnitude_among (hzero : ds.head? ≠ some '0') {n : ℕ} (hpos : 0 < n)
    (hlt : n < ds.length) :
    readMagnitude negative (ds.take n ++ '.' :: ds.drop n ++ rest) =
      some (.float (Binary64.ofDecimal negative (valueOf 10 (digitValues ds))
        (-((ds.length : ℤ) - n))), rest) := by
  have hhead : (ds.take n).head? ≠ some '0' := by rwa [List.head?_take, if_neg hpos.ne']
  have htake : ds.take n ≠ [] := by simp [hne, hpos.ne']
  have hdrop : ds.drop n ≠ [] := by simpa using hlt
  have hend : EndsDigits ('.' :: (ds.drop n ++ rest)) := by simp [EndsDigits]
  have hwhole := readIntegerPart_append (hds.of_subset (List.take_subset n ds)) htake hhead hend
  have hread := readMagnitude_point negative hwhole (hds.of_subset (List.drop_subset n ds)) hdrop
    hrest
  rw [decimalValue, ← digitValues_append, List.take_append_drop, List.length_drop,
    Nat.cast_sub hlt.le] at hread
  rwa [List.append_assoc]

end

/-- However a decimal is laid out, its text reads as a decimal of the same value. -/
theorem exists_readMagnitude_layout {digits : ℕ} (exponent : ℤ) (hdigits : digits ≠ 0)
    (hrest : EndsNumeral rest) : ∃ (digits' : ℕ) (exponent' : ℤ),
      (digits' * 10 ^ exponent' : ℚ) = digits * 10 ^ exponent ∧
      (-1100 ≤ exponent → -1100 ≤ exponent') ∧
      readMagnitude negative (Binary64.layout digits exponent ++ rest) =
        some (.float (Binary64.ofDecimal negative digits' exponent'), rest) := by
  obtain ⟨ds, hds⟩ : ∃ ds, Nat.toDigits 10 digits = ds := ⟨_, rfl⟩
  have hall : AllDigits ds := hds ▸ allDigits_toDigits digits
  have hne : ds ≠ [] := hds ▸ Nat.toDigits_ne_nil
  have hzero : ds.head? ≠ some '0' := hds ▸ head?_toDigits hdigits
  have hvalue : valueOf 10 (digitValues ds) = digits := hds ▸ valueOf_toDigits digits
  have hlength : 0 < ds.length := List.length_pos_iff.mpr hne
  obtain ⟨lead, hlead⟩ : ∃ lead, exponent + (ds.length : ℤ) - 1 = lead := ⟨_, rfl⟩
  simp only [Binary64.layout, Binary64.digitsOf, hds, hlead]
  by_cases hplain : -4 ≤ lead ∧ lead < 16
  · rw [if_pos hplain]
    by_cases hsmall : lead < 0
    · refine ⟨digits, exponent, rfl, id, ?_⟩
      have hread := readMagnitude_small negative hall hne hrest (-lead - 1).toNat
      rw [hvalue, show -(((-lead - 1).toNat : ℤ) + ds.length) = exponent by omega] at hread
      rwa [if_pos hsmall]
    · rw [if_neg hsmall]
      by_cases hwhole : 0 ≤ exponent
      · refine ⟨digits * 10 ^ exponent.toNat * 10, -1, ?_, fun _ => by decide, ?_⟩
        · have hpower := Binary64.pow_toNat hwhole 10
          rw [Nat.cast_ofNat] at hpower
          rw [Nat.cast_mul, Nat.cast_mul, ← hpower, Nat.cast_ofNat, mul_assoc, mul_assoc]
          norm_num
        · have hread := readMagnitude_large negative hall hne hrest hzero exponent.toNat
          rwa [if_pos hwhole, ← hvalue]
      · refine ⟨digits, exponent, rfl, id, ?_⟩
        have hread := readMagnitude_among negative hall hne hrest hzero
          (by omega : 0 < lead.toNat + 1) (by omega)
        rw [hvalue, show -((ds.length : ℤ) - (lead.toNat + 1 : ℕ)) = exponent by omega] at hread
        rwa [if_neg hwhole]
  · rw [if_neg hplain]
    refine ⟨digits, exponent, rfl, id, ?_⟩
    obtain ⟨c, es, rfl⟩ := List.exists_cons_of_ne_nil hne
    have hread := readMagnitude_exponent negative lead (hall c List.mem_cons_self)
      (fun heq => hzero (congrArg some heq)) (hall.of_subset (List.subset_cons_self c es)) hrest
    rw [decimalValue, hvalue, show lead - (es.length : ℤ) = exponent by
      rw [← hlead, List.length_cons]; push_cast; ring] at hread
    simpa using hread

/-! ## Numbers -/

theorem exists_digit_of_readMagnitude {cs : List Char} {found : Value × List Char}
    (h : readMagnitude negative cs = some found) :
    ∃ c tail, cs = c :: tail ∧ c.isDigit = true := by
  obtain ⟨⟨whole, tail⟩, hwhole, -⟩ := Option.bind_eq_some_iff.mp h
  cases cs with
  | nil => simp [readIntegerPart, takeDigits] at hwhole
  | cons c tail =>
    refine ⟨c, tail, rfl, ?_⟩
    by_contra hc
    unfold readIntegerPart at hwhole
    split at hwhole
    · next heq => exact hc ((List.cons.inj heq).1 ▸ rfl)
    · simp [takeDigits, hc] at hwhole

/-- No word starts with a digit, or with a minus sign and a digit. -/
theorem readWord_digit {c : Char} (hc : c.isDigit = true) (tail : List Char) :
    readWord (c :: tail) = none ∧ readWord ('-' :: c :: tail) = none := by
  have hne : ∀ d : Char, d.isDigit = false → d ≠ c := by
    rintro d hd rfl
    rw [hc] at hd
    cases hd
  simp [readWord, words, Text.after?, hne]

/-- A numeral with its sign. -/
theorem readScalar_of_readMagnitude {cs : List Char} {found : Value × List Char}
    (h : readMagnitude negative cs = some found) :
    readScalar (if negative then '-' :: cs else cs) = some found := by
  obtain ⟨c, tail, rfl, hc⟩ := exists_digit_of_readMagnitude negative h
  cases negative with
  | true => simp [readScalar, (readWord_digit hc tail).2, h]
  | false =>
    have hminus : c ≠ '-' := by
      rintro rfl
      cases hc
    simp only [readScalar, (readWord_digit hc tail).1, Bool.false_eq_true, if_false]
    split
    · next heq => exact absurd (List.cons.inj heq).1 hminus
    · exact h

/-- The text of a finite value without its sign. -/
def magnitudeText (m : ℕ) (e : ℤ) : List Char :=
  if m = 0 then ['0', '.', '0']
  else Binary64.layout (Binary64.shortest m e).1 (Binary64.shortest m e).2

theorem readMagnitude_finite {m : ℕ} {e : ℤ} (hnormal : Binary64.IsNormal m e)
    (hrest : EndsNumeral rest) :
    readMagnitude negative (magnitudeText m e ++ rest) =
      some (.float (.finite negative m e), rest) := by
  unfold magnitudeText
  by_cases hm : m = 0
  · obtain rfl : e = Binary64.leastExponent := hnormal.le.resolve_right (by
      rw [hm]
      decide)
    have hwhole : readIntegerPart (['0'] ++ '.' :: (['0'] ++ rest)) =
      some ([0], '.' :: (['0'] ++ rest)) := rfl
    rw [if_pos hm, hm]
    exact readMagnitude_point negative hwhole (by simp [AllDigits]) (by simp) hrest
  · obtain ⟨hrounds, hexponent⟩ := Binary64.shortest_spec hnormal hm
    have hdigits : (Binary64.shortest m e).1 ≠ 0 := by
      intro hzero
      rw [hzero, Nat.cast_zero, zero_mul] at hrounds
      have hlow := (hrounds.bounds hnormal hm).1
      have hpos : (0 : ℚ) < 10 ^ (-324 : ℤ) := by positivity
      linarith
    obtain ⟨digits, exponent, hvalue, hbound, hread⟩ :=
      exists_readMagnitude_layout negative (Binary64.shortest m e).2 hdigits hrest
    rw [if_neg hm, hread, Binary64.ofDecimal_of_rounds negative (hbound hexponent) hnormal hm
      (hvalue ▸ hrounds)]

theorem writeFloat_finite (m : ℕ) (e : ℤ) : writeFloat (.finite negative m e) =
    if negative then '-' :: magnitudeText m e else magnitudeText m e := by
  change (Binary64.finite negative m e).text.toList = _
  simp only [Binary64.text, String.toList_ofList]
  cases negative <;> rfl

/-- A floating-point value in normal form is read back. -/
theorem readScalar_writeFloat {x : Binary64} (hx : x.IsRounded) (hrest : EndsNumeral rest) :
    readScalar (writeFloat x ++ rest) = some (.float x, rest) := by
  cases hx with
  | infinity negative => cases negative <;> rfl
  | finite negative hnormal =>
    have hread := readScalar_of_readMagnitude negative (readMagnitude_finite negative hnormal hrest)
    rw [writeFloat_finite]
    cases negative with
    | true => simpa only [if_true, List.cons_append] using hread
    | false => simpa only [Bool.false_eq_true, if_false] using hread

theorem toList_toString (i : ℤ) : (toString i).toList =
    if i < 0 then '-' :: Nat.toDigits 10 i.natAbs else Nat.toDigits 10 i.natAbs := by
  cases i with
  | ofNat n =>
    rw [if_neg (by simp)]
    change (toString n).toList = Nat.toDigits 10 n
    rw [Nat.toString_eq_ofList_toDigits, String.toList_ofList]
  | negSucc n =>
    rw [if_pos (Int.negSucc_lt_zero n)]
    change ("-" ++ toString (n + 1)).toList = '-' :: Nat.toDigits 10 (n + 1)
    simp

theorem length_toDigits_le {n : ℕ} (h : n < longNumber) :
    (Nat.toDigits 10 n).length ≤ digitLimit := by
  unfold longNumber at h
  have hpos : 0 < digitLimit := by decide
  -- The power is not to be computed.
  generalize digitLimit = k at *
  exact (Nat.length_toDigits_le_iff (by decide) hpos).mpr h

/-- An integer of not too many digits is read back. -/
theorem readScalar_writeInteger {i : ℤ} {cs : List Char} (h : writeInteger i = .ok cs)
    (hrest : EndsNumeral rest) : readScalar (cs ++ rest) = some (.int i, rest) := by
  unfold writeInteger at h
  split_ifs at h with hlong
  obtain rfl := Except.ok.inj h
  rw [Scalar.isLong, decide_eq_true_iff, Nat.not_le] at hlong
  have hlength := length_toDigits_le hlong
  have hscalar := readScalar_of_readMagnitude (i < 0)
    (readMagnitude_toDigits (i < 0) hlength hrest)
  rw [signed_natAbs] at hscalar
  rw [toList_toString]
  by_cases hnegative : i < 0
  · simpa [hnegative] using hscalar
  · simpa [hnegative] using hscalar

end Json
end Arazzo
