import Arazzo.Expression.Compare
import Arazzo.Proofs.Document.Order
import Arazzo.Proofs.Except
import Arazzo.Proofs.Number.Integer
import Arazzo.Proofs.Number.Rounding

/-!
# The laws of comparison

Comparing two JSON values gives a truth value for each operator. Where an order is defined between the
values that are compared, a text next to a number taken for the number that it denotes, it decides about
all six operators; where it is not, none of the four ordering operators holds. Exchanging the sides of a
comparison mirrors its operator.
-/

namespace Arazzo

open Text

namespace Operator

/-- The operator that says the same with its sides exchanged. -/
def mirror : Operator → Operator
  | .equal => .equal
  | .unequal => .unequal
  | .atLeast => .atMost
  | .atMost => .atLeast
  | .above => .below
  | .below => .above

/-- Whether an operator holds where there is an order. -/
def accepts (op : Operator) (o : Ordering) : Bool :=
  match op with
  | .equal => o == .eq
  | .unequal => o != .eq
  | .atLeast => o.isGE
  | .atMost => o.isLE
  | .above => o == .gt
  | .below => o == .lt

/-- The operators that ask for an order. -/
def ordering : List Operator := [.atLeast, .atMost, .above, .below]

variable {a b : Value} {o : Ordering}

theorem holds_of_order? (ha : a.IsJson) (hb : b.IsJson) (h : a.order? b = some o)
    (op : Operator) : op.holds a b = op.accepts o := by
  have hequal : a.equal b = (o == .eq) :=
    Bool.eq_iff_iff.mpr (by rw [← (ha.of_order? hb h).2, beq_iff_eq])
  cases op <;> simp [holds, accepts, h, hequal, bne]

theorem holds_of_none (h : a.order? b = none) {op : Operator} (hop : op ∈ ordering) :
    op.holds a b = false := by
  simp only [ordering, List.mem_cons, List.not_mem_nil, or_false] at hop
  rcases hop with rfl | rfl | rfl | rfl <;> simp [holds, h]

theorem holds_mirror (ha : a.IsJson) (hb : b.IsJson) (op : Operator) :
    op.holds a b = op.mirror.holds b a := by
  have hequal := ha.equal_comm hb
  have horder := ha.order?_swap hb
  cases op <;> simp only [holds, mirror, hequal, horder]
  all_goals
    cases a.order? b with
    | none => rfl
    | some o => cases o <;> rfl

end Operator

namespace Value

/-- Integers and floating-point values, but not the truth values. -/
def IsNumber (v : Value) : Prop := ∃ x, v = .scalar x ∧ x.isNumber = true

/-- A number, or a text that the literal grammar reads as one between its blanks. -/
def IsNumeric (v : Value) : Prop :=
  v.IsNumber ∨ ∃ s, v = .text s ∧ (Numeral.shape? (strip s.toList)).isSome = true

/-- A value that is no text whose integer has too many digits. -/
def HasShortNumerals (v : Value) : Prop :=
  ∀ s negative digits, v = .text s → Numeral.IsInteger (strip s.toList) negative digits →
    digits.length ≤ Numeral.digitLimit

theorem hasShortNumerals_of_ne {v : Value} (h : ∀ s, v ≠ .text s) : v.HasShortNumerals :=
  fun s _ _ hs => absurd hs (h s)

theorem hasShortNumerals_of_length_le {s : String} (h : s.toList.length ≤ Numeral.digitLimit) :
    (Value.text s).HasShortNumerals := by
  intro t negative digits ht hinteger
  obtain rfl := Scalar.text.inj (Value.scalar.inj ht)
  exact (hinteger.length_le.trans (strip_sublist _).length_le).trans h

/-- The exact value of an integer or a finite floating-point value. -/
def rational? : Value → Option ℚ
  | .int i => some i
  | .float (.finite negative m e) =>
    some ((if negative then -(m : Int) else m : Int) * (2 : ℚ) ^ e)
  | _ => none

end Value

namespace Comparison

variable {l r l' r' v w other : Value}

/-! ## The values that are compared -/

theorem getLast?_strip (cs : List Char) : (strip cs).getLast? ≠ some '\n' := by
  obtain ⟨-, -, -, -, -, hstripped⟩ := exists_strip cs
  intro hlast
  exact absurd (hstripped.last _ hlast) (by decide)

theorem number?_of_isInteger {s : String} {negative : Bool} {digits : List Nat}
    (h : Numeral.IsInteger (strip s.toList) negative digits)
    (hshort : digits.length ≤ Numeral.digitLimit) :
    Literal.number? (strip s.toList) =
      .ok (some (.int (Numeral.signed negative (Numeral.valueOf 10 digits)))) := by
  have hshape := (Numeral.shape?_eq_integer_iff (getLast?_strip _)).mpr h
  rw [Literal.number?, hshape]
  exact if_neg (Nat.not_lt.mpr hshort)

theorem numberFor_of_ne (h : ∀ s, v ≠ .text s) (other : Value) : numberFor v other = .ok v := by
  unfold numberFor
  split
  · exact absurd rfl (h _)
  · rfl

theorem numberFor_text (s : String) (h : other.IsNumber) :
    numberFor (.text s) other = (Literal.number? (strip s.toList)).map fun n => n.getD (.text s) := by
  obtain ⟨x, rfl, hx⟩ := h
  exact if_pos hx

theorem numberFor_of_not_isNumber (h : ¬ other.IsNumber) (v : Value) :
    numberFor v other = .ok v := by
  unfold numberFor
  split
  · next s x =>
    exact if_neg fun hx => h ⟨x, rfl, hx⟩
  · rfl

/-- What a text in the literal grammar denotes is a number. -/
theorem exists_number? {s : String} (hshort : (Value.text s).HasShortNumerals) :
    ∃ n, Literal.number? (strip s.toList) = .ok n ∧
      (n = none ∧ Numeral.shape? (strip s.toList) = none ∨
        ∃ x : Scalar, n = some (.scalar x) ∧ x.IsJson ∧ x.number?.isSome = true) := by
  cases hshape : Numeral.shape? (strip s.toList) with
  | none => exact ⟨none, by rw [Literal.number?, hshape], .inl ⟨rfl, rfl⟩⟩
  | some shape =>
    cases shape with
    | integer negative digits =>
      have hinteger := (Numeral.shape?_eq_integer_iff (getLast?_strip _)).mp hshape
      exact ⟨_, number?_of_isInteger hinteger (hshort s negative digits rfl hinteger),
        .inr ⟨_, rfl, .int _, rfl⟩⟩
    | decimal negative digits exponent =>
      refine ⟨_, by rw [Literal.number?, hshape], .inr ⟨_, rfl, .float fun payload hnan => ?_, rfl⟩⟩
      have hrounded := Binary64.isRounded_ofDecimal negative (Numeral.valueOf 10 digits) exponent
      rw [Numeral.decimalValue] at hnan
      rw [hnan] at hrounded
      cases hrounded

theorem exists_number_of_isNumber {v : Value} (h : v.IsNumber) :
    ∃ x, v = .scalar x ∧ x.number?.isSome = true := by
  obtain ⟨x, rfl, hx⟩ := h
  exact ⟨x, rfl, by cases x <;> first | rfl | cases hx⟩

/-- What is compared for a value of JSON is one, and a number if it is numeric and one of both sides
is a number. -/
theorem exists_numberFor (hv : v.IsJson) (hshort : v.HasShortNumerals) (other : Value) :
    ∃ w, numberFor v other = .ok w ∧ w.IsJson ∧
      (v.IsNumeric → v.IsNumber ∨ other.IsNumber →
        ∃ x, w = .scalar x ∧ x.number?.isSome = true) := by
  by_cases htext : ∃ s, v = .text s ∧ other.IsNumber
  · obtain ⟨s, rfl, hother⟩ := htext
    obtain ⟨n, hn, hkind⟩ := exists_number? hshort
    refine ⟨_, by rw [numberFor_text s hother, hn]; rfl, ?_⟩
    rcases hkind with ⟨rfl, hnone⟩ | ⟨x, rfl, hx, hnumber⟩
    · refine ⟨hv, ?_⟩
      rintro (⟨x, hx, hnumber⟩ | ⟨t, ht, hshape⟩)
      · obtain rfl := Value.scalar.inj hx
        cases hnumber
      · obtain rfl := Scalar.text.inj (Value.scalar.inj ht)
        rw [hnone] at hshape
        cases hshape
    · exact ⟨.scalar hx, fun _ _ => ⟨x, rfl, hnumber⟩⟩
  · have hsame : numberFor v other = .ok v := by
      by_cases hother : other.IsNumber
      · exact numberFor_of_ne (fun s hs => htext ⟨s, hs, hother⟩) other
      · exact numberFor_of_not_isNumber hother v
    refine ⟨v, hsame, hv, ?_⟩
    rintro (hnumber | ⟨s, rfl, -⟩) hone
    · exact exists_number_of_isNumber hnumber
    · rcases hone with hnumber | hother
      · exact exists_number_of_isNumber hnumber
      · exact absurd ⟨s, rfl, hother⟩ htext

/-! ## The laws -/

theorem coerce_eq (hl : numberFor l r = .ok l') (hr : numberFor r l = .ok r') :
    coerce l r = .ok (l', r') := by
  rw [coerce, hl, hr]
  rfl

theorem compare_eq (hl : numberFor l r = .ok l') (hr : numberFor r l = .ok r') (op : Operator) :
    compare l op r = .ok (op.holds l' r') := by
  rw [compare, coerce_eq hl hr]
  rfl

theorem exists_of_rational? {p : ℚ} (h : v.rational? = some p) :
    ∃ x m e, v = .scalar x ∧ x.number? = some (.scaled m e) ∧ (m : ℚ) * 2 ^ e = p := by
  unfold Value.rational? at h
  split at h
  · next i =>
    exact ⟨.int i, i, 0, rfl, rfl, by simpa using h⟩
  · next negative m e =>
    exact ⟨.float _, _, e, rfl, rfl, Option.some.inj h⟩
  · cases h

theorem order?_of_rational? {p q : ℚ} (hl : l.rational? = some p) (hr : r.rational? = some q) :
    l.order? r = some (cmp p q) := by
  obtain ⟨x, a, i, rfl, hx, rfl⟩ := exists_of_rational? hl
  obtain ⟨y, b, j, rfl, hy, rfl⟩ := exists_of_rational? hr
  rw [← Exact.compareScaled_eq_cmp]
  exact Scalar.order?_of_number? hx hy

theorem not_isNumber_bool (b : Bool) : ¬ (Value.bool b).IsNumber := by
  rintro ⟨x, hx, hnumber⟩
  obtain rfl := Value.scalar.inj hx
  cases hnumber

theorem ne_text_of_isNumber (h : v.IsNumber) (s : String) : v ≠ .text s := by
  obtain ⟨x, rfl, hx⟩ := h
  intro heq
  obtain rfl := Value.scalar.inj heq
  cases hx

theorem ne_text_of_rational? {p : ℚ} (h : v.rational? = some p) (s : String) : v ≠ .text s := by
  rintro rfl
  cases h

/-- A number compares with a text of an integer as with this integer. -/
theorem compare_text {s : String} {negative : Bool} {digits : List Nat} (h : l.IsNumber)
    (hinteger : Numeral.IsInteger (strip s.toList) negative digits)
    (hshort : digits.length ≤ Numeral.digitLimit) (op : Operator) :
    compare l op (.text s) =
      compare l op (.int (Numeral.signed negative (Numeral.valueOf 10 digits))) := by
  have hkept := numberFor_of_ne (ne_text_of_isNumber h)
  have hread : numberFor (.text s) l =
      .ok (.int (Numeral.signed negative (Numeral.valueOf 10 digits))) := by
    rw [numberFor_text s h, number?_of_isInteger hinteger hshort]
    rfl
  rw [compare_eq (hkept _) hread, compare_eq (hkept _) (numberFor_of_ne (fun _ h => by cases h) l)]

/-- Finite numbers compare as their exact values. -/
theorem compare_of_rational? {p q : ℚ} (hl : l.IsJson) (hr : r.IsJson) (hp : l.rational? = some p)
    (hq : r.rational? = some q) (op : Operator) :
    compare l op r = .ok (op.accepts (cmp p q)) := by
  rw [compare_eq (numberFor_of_ne (ne_text_of_rational? hp) r)
    (numberFor_of_ne (ne_text_of_rational? hq) l),
    Operator.holds_of_order? hl hr (order?_of_rational? hp hq)]

/-- Values of JSON without numerals that are too long compare to a truth value by each operator, which
is the negation for the negated one and the same for the mirrored one with the sides exchanged. A number
compares with a text of an integer as with this integer, and finite numbers as their exact values. Of
numeric sides, one of them a number, and of all values between which an order is defined, one order
decides about all operators; between others no ordering operator holds. A truth value is compared as it
is, whatever it is compared with. -/
theorem compare_laws (hl : l.IsJson) (hr : r.IsJson) (hshort : l.HasShortNumerals)
    (hshort' : r.HasShortNumerals) :
    (∀ op, ∃ b, compare l op r = .ok b) ∧
    compare l .unequal r = (compare l .equal r).map (!·) ∧
    (∀ op, compare l op r = compare r (Operator.mirror op) l) ∧
    (∀ s negative digits, l.IsNumber → r = .text s →
      Numeral.IsInteger (strip s.toList) negative digits → ∀ op,
        compare l op r =
          compare l op (.int (Numeral.signed negative (Numeral.valueOf 10 digits)))) ∧
    (∀ p q, l.rational? = some p → r.rational? = some q → ∀ op,
      compare l op r = .ok (Operator.accepts op (cmp p q))) ∧
    (l.IsNumeric → r.IsNumeric → l.IsNumber ∨ r.IsNumber →
      ∃ o, ∀ op, compare l op r = .ok (Operator.accepts op o)) ∧
    (∃ l' r', coerce l r = .ok (l', r') ∧
      (l'.IsOrdered r' → ∃ o, ∀ op, compare l op r = .ok (Operator.accepts op o)) ∧
      (¬ l'.IsOrdered r' → ∀ op ∈ Operator.ordering, compare l op r = .ok false)) ∧
    ∀ b, l = .bool b → coerce l r = .ok (l, r) := by
  obtain ⟨l', hleft, hl', hnumber⟩ := exists_numberFor hl hshort r
  obtain ⟨r', hright, hr', hnumber'⟩ := exists_numberFor hr hshort' l
  have hcompare : ∀ op, compare l op r = .ok (Operator.holds op l' r') := compare_eq hleft hright
  have hdecides : l'.IsOrdered r' → ∃ o, ∀ op, compare l op r = .ok (Operator.accepts op o) := by
    intro hordered
    obtain ⟨o, ho⟩ := hordered.exists_order? hl' hr'
    exact ⟨o, fun op => by rw [hcompare, Operator.holds_of_order? hl' hr' ho]⟩
  refine ⟨fun op => ⟨_, hcompare op⟩, ?_, fun op => ?_, ?_, ?_, ?_, ?_, ?_⟩
  · rw [hcompare, hcompare]
    rfl
  · rw [hcompare, compare_eq hright hleft, ← Operator.holds_mirror hl' hr']
  · rintro s negative digits hone rfl hinteger
    exact compare_text hone hinteger (hshort' s negative digits rfl hinteger)
  · intro p q hp hq
    exact compare_of_rational? hl hr hp hq
  · intro hnumeric hnumeric' hone
    obtain ⟨x, rfl, hx⟩ := hnumber hnumeric hone
    obtain ⟨y, rfl, hy⟩ := hnumber' hnumeric' hone.symm
    exact hdecides (.numbers hx hy)
  · refine ⟨l', r', coerce_eq hleft hright, hdecides, fun hunordered op hop => ?_⟩
    have hnone : l'.order? r' = none := by
      cases horder : l'.order? r' with
      | none => rfl
      | some o => exact absurd (hl'.of_order? hr' horder).1 hunordered
    rw [hcompare, Operator.holds_of_none hnone hop]
  · rintro b rfl
    exact coerce_eq (numberFor_of_ne (fun _ h => by cases h) r)
      (numberFor_of_not_isNumber (not_isNumber_bool b) r)

theorem not_isOrdered_containers : ¬ Value.IsOrdered (.list [.int 1, .map []])
    (.list [.int 1, .list []]) := by
  intro h
  cases h with
  | agree _ hrest =>
    cases hrest with
    | agree hequal => cases hequal
    | differ _ _ _ hitems => cases hitems
  | differ _ _ hequal => cases hequal

/-- A hundred is below a text of two hundred with blanks around it, and lists that differ first in a
mapping and a list have no order. -/
theorem compare_laws_numerals :
    (∀ op, compare (.float (Binary64.ofInt 100)) op (.text " 200\n") =
      .ok (Operator.accepts op .lt)) ∧
    ∀ op ∈ Operator.ordering, compare (.list [.int 1, .map []]) op (.list [.int 1, .list []]) =
      .ok false := by
  have hone : (Value.int 1).IsJson := .scalar (.int 1)
  have hempty : (Value.list []).IsJson := .list (by simp)
  have hmap : (Value.map []).IsJson := .map ⟨by simp, by simp⟩ (by simp)
  constructor
  · intro op
    have hvalue : Binary64.ofInt 100 = .finite false 7036874417766400 (-46) := by decide
    rw [hvalue]
    have hnumber : (Value.float (.finite false 7036874417766400 (-46))).IsJson :=
      .scalar (.float fun _ h => by cases h)
    have hstrip : strip " 200\n".toList = ['2', '0', '0'] := by decide
    have hinteger : Numeral.IsInteger (strip " 200\n".toList) false [2, 0, 0] :=
      hstrip ▸ .positive (.cons rfl (.cons rfl (.cons rfl .nil))) (by simp)
    obtain ⟨-, -, -, hnumeral, -⟩ := compare_laws hnumber (.scalar (.text " 200\n"))
      (Value.hasShortNumerals_of_ne fun _ h => by cases h)
      (Value.hasShortNumerals_of_length_le (by decide))
    obtain ⟨-, -, -, -, hexact, -⟩ := compare_laws hnumber (.scalar (.int 200))
      (Value.hasShortNumerals_of_ne fun _ h => by cases h)
      (Value.hasShortNumerals_of_ne fun _ h => by cases h)
    have hbelow : cmp (((7036874417766400 : Int) : ℚ) * 2 ^ (-46 : Int)) ((200 : Int) : ℚ) = .lt := by
      rw [cmp_eq_lt_iff]
      norm_num
    rw [hnumeral _ false [2, 0, 0] ⟨_, rfl, rfl⟩ rfl hinteger op]
    exact (hexact _ _ rfl rfl op).trans (by rw [← hbelow]; rfl)
  · obtain ⟨-, -, -, -, -, -, ⟨l', r', hcoerce, -, hnone⟩, -⟩ :=
      compare_laws (Value.isJson_cons.mpr ⟨hone, Value.isJson_cons.mpr ⟨hmap, hempty⟩⟩)
        (Value.isJson_cons.mpr ⟨hone, Value.isJson_cons.mpr ⟨hempty, hempty⟩⟩)
        (Value.hasShortNumerals_of_ne fun _ h => by cases h)
        (Value.hasShortNumerals_of_ne fun _ h => by cases h)
    obtain ⟨rfl, rfl⟩ := Prod.mk.inj (Except.ok.inj hcoerce)
    exact hnone not_isOrdered_containers

end Comparison
end Arazzo
