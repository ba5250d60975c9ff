import Arazzo.Proofs.Except
import Arazzo.Proofs.Expression.Comparison
import Arazzo.Proofs.Expression.Grammar
import Arazzo.Proofs.Number.Decimal

/-!
# Numbers beside texts

Two ways lead from a text to a number: a token in the form of a numeral denotes one, and a text in this
form counts as one when it is compared with a number. Both read the same numerals as the same numbers,
so beside a number it does not matter whether quotation marks stand around a token.
-/

namespace Arazzo

open Text
open Grammar (Token)

namespace Grammar.Token

def text (t : Token) : String := String.ofList t.chars

/-- The token between quotation marks. -/
def quoted (t : Token) : String := String.ofList ('\x22' :: t.chars ++ ['\x22'])

/-- The words that denote a value by themselves. -/
def words : List String := ["true", "false", "null"]

variable (t : Token)

theorem isStripped : IsStripped t.chars where
  first := fun c hc => (t.plain c (List.mem_of_head? hc)).not_blank
  last := fun c hc => (t.plain c (List.mem_of_getLast? hc)).not_blank

theorem getLast?_ne : t.chars.getLast? ≠ some '\n' := by
  intro hlast
  exact absurd (t.isStripped.last _ hlast) (by decide)

theorem unquote?_eq_none : Literal.unquote? t.chars = none := by
  obtain ⟨c, cs, hchars⟩ := List.exists_cons_of_ne_nil t.ne_nil
  have hplain := t.plain c (hchars ▸ List.mem_cons_self)
  simp [hchars, Literal.unquote?, hplain.not_quote]

end Grammar.Token

namespace Literal

/-- What a stripped text denotes beside a number. -/
inductive Denotes (cs : List Char) : Except Defect Value → Prop
  | integer {negative : Bool} {digits : List Nat} : Numeral.IsInteger cs negative digits →
      digits.length ≤ Numeral.digitLimit →
      Denotes cs (.ok (.int (Numeral.signed negative (Numeral.valueOf 10 digits))))
  | tooLong {negative : Bool} {digits : List Nat} : Numeral.IsInteger cs negative digits →
      Numeral.digitLimit < digits.length → Denotes cs (.error (.literalTooLong digits.length))
  | decimal {negative : Bool} {digits : List Nat} {exponent : Int} :
      Numeral.IsDecimal cs negative digits exponent →
      Denotes cs (.ok (.float (Numeral.decimalValue negative digits exponent)))
  | word : ¬ Numeral.IsNumeral cs → Denotes cs (.ok (.text (String.ofList cs)))

theorem denotes_number? {cs : List Char} (h : cs.getLast? ≠ some '\n') :
    Denotes cs ((number? cs).map fun n => n.getD (.text (String.ofList cs))) := by
  unfold number?
  split
  · next hshape => exact .word ((Numeral.shape?_eq_none_iff h).mp hshape)
  · next negative digits hshape =>
    have hinteger := (Numeral.shape?_eq_integer_iff h).mp hshape
    split_ifs with hlong
    · exact .tooLong hinteger hlong
    · exact .integer hinteger (Nat.not_lt.mp hlong)
  · next negative digits exponent hshape =>
    exact .decimal ((Numeral.shape?_eq_decimal_iff h).mp hshape)

/-- No quotation mark stands in a numeral. -/
theorem not_isNumeral_of_quote {cs : List Char} {q : Char} (hq : isQuote q = true) (hmem : q ∈ cs) :
    ¬ Numeral.IsNumeral cs := by
  have hmark : Text.digit? q = none ∧ q ∉ Numeral.numeralMarks := by
    rcases eq_of_isQuote hq with rfl | rfl <;> decide
  exact Numeral.not_isNumeral_of_mem hmem hmark.1 hmark.2

end Literal

namespace Comparison

variable {x v w other : Value}

theorem isNumber_of_number? {cs : List Char} (h : Literal.number? cs = .ok (some v)) : v.IsNumber := by
  unfold Literal.number? at h
  split at h
  · cases h
  · split_ifs at h
    obtain rfl := Option.some.inj (Except.ok.inj h)
    exact ⟨_, rfl, rfl⟩
  · obtain rfl := Option.some.inj (Except.ok.inj h)
    exact ⟨_, rfl, rfl⟩

theorem numberFor_cases (v other : Value) :
    (∃ s, v = .text s ∧ other.IsNumber) ∨ numberFor v other = .ok v := by
  by_cases hother : other.IsNumber
  · by_cases htext : ∃ s, v = .text s
    · obtain ⟨s, hs⟩ := htext
      exact .inl ⟨s, hs, hother⟩
    · exact .inr (numberFor_of_ne (fun s hs => htext ⟨s, hs⟩) other)
  · exact .inr (numberFor_of_not_isNumber hother v)

/-- What a value counts as counts as itself. -/
theorem numberFor_of_numberFor (h : numberFor v other = .ok w) : numberFor w other = .ok w := by
  rcases numberFor_cases v other with ⟨s, rfl, hother⟩ | hsame
  · have hread := h
    rw [numberFor_text s hother] at hread
    obtain ⟨n, hn, rfl⟩ := map_ok_iff.mp hread
    cases n with
    | none => exact h
    | some n => exact numberFor_of_ne (ne_text_of_isNumber (isNumber_of_number? hn)) other
  · obtain rfl := Except.ok.inj (hsame.symm.trans h)
    exact h

/-- A number compares with a text as with what the text counts as. -/
theorem compare_numberFor (hx : x.IsNumber) (op : Operator) (s : String) :
    compare x op (.text s) = numberFor (.text s) x >>= fun v => compare x op v := by
  have hkept := numberFor_of_ne (ne_text_of_isNumber hx)
  cases hread : numberFor (.text s) x with
  | error d =>
    rw [compare, coerce, hkept, hread]
    rfl
  | ok v =>
    rw [compare_eq (hkept _) hread]
    exact (compare_eq (hkept _) (numberFor_of_numberFor hread) op).symm

theorem numberFor_compare (hx : x.IsNumber) (op : Operator) (s : String) :
    compare (.text s) op x = numberFor (.text s) x >>= fun v => compare v op x := by
  have hkept := numberFor_of_ne (ne_text_of_isNumber hx)
  cases hread : numberFor (.text s) x with
  | error d =>
    rw [compare, coerce, hread]
    rfl
  | ok v =>
    rw [compare_eq hread (hkept _)]
    exact (compare_eq (numberFor_of_numberFor hread) (hkept _) op).symm

end Comparison

namespace Scope

/-- A value compared with the value of an operand. -/
def compareWith (scope : Scope) (x : Value) (op : Operator) (operand : String) :
    Except Fault Bool := do
  let v ← scope.operand operand
  (Comparison.compare x op v).mapError .defect

/-- The value of an operand compared with a value. -/
def compareTo (scope : Scope) (operand : String) (op : Operator) (x : Value) :
    Except Fault Bool := do
  let v ← scope.operand operand
  (Comparison.compare v op x).mapError .defect

variable {scope : Scope} {t : Token}

theorem operand_literal (scope : Scope) {s : String} (h : s.toList.head? ≠ some '$') :
    scope.operand s = (Literal.value s).mapError .defect := by
  rw [operand, denoted, if_neg h]
  cases Literal.value s <;> rfl

/-- What stands between quotation marks is a text, whatever it looks like. -/
theorem operand_quoted (scope : Scope) {q : Char} (hq : Literal.isQuote q = true)
    (inside : List Char) :
    scope.operand (String.ofList (q :: inside ++ [q])) = .ok (.text (String.ofList inside)) := by
  have hreference : (q :: inside ++ [q]).head? ≠ some '$' := by
    intro hhead
    obtain rfl := Option.some.inj hhead
    exact absurd hq (by decide)
  have hunquote : Literal.unquote? (q :: inside ++ [q]) = some inside := by
    simp [Literal.unquote?, hq]
  rw [operand_literal scope (by rwa [String.toList_ofList]), Literal.value, String.toList_ofList,
    hunquote]
  rfl

theorem operand_token (scope : Scope) (hreference : t.chars.head? ≠ some '$')
    (hword : t.text ∉ Token.words) :
    scope.operand t.text =
      ((Literal.number? t.chars).map fun n => n.getD (.text t.text)).mapError .defect := by
  simp only [Token.words, List.mem_cons, List.not_mem_nil, or_false, not_or] at hword
  obtain ⟨htrue, hfalse, hnull⟩ := hword
  have hchars : t.text.toList = t.chars := String.toList_ofList
  rw [operand_literal scope (by rwa [hchars]), Literal.value, hchars, t.unquote?_eq_none]
  simp only [if_neg htrue, if_neg hfalse, if_neg hnull]

/-- Beside a number the text of a token counts as what the token denotes. -/
theorem numberFor_token {x : Value} (hx : x.IsNumber) :
    Comparison.numberFor (.text t.text) x =
      (Literal.number? t.chars).map fun n => n.getD (.text t.text) := by
  rw [Comparison.numberFor_text _ hx, Token.text, String.toList_ofList, t.isStripped.strip_eq]

/-- A number compares with a token as with the token between quotation marks, on either side: as with
the number that the token denotes, if it is a numeral, else as with its text. An integer of too many
digits is a defect both with the marks and without them. -/
theorem compareWith_quoted (scope : Scope) (hreference : t.chars.head? ≠ some '$')
    (hword : t.text ∉ Token.words) {x : Value} (hx : x.IsNumber) (op : Operator) :
    scope.compareWith x op t.text = scope.compareWith x op t.quoted ∧
    scope.compareTo t.text op x = scope.compareTo t.quoted op x ∧
    ∃ denoted, Literal.Denotes t.chars denoted ∧
      scope.compareWith x op t.text =
        (denoted >>= fun v => Comparison.compare x op v).mapError .defect ∧
      scope.compareTo t.text op x =
        (denoted >>= fun v => Comparison.compare v op x).mapError .defect := by
  have htoken := operand_token scope hreference hword
  have hquoted : scope.operand t.quoted = .ok (.text t.text) :=
    operand_quoted scope (by decide) t.chars
  have hcounts := numberFor_token (t := t) hx
  have hwith : scope.compareWith x op t.text =
      (Comparison.numberFor (.text t.text) x >>= fun v => Comparison.compare x op v).mapError
        .defect := by
    rw [compareWith, htoken, hcounts]
    cases Literal.number? t.chars <;> rfl
  have hto : scope.compareTo t.text op x =
      (Comparison.numberFor (.text t.text) x >>= fun v => Comparison.compare v op x).mapError
        .defect := by
    rw [compareTo, htoken, hcounts]
    cases Literal.number? t.chars <;> rfl
  refine ⟨?_, ?_, _, Literal.denotes_number? t.getLast?_ne, hcounts ▸ hwith, hcounts ▸ hto⟩
  · rw [hwith, compareWith, hquoted, ← Comparison.compare_numberFor hx]
    rfl
  · rw [hto, compareTo, hquoted, ← Comparison.numberFor_compare hx]
    rfl

/-- Seven with a zero in front of it, in digits of another script. -/
def paddedSeven : Token where
  chars := ['\u0660', '\u0667']
  ne_nil := List.cons_ne_nil _ _
  plain := by
    intro c hc
    simp only [List.mem_cons, List.not_mem_nil, or_false] at hc
    rcases hc with rfl | rfl <;> exact ⟨by decide, by decide, by decide⟩

theorem compareWith_quoted_padded :
    paddedSeven.chars.head? ≠ some '$' ∧ paddedSeven.text ∉ Token.words ∧
    (Value.int 7).IsNumber ∧
    compareWith ⟨⟨.map [], []⟩, default⟩ (.int 7) .equal paddedSeven.text = .ok true ∧
    compareWith ⟨⟨.map [], []⟩, default⟩ (.int 7) .equal paddedSeven.quoted = .ok true := by
  have hreference : paddedSeven.chars.head? ≠ some '$' := by decide
  have hword : paddedSeven.text ∉ Token.words := by decide +kernel
  have hnumber : (Value.int 7).IsNumber := ⟨_, rfl, rfl⟩
  have hread : Literal.number? paddedSeven.chars = .ok (some (.int 7)) := rfl
  have hbare : compareWith ⟨⟨.map [], []⟩, default⟩ (.int 7) .equal paddedSeven.text = .ok true := by
    rw [compareWith, operand_token _ hreference hword, hread]
    rfl
  obtain ⟨hwith, -⟩ := compareWith_quoted ⟨⟨.map [], []⟩, default⟩ hreference hword hnumber .equal
  exact ⟨hreference, hword, hnumber, hbare, hwith ▸ hbare⟩

end Scope
end Arazzo
