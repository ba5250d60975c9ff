import Arazzo.Proofs.Expression.Reading
import Arazzo.Proofs.Text.Trim

/-!
# The grammar of conditions

A formula joins clauses by `&&`, a clause joins parts by `||`. A part is a comparison of two operands
or a formula in parentheses, or the negation of either or of a single token. Every tree holds the
blanks that stand between its pieces, so that a tree is a text, and what the blanks are does not
matter for its value.
-/

namespace Arazzo
namespace Grammar

open Text

/-- Any number of blanks. -/
abbrev Blanks := {cs : List Char // AllBlank cs}

/-- The characters that operators, separators and parentheses are made of. -/
def signs : List Char := ['=', '!', '<', '>', '&', '|', '(', ')']

structure IsPlain (c : Char) : Prop where
  not_blank : isBlank c = false
  not_quote : Literal.isQuote c = false
  not_sign : c ∉ signs

structure Token where
  chars : List Char
  ne_nil : chars ≠ []
  plain : ∀ c ∈ chars, IsPlain c

inductive Operand where
  | token (t : Token)
  /-- Anything but the quotation mark may stand between quotation marks. -/
  | quoted (mark : Char) (inside : List Char) (isMark : Literal.isQuote mark = true)
    (absent : mark ∉ inside)

structure Comparison where
  left : Operand
  before : Blanks
  op : Operator
  after : Blanks
  right : Operand

mutual

inductive Formula where
  | one (clause : Clause)
  | and (clause : Clause) (rest : Formula)

inductive Clause where
  | one (before : Blanks) (part : Part) (after : Blanks)
  | or (before : Blanks) (part : Part) (after : Blanks) (rest : Clause)

inductive Part where
  | comparison (c : Comparison)
  | group (inside : Formula)
  | notComparison (gap : Blanks) (c : Comparison)
  | notGroup (gap : Blanks) (inside : Formula)
  | notToken (gap : Blanks) (t : Token)

end

/-! ## Texts -/

def Operand.text : Operand → List Char
  | .token t => t.chars
  | .quoted mark inside _ _ => mark :: inside ++ [mark]

def Comparison.text (c : Comparison) : List Char :=
  c.left.text ++ (c.before.1 ++ (c.op.symbol.toList ++ (c.after.1 ++ c.right.text)))

mutual

def Formula.text : Formula → List Char
  | .one clause => clause.text
  | .and clause rest => clause.text ++ (['&', '&'] ++ rest.text)

def Clause.text : Clause → List Char
  | .one before part after => before.1 ++ part.text ++ after.1
  | .or before part after rest => before.1 ++ part.text ++ after.1 ++ (['|', '|'] ++ rest.text)

def Part.text : Part → List Char
  | .comparison c => c.text
  | .group inside => '(' :: inside.text ++ [')']
  | .notComparison gap c => '!' :: (gap.1 ++ c.text)
  | .notGroup gap inside => '!' :: (gap.1 ++ ('(' :: inside.text ++ [')']))
  | .notToken gap t => '!' :: (gap.1 ++ t.chars)

end

/-! ## Values -/

section
variable (resolve : String → Except Fault Value)

/-- Both operands are resolved, the left one first, and compared. -/
def Comparison.value (c : Comparison) : Verdict :=
  let compared : Except Fault (Value × Value × Bool) := do
    let left ← resolve (String.ofList c.left.text)
    let right ← resolve (String.ofList c.right.text)
    let holds ← (Comparison.compare left c.op right).mapError Fault.defect
    .ok (left, right, holds)
  match compared with
  | .ok (_, _, true) => ⟨[], .ok true⟩
  | .ok (left, right, false) => ⟨[⟨left, c.op, right, String.ofList c.text⟩], .ok false⟩
  | .error f => ⟨[], .error f⟩

def Token.falsity (t : Token) : Verdict :=
  match resolve (String.ofList t.chars) with
  | .ok v => ⟨[], .ok !v.truthy⟩
  | .error f => ⟨[], .error f⟩

mutual

/-- The first clause that does not hold, or has no value, decides. -/
def Formula.value : Formula → Verdict
  | .one clause => clause.value
  | .and clause rest =>
    match clause.value with
    | ⟨failed, .ok true⟩ => ⟨failed ++ rest.value.failed, rest.value.outcome⟩
    | decided => decided

/-- The first part that holds, or has no value, decides. -/
def Clause.value : Clause → Verdict
  | .one _ part _ => part.value
  | .or _ part _ rest =>
    match part.value with
    | ⟨failed, .ok false⟩ => ⟨failed ++ rest.value.failed, rest.value.outcome⟩
    | decided => decided

def Part.value : Part → Verdict
  | .comparison c => c.value resolve
  | .group inside => inside.value
  | .notComparison _ c => (c.value resolve).not
  | .notGroup _ inside => inside.value.not
  | .notToken _ t => t.falsity resolve

end

end

/-! ## Pieces of a text -/

theorem IsPlain.isTokenChar {c : Char} (h : IsPlain c) : Condition.isTokenChar c = true := by
  have hsign := h.not_sign
  simp only [signs, List.mem_cons, List.not_mem_nil, or_false, not_or] at hsign
  simp [Condition.isTokenChar, h.not_blank, hsign]

theorem isTokenChar_of_isBlank {c : Char} (h : isBlank c = true) :
    Condition.isTokenChar c = false := by
  simp [Condition.isTokenChar, h]

theorem IsPlain.isNeutral {c : Char} (h : IsPlain c) :
    Scan.isDelimiter c = false ∧ c ∉ ['&', '|'] := by
  have hsign := h.not_sign
  simp only [signs, List.mem_cons, List.not_mem_nil, or_false, not_or] at hsign
  simp [Scan.isDelimiter, h.not_quote, hsign]

theorem not_blank_of_isQuote {c : Char} (h : Literal.isQuote c = true) :
    isBlank c = false ∧ c ∉ signs := by
  rcases Literal.eq_of_isQuote h with rfl | rfl <;> decide

/-- An operand begins with a character that is neither blank nor a sign. -/
theorem Operand.exists_text (o : Operand) :
    ∃ c cs, o.text = c :: cs ∧ isBlank c = false ∧ c ∉ signs := by
  cases o with
  | token t =>
    obtain ⟨c, cs, hchars⟩ := List.exists_cons_of_ne_nil t.ne_nil
    have hplain := t.plain c (hchars ▸ List.mem_cons_self)
    exact ⟨c, cs, hchars, hplain.not_blank, hplain.not_sign⟩
  | quoted mark inside isMark absent =>
    obtain ⟨hblank, hsign⟩ := not_blank_of_isQuote isMark
    exact ⟨mark, inside ++ [mark], rfl, hblank, hsign⟩

theorem Operand.ne_nil (o : Operand) : o.text ≠ [] := by
  obtain ⟨c, cs, htext, -⟩ := o.exists_text
  rw [htext]
  exact List.cons_ne_nil c cs

theorem Operand.isPart (o : Operand) : Condition.IsPart o.text := by
  refine ⟨⟨?_, ?_⟩, ⟨?_, ?_⟩, o.ne_nil⟩
  · cases o with
    | token t => exact Scan.closed_of_plain fun c hc => (t.plain c hc).isNeutral.1
    | quoted mark inside isMark absent => exact Scan.closed_quoted isMark absent
  · intro mark hmark
    cases o with
    | token t =>
      exact Scan.undivided_of_not_mem fun hmem => (t.plain mark hmem).isNeutral.2 hmark
    | quoted q inside isMark absent => exact Scan.undivided_quoted isMark absent
  · intro c hc
    obtain ⟨d, cs, htext, hblank, -⟩ := o.exists_text
    rw [htext, List.head?_cons, Option.mem_some_iff] at hc
    exact hc ▸ hblank
  · intro c hc
    cases o with
    | token t => exact (t.plain c (List.mem_of_getLast? hc)).not_blank
    | quoted mark inside isMark absent =>
      rw [Operand.text, List.getLast?_concat, Option.mem_some_iff] at hc
      exact hc ▸ (not_blank_of_isQuote isMark).1

theorem tokenOperand?_append {cs rest : List Char} (hne : cs ≠ [])
    (hall : ∀ c ∈ cs, Condition.isTokenChar c = true)
    (hrest : ∀ c ∈ rest.head?, Condition.isTokenChar c = false) :
    Condition.tokenOperand? (cs ++ rest) = some (cs, rest) := by
  have htake : rest.takeWhile Condition.isTokenChar = [] := by
    cases rest with
    | nil => rfl
    | cons d rest => exact List.takeWhile_cons_of_neg (by simp [hrest d rfl])
  have hdrop : rest.dropWhile Condition.isTokenChar = rest := by
    cases rest with
    | nil => rfl
    | cons d rest => exact List.dropWhile_cons_of_neg (by simp [hrest d rfl])
  obtain ⟨c, more, rfl⟩ := List.exists_cons_of_ne_nil hne
  rw [Condition.tokenOperand?, List.takeWhile_append_of_pos hall, htake, List.append_nil,
    List.dropWhile_append_of_pos hall, hdrop]

/-- A token is taken from the start of a text as a whole, if it ends there. -/
theorem Token.operands_append (t : Token) {rest : List Char}
    (hrest : ∀ c ∈ rest.head?, Condition.isTokenChar c = false) :
    Condition.operands (t.chars ++ rest) = [(t.chars, rest)] := by
  have hall : ∀ c ∈ t.chars, Condition.isTokenChar c = true :=
    fun c hc => (t.plain c hc).isTokenChar
  obtain ⟨c, cs, hchars⟩ := List.exists_cons_of_ne_nil t.ne_nil
  have hquote : Condition.quotedOperand? (t.chars ++ rest) = none := by
    have hc := (t.plain c (hchars ▸ List.mem_cons_self)).not_quote
    rw [hchars, List.cons_append, Condition.quotedOperand?, if_neg (by simp [hc])]
  rw [Condition.operands, hquote, tokenOperand?_append t.ne_nil hall hrest]
  rfl

/-- The preferred way to take an operand from the start of a text takes the one that is written there,
unless a token goes on behind it. -/
theorem Operand.exists_operands (o : Operand) {rest : List Char}
    (hrest : ∀ c ∈ rest.head?, Condition.isTokenChar c = false) :
    ∃ others, Condition.operands (o.text ++ rest) = (o.text, rest) :: others := by
  cases o with
  | token t => exact ⟨[], t.operands_append hrest⟩
  | quoted mark inside isMark absent =>
    have hquote : Condition.quotedOperand? (mark :: (inside ++ mark :: rest)) =
        some (mark :: inside ++ [mark], rest) := by
      rw [Condition.quotedOperand?, if_pos isMark, cutAt_append absent]
      rfl
    refine ⟨(Condition.tokenOperand? (mark :: (inside ++ mark :: rest))).toList, ?_⟩
    have htext : (Operand.quoted mark inside isMark absent).text ++ rest =
        mark :: (inside ++ mark :: rest) := by simp [Operand.text]
    rw [htext, Condition.operands, hquote]
    rfl

theorem trimLeft_operand (o : Operand) (rest : List Char) :
    trimLeft isBlank (o.text ++ rest) = o.text ++ rest := by
  obtain ⟨c, cs, htext, hblank, -⟩ := o.exists_text
  refine trimLeft_eq_self fun d hd => ?_
  rw [htext, List.cons_append, List.head?_cons, Option.mem_some_iff] at hd
  exact hd ▸ hblank

/-- An operand with blanks in front of it is all there is. -/
theorem Operand.loneOperand?_text (o : Operand) (before : Blanks) :
    Condition.loneOperand? (before.1 ++ o.text) = some o.text := by
  have hnil : ∀ c ∈ ([] : List Char).head?, Condition.isTokenChar c = false := by simp
  obtain ⟨others, hoperands⟩ := o.exists_operands hnil
  have htrim := trimLeft_operand o []
  rw [List.append_nil] at hoperands htrim
  rw [Condition.loneOperand?, trimLeft_append before.2, htrim, hoperands]
  rfl

theorem operator?_symbol (op : Operator) {rest : List Char} (h : rest.head? ≠ some '=') :
    Condition.operator? (op.symbol.toList ++ rest) = some (op, rest) := by
  have hequal : after? ['='] rest = none := by
    cases rest with
    | nil => rfl
    | cons c rest =>
      have hc : '=' ≠ c := fun heq => h (by rw [heq]; rfl)
      simp [after?, hc]
  cases op <;> simp_all [Condition.operator?, Operator.all, Operator.symbol, after?]

end Grammar
end Arazzo
