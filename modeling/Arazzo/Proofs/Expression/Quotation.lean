import Arazzo.Proofs.Expression.Denotation
import Arazzo.Proofs.Expression.Grouping
import Arazzo.Proofs.Expression.NumericText
import Arazzo.Proofs.Expression.Operands
import Arazzo.Proofs.Expression.PathTokens

/-!
# Conditions between quotation marks

Quotation marks may stand in an operand that is not quoted. So a text between quotation marks is a
comparison if an operator stands in it with nothing but characters of tokens on both sides and blanks
around it: each mark then belongs to the operand next to it. Any other text between quotation marks is
no comparison, and its negation says whether it is empty.
-/

namespace Arazzo

open Text

namespace Condition

variable {quote : Char} {s left right l r : List Char} {op : Operator}

/-- An operator divides a text, with blanks around it and characters of tokens on both sides. -/
inductive IsDivided (left : List Char) (op : Operator) (right : List Char) : List Char → Prop
  | intro {before after : List Char} : (∀ c ∈ left, isTokenChar c = true) → AllBlank before →
      AllBlank after → (∀ c ∈ right, isTokenChar c = true) →
      IsDivided left op right (left ++ (before ++ (op.symbol.toList ++ (after ++ right))))

theorem ne_of_isQuote {c : Char} (h : Literal.isQuote quote = true) (hc : Literal.isQuote c = false) :
    quote ≠ c := by
  rintro rfl
  rw [h] at hc
  cases hc

theorem isTokenChar_of_isQuote (h : Literal.isQuote quote = true) : isTokenChar quote = true := by
  rcases Literal.eq_of_isQuote h with rfl | rfl <;> decide

/-- An operand that does not stand between two equal characters is a token. -/
theorem IsOperand.isTokenChar (h : IsOperand l) (hends : ∀ mark inside, l ≠ mark :: inside ++ [mark]) :
    ∀ c ∈ l, isTokenChar c = true := by
  cases h with
  | token _ hall => exact hall
  | quoted _ _ => exact absurd rfl (hends _ _)

/-- A comparison that is read between quotation marks is divided by its operator. -/
theorem isDivided_of_comparison? (hquote : Literal.isQuote quote = true) (habsent : quote ∉ s)
    (h : comparison? (quote :: s ++ [quote]) = some (l, op, r)) :
    ∃ left right, l = quote :: left ∧ r = right ++ [quote] ∧ IsDivided left op right s := by
  obtain ⟨a, before, after, b, ha, hbefore, hafter, hb, hcs, hl, hr⟩ := exists_of_comparison? h
  have hblank : isBlank quote = false := (Grammar.not_blank_of_isQuote hquote).1
  obtain rfl : a = [] := by
    cases a with
    | nil => rfl
    | cons c a =>
      obtain rfl : quote = c := (List.cons.inj hcs).1
      exact absurd (ha _ List.mem_cons_self) (by simp [hblank])
  obtain ⟨c, left, rfl⟩ := List.exists_cons_of_ne_nil hl.ne_nil
  obtain ⟨rfl, hcs⟩ := List.cons.inj hcs
  rcases List.eq_nil_or_concat b with rfl | ⟨b, c, rfl⟩
  · obtain ⟨right, c, rfl⟩ := (List.eq_nil_or_concat r).resolve_left hr.ne_nil
    have hconcat : s ++ [quote] =
        left ++ (before ++ (op.symbol.toList ++ (after ++ right))) ++ [c] := by simpa using hcs
    obtain ⟨rfl, hc⟩ := List.append_inj' hconcat rfl
    obtain rfl : quote = c := List.singleton_inj.mp hc
    simp only [List.mem_append, not_or] at habsent
    obtain ⟨hleft, -, -, -, hright⟩ := habsent
    have hleft : ∀ c ∈ quote :: left, isTokenChar c = true := by
      refine hl.isTokenChar fun mark inside heq => hleft ?_
      obtain ⟨rfl, rfl⟩ := List.cons.inj heq
      exact List.mem_concat_self
    have hright : ∀ c ∈ right ++ [quote], isTokenChar c = true := by
      rw [List.concat_eq_append] at hr
      refine hr.isTokenChar fun mark inside heq => hright ?_
      obtain ⟨rfl, hmark⟩ := List.append_inj' heq rfl
      exact List.singleton_inj.mp hmark ▸ List.mem_cons_self
    refine ⟨left, right, rfl, List.concat_eq_append, .intro ?_ hbefore hafter ?_⟩
    · exact fun c hc => hleft c (List.mem_cons_of_mem _ hc)
    · exact fun c hc => hright c (List.mem_append_left _ hc)
  · have hconcat : s ++ [quote] =
        left ++ (before ++ (op.symbol.toList ++ (after ++ (r ++ b)))) ++ [c] := by simpa using hcs
    obtain ⟨-, hlast⟩ := List.append_inj' hconcat rfl
    obtain rfl : quote = c := List.singleton_inj.mp hlast
    exact absurd (hb quote (by simp)) (by simp [hblank])

theorem quotedOperand?_quoted (hquote : Literal.isQuote quote = true) (habsent : quote ∉ s) :
    quotedOperand? (quote :: s ++ [quote]) = some (quote :: s ++ [quote], []) := by
  rw [List.cons_append, quotedOperand?, if_pos hquote, cutAt_append habsent]
  rfl

/-- Where an operator divides the text between quotation marks, the marks go to the operands. -/
theorem comparison?_of_isDivided (hquote : Literal.isQuote quote = true)
    (h : IsDivided left op right s) (habsent : quote ∉ s) :
    comparison? (quote :: s ++ [quote]) = some (quote :: left, op, right ++ [quote]) := by
  have hall := isTokenChar_of_isQuote hquote
  have hblank := (Grammar.not_blank_of_isQuote hquote).1
  have hwhole := quotedOperand?_quoted hquote habsent
  cases h with
  | @intro before after hleft hbefore hafter hright =>
    obtain ⟨sign, more, hsymbol, hsignBlank, hsignToken⟩ := Grammar.exists_symbol op
    have hsign : ∀ rest, ∀ c ∈ (op.symbol.toList ++ rest).head?, c = sign := by
      intro rest c hc
      rw [hsymbol, List.cons_append, List.head?_cons, Option.mem_some_iff] at hc
      exact hc.symm
    have htoken : tokenOperand? (quote :: (left ++ (before ++ (op.symbol.toList ++
        (after ++ right)))) ++ [quote]) = some (quote :: left,
          before ++ (op.symbol.toList ++ (after ++ (right ++ [quote])))) := by
      have hends : ∀ c ∈ (before ++ (op.symbol.toList ++ (after ++ (right ++ [quote])))).head?,
          isTokenChar c = false :=
        Grammar.head?_blanks_append ⟨before, hbefore⟩ (fun _ => Grammar.isTokenChar_of_isBlank)
          fun c hc => hsign _ c hc ▸ hsignToken
      have htake := Grammar.tokenOperand?_append (List.cons_ne_nil quote left)
        (List.forall_mem_cons.mpr ⟨hall, hleft⟩) hends
      simpa using htake
    have hclosing : ∀ c ∈ right ++ [quote], isTokenChar c = true :=
      List.forall_mem_append.mpr ⟨hright, List.forall_mem_singleton.mpr hall⟩
    have hequal : ∀ c ∈ (after ++ (right ++ [quote])).head?, c ≠ '=' := by
      refine Grammar.head?_blanks_append ⟨after, hafter⟩ ?_ fun c hc heq => ?_
      · exact fun c hc heq => absurd (heq ▸ hc) (by decide)
      · exact absurd (hclosing c (List.mem_of_head? hc)) (heq ▸ by decide)
    have hoperator := Grammar.operator?_symbol op fun hhead => hequal '=' hhead rfl
    have hlone := (IsOperand.token (by simp) hclosing).loneOperand?_append hafter
    have htrim : trimLeft isBlank (before ++ (op.symbol.toList ++ (after ++ (right ++ [quote])))) =
        op.symbol.toList ++ (after ++ (right ++ [quote])) := by
      rw [trimLeft_append hbefore, trimLeft_eq_self fun c hc => hsign _ c hc ▸ hsignBlank]
    -- The whole text, which is the preferred operand, leaves nothing for an operator.
    have hnothing : operator? (trimLeft isBlank []) = none := by decide
    rw [comparison?, trimLeft_eq_self (by simp [hblank]), operands, hwhole, htoken]
    simp [hnothing, htrim, hoperator, hlone]

theorem comparison?_quoted_iff (hquote : Literal.isQuote quote = true) (habsent : quote ∉ s) :
    comparison? (quote :: s ++ [quote]) = some (l, op, r) ↔
      ∃ left right, l = quote :: left ∧ r = right ++ [quote] ∧ IsDivided left op right s := by
  constructor
  · exact isDivided_of_comparison? hquote habsent
  · rintro ⟨left, right, rfl, rfl, h⟩
    exact comparison?_of_isDivided hquote h habsent

end Condition

namespace Scope

open Condition

variable {quote : Char} {s left right : List Char} {op : Operator}

/-! ## Operands with one of the marks -/

/-- A text that a quotation mark keeps from being a word or a number denotes itself. -/
theorem operand_of_mem_quote (scope : Scope) {cs : List Char}
    (hquote : Literal.isQuote quote = true) (hmem : quote ∈ cs) (hreference : cs.head? ≠ some '$')
    (hunquote : Literal.unquote? cs = none) (hline : cs.getLast? ≠ some '\n') :
    scope.operand (String.ofList cs) = .ok (.text (String.ofList cs)) := by
  have hwords : ∀ word ∈ Grammar.Token.words, quote ∉ word.toList := by
    rcases Literal.eq_of_isQuote hquote with rfl | rfl <;> decide
  have hnumber : Literal.number? cs = .ok none := by
    rw [Literal.number?, (Numeral.shape?_eq_none_iff hline).mpr
      (Literal.not_isNumeral_of_quote hquote hmem)]
  have hword : ∀ word ∈ Grammar.Token.words, String.ofList cs ≠ word := by
    intro word hin heq
    exact hwords word hin (by rwa [← heq, String.toList_ofList])
  simp only [Grammar.Token.words, List.forall_mem_cons] at hword
  obtain ⟨htrue, hfalse, hnull, -⟩ := hword
  rw [operand_literal scope (by rwa [String.toList_ofList]), Literal.value, String.toList_ofList,
    hunquote, hnumber]
  simp only [if_neg htrue, if_neg hfalse, if_neg hnull]
  rfl

theorem operand_opened (scope : Scope) (hquote : Literal.isQuote quote = true)
    (habsent : quote ∉ left) (hleft : ∀ c ∈ left, isTokenChar c = true) :
    scope.operand (String.ofList (quote :: left)) =
      .ok (.text (String.ofList (quote :: left))) := by
  have hreference : (quote :: left).head? ≠ some '$' := by
    simpa using ne_of_isQuote hquote rfl
  have hunquote : Literal.unquote? (quote :: left) = none := by
    rw [Literal.unquote?, if_neg]
    exact fun h => habsent (List.mem_of_getLast? h.2)
  refine operand_of_mem_quote scope hquote List.mem_cons_self hreference hunquote fun hline => ?_
  rcases List.mem_cons.mp (List.mem_of_getLast? hline) with rfl | hmem
  · cases hquote
  · exact absurd (hleft _ hmem) (by decide)

theorem operand_closed (scope : Scope) (hquote : Literal.isQuote quote = true)
    (habsent : quote ∉ right) (hreference : right.head? ≠ some '$') :
    scope.operand (String.ofList (right ++ [quote])) =
      .ok (.text (String.ofList (right ++ [quote]))) := by
  have hline : (right ++ [quote]).getLast? ≠ some '\n' := by
    simpa using ne_of_isQuote hquote rfl
  cases right with
  | nil =>
    exact operand_of_mem_quote scope hquote (by simp)
      (by simpa using ne_of_isQuote hquote rfl) (by simp [Literal.unquote?]) hline
  | cons c right =>
    have hfirst : quote ≠ c := fun heq => habsent (heq ▸ List.mem_cons_self)
    exact operand_of_mem_quote scope hquote (by simp) hreference
      (by simp [Literal.unquote?, hfirst]) hline

/-- A reference that the mark behind it belongs to has no path. -/
theorem operand_reference_closed (scope : Scope) (hquote : Literal.isQuote quote = true)
    (habsent : quote ∉ right) (hreference : right.head? = some '$') :
    scope.operand (String.ofList (right ++ [quote])) =
      .error (scope.expressionFault (String.ofList (right ++ [quote])) .invalidPath) := by
  cases right with
  | nil => cases hreference
  | cons c more =>
    obtain rfl := Option.some.inj hreference
    have hread : Path.read? (more ++ [quote]) = none :=
      Path.read?_concat_quote hquote fun hmem => habsent (List.mem_cons_of_mem _ hmem)
    have hhead : ('$' :: more ++ [quote]).head? = some '$' := rfl
    rw [operand, denoted, String.toList_ofList, if_pos hhead, query, find, String.toList_ofList,
      List.cons_append, List.drop_one, List.tail_cons, hread]
    rfl

/-! ## Verdicts -/

/-- A text between quotation marks. -/
def quotation (quote : Char) (s : List Char) : String := String.ofList (quote :: s ++ [quote])

/-- The verdict on two operands that denote themselves. -/
def textVerdict (text left : String) (op : Operator) (right : String) : Verdict :=
  if op.holds (.text left) (.text right) then .ofBool true
  else ⟨[⟨.text left, op, .text right, text⟩], .ok false⟩

theorem truthy_ofList (cs : List Char) : (Value.text (String.ofList cs)).truthy = !cs.isEmpty := by
  have hempty : String.ofList cs = "" ↔ cs = [] := by
    rw [← String.toList_inj, String.toList_ofList, String.toList_empty]
  rw [Bool.eq_iff_iff]
  simp [Value.truthy, hempty]

theorem compareOperands_texts {reader : Condition.Reader} {text l r : String} (op : Operator)
    (hl : reader.value l = .ok (.text l)) (hr : reader.value r = .ok (.text r)) :
    compareOperands reader text l op r = textVerdict text l op r := by
  have hcompare : Comparison.compare (.text l) op (.text r) =
      .ok (op.holds (.text l) (.text r)) := rfl
  simp only [compareOperands, hl, hr, hcompare, textVerdict]
  cases op.holds (.text l) (.text r) <;> rfl

theorem judge_eq_ofComparison (scope : Scope) (hquote : Literal.isQuote quote = true)
    (habsent : quote ∉ s) :
    scope.judge (quotation quote s) =
      (ofComparison (quote :: s ++ [quote])).evaluate scope.reader := by
  have hpart : IsPart (quote :: s ++ [quote]) := (Grammar.Operand.quoted quote s hquote habsent).isPart
  rw [judge, quotation, String.toList_ofList, hpart.evaluate_read, List.cons_append,
    partWith_cons (ne_of_isQuote hquote rfl) (ne_of_isQuote hquote rfl)]

theorem judge_negated_quotation (scope : Scope) (hquote : Literal.isQuote quote = true)
    (habsent : quote ∉ s) :
    scope.judge ("!" ++ quotation quote s) =
      if (comparison? (quote :: s ++ [quote])).isSome then (scope.judge (quotation quote s)).not
      else .ofBool s.isEmpty := by
  have hpart : IsPart (quote :: s ++ [quote]) := (Grammar.Operand.quoted quote s hquote habsent).isPart
  have hgap : AllBlank [] := List.forall_mem_nil _
  have hlone : loneOperand? (quote :: s ++ [quote]) = some (quote :: s ++ [quote]) :=
    (IsOperand.quoted hquote habsent).loneOperand?_append hgap
  have hwrapped : Scan.isWrapped (quote :: s ++ [quote]) = false :=
    Scan.isWrapped_cons_of_ne (ne_of_isQuote hquote rfl) _
  have hequal : (quote :: s ++ [quote]).head? ≠ some '=' := by
    simpa using ne_of_isQuote hquote rfl
  have htext : ("!" ++ quotation quote s).toList = '!' :: ([] ++ (quote :: s ++ [quote])) := by
    simp [quotation]
  rw [judge_eq_ofComparison scope hquote habsent, judge, htext, (hpart.negated hgap).evaluate_read,
    partWith_negated hgap hpart.stripped hequal, hwrapped, hlone]
  cases hcomparison : comparison? (quote :: s ++ [quote]) with
  | some found => rfl
  | none =>
    have hvalue : scope.reader.value (String.ofList (quote :: s ++ [quote])) =
        .ok (.text (String.ofList s)) := operand_quoted scope hquote s
    have hfalsity : (falsity (String.ofList (quote :: s ++ [quote]))).evaluate scope.reader =
        .ofBool s.isEmpty := by
      rw [evaluate, hvalue]
      simp [truthy_ofList]
    exact hfalsity

/-- A text between quotation marks is no condition and counts as false exactly if it is empty, unless an
operator divides it. Then what stands in front of the operator and what stands behind it are compared,
each with a quotation mark, as texts; with a reference behind the operator there is no value, as the
mark spoils its path. -/
theorem judge_quotation (scope : Scope) (hquote : Literal.isQuote quote = true)
    (habsent : quote ∉ s) :
    ((¬ ∃ left op right, IsDivided left op right s) →
      scope.judge (quotation quote s) =
        .fault (scope.expressionFault (quotation quote s) .notAComparison) ∧
      scope.judge ("!" ++ quotation quote s) = .ofBool s.isEmpty) ∧
    ∀ left op right, IsDivided left op right s →
      (right.head? ≠ some '$' →
        scope.judge (quotation quote s) = textVerdict (quotation quote s)
          (String.ofList (quote :: left)) op (String.ofList (right ++ [quote]))) ∧
      (right.head? = some '$' →
        scope.judge (quotation quote s) =
          .fault (scope.expressionFault (String.ofList (right ++ [quote])) .invalidPath)) ∧
      scope.judge ("!" ++ quotation quote s) = (scope.judge (quotation quote s)).not := by
  have hjudge := judge_eq_ofComparison scope hquote habsent
  have hnegated := judge_negated_quotation scope hquote habsent
  refine ⟨fun hdivided => ?_, fun left op right hdivided => ?_⟩
  · have hnone : comparison? (quote :: s ++ [quote]) = none := by
      refine Option.eq_none_iff_forall_not_mem.mpr ?_
      rintro ⟨l, op, r⟩ hsome
      obtain ⟨left, right, -, -, hfound⟩ := (comparison?_quoted_iff hquote habsent).mp hsome
      exact hdivided ⟨left, op, right, hfound⟩
    rw [hnone] at hnegated
    refine ⟨?_, hnegated⟩
    rw [hjudge, ofComparison, hnone]
    rfl
  · have hsome := comparison?_of_isDivided hquote hdivided habsent
    have hcompare : scope.judge (quotation quote s) =
        compareOperands scope.reader (quotation quote s) (String.ofList (quote :: left)) op
          (String.ofList (right ++ [quote])) := by
      rw [hjudge, ofComparison, hsome]
      rfl
    rw [hsome] at hnegated
    cases hdivided with
    | @intro before after hleft _ _ _ =>
      simp only [List.mem_append, not_or] at habsent
      obtain ⟨habsentLeft, -, -, -, habsentRight⟩ := habsent
      have hopened : scope.reader.value (String.ofList (quote :: left)) =
          .ok (.text (String.ofList (quote :: left))) :=
        operand_opened scope hquote habsentLeft hleft
      refine ⟨fun hreference => ?_, fun hreference => ?_, hnegated⟩
      · rw [hcompare]
        exact compareOperands_texts op hopened (operand_closed scope hquote habsentRight hreference)
      · have hclosed : scope.reader.value (String.ofList (right ++ [quote])) = _ :=
          operand_reference_closed scope hquote habsentRight hreference
        rw [hcompare, compareOperands, hopened, hclosed]

/-- A conjunction between quotation marks is no condition, a comparison with a reference between them has
no value. -/
theorem judge_quotation_signs : Literal.isQuote '\x22' = true ∧
    '\x22' ∉ "a && b".toList ∧ '\x22' ∉ "200 == $statusCode".toList ∧
    ∀ scope : Scope,
      scope.judge (quotation '\x22' "a && b".toList) =
        .fault (scope.expressionFault "\"a && b\"" .notAComparison) ∧
      scope.judge ("!" ++ quotation '\x22' "a && b".toList) = .ofBool false ∧
      scope.judge (quotation '\x22' "200 == $statusCode".toList) =
        .fault (scope.expressionFault "$statusCode\"" .invalidPath) := by
  have hquote : Literal.isQuote '\x22' = true := rfl
  have hjoined : '\x22' ∉ "a && b".toList := by decide
  have hcompared : '\x22' ∉ "200 == $statusCode".toList := by decide
  have hundivided : ¬ ∃ left op right, IsDivided left op right "a && b".toList := by
    rintro ⟨left, op, right, hdivided⟩
    have hnone : comparison? ('\x22' :: "a && b".toList ++ ['\x22']) = none := by decide +kernel
    rw [comparison?_of_isDivided hquote hdivided hjoined] at hnone
    cases hnone
  have hdivided : IsDivided "200".toList .equal "$statusCode".toList "200 == $statusCode".toList :=
    .intro (List.all_eq_true.mp rfl) allBlank_space allBlank_space (List.all_eq_true.mp rfl)
  refine ⟨hquote, hjoined, hcompared, fun scope => ?_⟩
  obtain ⟨hfault, hfalse⟩ := (judge_quotation scope hquote hjoined).1 hundivided
  obtain ⟨-, hpath, -⟩ := (judge_quotation scope hquote hcompared).2 _ _ _ hdivided
  exact ⟨hfault, hfalse, hpath rfl⟩

/-- Between quotation marks an operator makes a text a comparison. -/
theorem judge_divided_quotation :
    (judge ⟨⟨.map [], []⟩, default⟩ "\"a==b\"").outcome = .ok false ∧
    (judge ⟨⟨.map [], []⟩, default⟩ "!\"a==b\"").outcome = .ok true := by
  decide +kernel

end Scope
end Arazzo
