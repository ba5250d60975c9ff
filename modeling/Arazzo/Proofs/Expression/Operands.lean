import Arazzo.Proofs.Expression.Grammar

/-!
# Operands of a text

An operand that is taken from a text is a run of characters of tokens or stands between quotation marks.
What is read as a comparison consists of two operands with an operator between them, and of blanks, and
every comparison of a condition that a text denotes has such operands.
-/

namespace Arazzo
namespace Condition

open Text Scan

variable {cs rest operand left right : List Char} {op : Operator}

inductive IsOperand : List Char → Prop
  | token {cs : List Char} : cs ≠ [] → (∀ c ∈ cs, isTokenChar c = true) → IsOperand cs
  | quoted {mark : Char} {inside : List Char} : Literal.isQuote mark = true → mark ∉ inside →
      IsOperand (mark :: inside ++ [mark])

theorem IsOperand.ne_nil (h : IsOperand cs) : cs ≠ [] := by
  cases h with
  | token hne _ => exact hne
  | quoted _ _ => simp

/-- No blank stands at the ends of an operand. -/
theorem IsOperand.isStripped (h : IsOperand cs) : IsStripped cs := by
  cases h with
  | token _ hall =>
    have hplain : ∀ c ∈ cs, isBlank c = false := by
      intro c hc
      by_contra hblank
      have htoken := hall c hc
      rw [Grammar.isTokenChar_of_isBlank (Bool.not_eq_false _ ▸ hblank)] at htoken
      cases htoken
    exact ⟨fun c hc => hplain c (List.mem_of_head? hc), fun c hc => hplain c (List.mem_of_getLast? hc)⟩
  | quoted hquote habsent => exact (Grammar.Operand.quoted _ _ hquote habsent).isPart.stripped

theorem eq_append_of_quotedOperand? (h : quotedOperand? cs = some (operand, rest)) :
    cs = operand ++ rest ∧ IsOperand operand := by
  cases cs with
  | nil => cases h
  | cons mark cs =>
    rw [quotedOperand?] at h
    split_ifs at h with hquote
    obtain ⟨⟨inside, behind⟩, hcut, hpair⟩ := Option.map_eq_some_iff.mp h
    obtain ⟨rfl, rfl⟩ := Prod.mk.inj hpair
    obtain ⟨rfl, habsent⟩ := eq_of_cutAt hcut
    exact ⟨by simp, .quoted hquote habsent⟩

theorem eq_append_of_tokenOperand? (h : tokenOperand? cs = some (operand, rest)) :
    cs = operand ++ rest ∧ IsOperand operand := by
  unfold tokenOperand? at h
  split at h
  · cases h
  · next hne =>
    obtain ⟨rfl, rfl⟩ := Prod.mk.inj (Option.some.inj h)
    exact ⟨List.takeWhile_append_dropWhile.symm, .token hne fun c hc => List.mem_takeWhile_imp hc⟩

theorem eq_append_of_mem_operands (h : (operand, rest) ∈ operands cs) :
    cs = operand ++ rest ∧ IsOperand operand := by
  rw [operands, List.mem_append, Option.mem_toList, Option.mem_toList] at h
  rcases h with h | h
  · exact eq_append_of_quotedOperand? h
  · exact eq_append_of_tokenOperand? h

/-- An operand that fills a text has nothing but blanks around it. -/
theorem exists_of_loneOperand? (h : loneOperand? cs = some operand) :
    ∃ a b, AllBlank a ∧ AllBlank b ∧ cs = a ++ (operand ++ b) ∧ IsOperand operand := by
  obtain ⟨a, ha, hcs, -⟩ := exists_trimLeft cs
  obtain ⟨⟨found, rest⟩, hmem, hfound⟩ := List.exists_of_findSome?_eq_some h
  obtain ⟨happend, hoperand⟩ := eq_append_of_mem_operands hmem
  dsimp only at hfound
  split_ifs at hfound with hblank
  obtain rfl := Option.some.inj hfound
  refine ⟨a, rest, ha, ?_, happend ▸ hcs, hoperand⟩
  exact List.dropWhile_eq_nil_iff.mp (List.isEmpty_iff.mp hblank)

/-- The lone operand of a stripped text is the text. -/
theorem eq_of_loneOperand? (hstripped : IsStripped cs) (h : loneOperand? cs = some operand) :
    operand = cs ∧ IsOperand cs := by
  obtain ⟨a, b, ha, hb, hcs, hoperand⟩ := exists_of_loneOperand? h
  have hstrip : strip cs = operand := by
    rw [hcs, ← List.append_assoc]
    exact strip_append ha hoperand.isStripped hb
  rw [hstripped.strip_eq] at hstrip
  exact ⟨hstrip.symm, hstrip ▸ hoperand⟩

theorem IsOperand.mem_operands (h : IsOperand cs) : (cs, []) ∈ operands cs := by
  rw [operands, List.mem_append, Option.mem_toList, Option.mem_toList]
  cases h with
  | @quoted mark inside hquote habsent =>
    left
    rw [List.cons_append, quotedOperand?, if_pos hquote, cutAt_append habsent]
    rfl
  | token hne hall =>
    right
    simpa using Grammar.tokenOperand?_append hne hall (by simp : ∀ c ∈ [].head?, _)

/-- An operand with blanks in front of it fills a text. -/
theorem IsOperand.loneOperand?_append (h : IsOperand cs) {a : List Char} (ha : AllBlank a) :
    loneOperand? (a ++ cs) = some cs := by
  have htrim : trimLeft isBlank (a ++ cs) = trimLeft isBlank cs := trimLeft_append ha cs
  have hsome : (loneOperand? cs).isSome = true := by
    rw [loneOperand?, trimLeft_eq_self h.isStripped.first, List.findSome?_isSome_iff]
    exact ⟨(cs, []), h.mem_operands, rfl⟩
  obtain ⟨operand, hoperand⟩ := Option.isSome_iff_exists.mp hsome
  rw [loneOperand?, htrim, ← loneOperand?, hoperand, (eq_of_loneOperand? h.isStripped hoperand).1]

theorem eq_append_of_operator? (h : operator? cs = some (op, rest)) :
    cs = op.symbol.toList ++ rest := by
  obtain ⟨found, -, hfound⟩ := List.exists_of_findSome?_eq_some h
  obtain ⟨behind, hbehind, hpair⟩ := Option.map_eq_some_iff.mp hfound
  obtain ⟨rfl, rfl⟩ := Prod.mk.inj hpair
  exact after?_eq_some_iff.mp hbehind

/-- A comparison that fills a text has nothing but blanks between its pieces and around it. -/
theorem exists_of_comparison? (h : comparison? cs = some (left, op, right)) :
    ∃ a before after b, AllBlank a ∧ AllBlank before ∧ AllBlank after ∧ AllBlank b ∧
      cs = a ++ (left ++ (before ++ (op.symbol.toList ++ (after ++ (right ++ b))))) ∧
      IsOperand left ∧ IsOperand right := by
  obtain ⟨a, ha, hcs, -⟩ := exists_trimLeft cs
  obtain ⟨⟨found, rest⟩, hmem, hfound⟩ := List.exists_of_findSome?_eq_some h
  obtain ⟨happend, hleft⟩ := eq_append_of_mem_operands hmem
  obtain ⟨⟨sign, behind⟩, hsign, hfound⟩ := Option.bind_eq_some_iff.mp hfound
  obtain ⟨last, hlast, htriple⟩ := Option.bind_eq_some_iff.mp hfound
  obtain ⟨rfl, heq⟩ := Prod.mk.inj (Option.some.inj htriple)
  obtain ⟨rfl, rfl⟩ := Prod.mk.inj heq
  obtain ⟨before, hbefore, hrest, -⟩ := exists_trimLeft rest
  obtain ⟨after, b, hafter, hb, hbehind, hright⟩ := exists_of_loneOperand? hlast
  refine ⟨a, before, after, b, ha, hbefore, hafter, hb, ?_, hleft, hright⟩
  rw [← hbehind, ← eq_append_of_operator? hsign, ← hrest, ← happend, ← hcs]

/-! ## Operands of a condition -/

/-- An operand that is taken from a text. -/
structure IsOperandIn (cs : List Char) (operand : String) : Prop where
  isOperand : IsOperand operand.toList
  subset : operand.toList ⊆ cs

/-- The values that a condition asks for are those of operands that are taken from a text. -/
inductive HasOperands (cs : List Char) : Condition → Prop
  | comparison {text left right : String} {op : Operator} : IsOperandIn cs left →
      IsOperandIn cs right → HasOperands cs (.comparison text left op right)
  | falsity {operand : String} : IsOperandIn cs operand → HasOperands cs (.falsity operand)
  | negation {inner : Condition} : HasOperands cs inner → HasOperands cs (.negation inner)
  | malformed (text : String) (cause : ExpressionCause) : HasOperands cs (.malformed text cause)
  | all {conditions : List Condition} : (∀ c ∈ conditions, HasOperands cs c) →
      HasOperands cs (.all conditions)
  | any {conditions : List Condition} : (∀ c ∈ conditions, HasOperands cs c) →
      HasOperands cs (.any conditions)

theorem IsOperandIn.mono {s : String} (h : IsOperandIn rest s) (hrest : rest ⊆ cs) :
    IsOperandIn cs s :=
  ⟨h.isOperand, List.Subset.trans h.subset hrest⟩

theorem HasOperands.mono {c : Condition} (h : HasOperands rest c) (hrest : rest ⊆ cs) :
    HasOperands cs c := by
  induction h with
  | comparison hleft hright => exact .comparison (hleft.mono hrest) (hright.mono hrest)
  | falsity hoperand => exact .falsity (hoperand.mono hrest)
  | negation _ ih => exact .negation ih
  | malformed text cause => exact .malformed text cause
  | all _ ih => exact .all ih
  | any _ ih => exact .any ih

theorem hasOperands_ofComparison (cs : List Char) : HasOperands cs (ofComparison cs) := by
  unfold ofComparison
  split
  · next left op right hcomparison =>
    obtain ⟨a, before, after, b, -, -, -, -, hcs, hleft, hright⟩ :=
      exists_of_comparison? hcomparison
    refine .comparison ⟨by rwa [String.toList_ofList], ?_⟩ ⟨by rwa [String.toList_ofList], ?_⟩
    · rw [String.toList_ofList, hcs]
      exact fun c hc => by simp [hc]
    · rw [String.toList_ofList, hcs]
      exact fun c hc => by simp [hc]
  · exact .malformed ..

theorem isStripped_of_negated? {part : List Char} (h : negated? part = some rest) :
    IsStripped rest := by
  unfold negated? at h
  split at h
  · cases h
  · next more _ =>
    obtain rfl := Option.some.inj h
    obtain ⟨-, -, -, -, -, hstripped⟩ := exists_strip more
    exact hstripped
  · cases h

theorem hasOperands_partWith {inside : List Char → Condition} {part : List Char}
    (h : ∀ text, HasOperands text (inside text)) (whole : List Char) :
    HasOperands part (partWith inside whole part) := by
  unfold partWith
  split_ifs with hempty hwrapped
  · exact .malformed ..
  · exact (h _).mono (inner_sublist part).subset
  · split
    · next rest hnegated =>
      have hrest : rest ⊆ part := (negated?_sublist hnegated).subset
      split_ifs with hwrapped
      · exact .negation ((h _).mono (List.Subset.trans (inner_sublist rest).subset hrest))
      · split
        · exact .negation ((hasOperands_ofComparison rest).mono hrest)
        · next operand hnone hlone =>
          obtain ⟨-, hoperand⟩ := eq_of_loneOperand? (isStripped_of_negated? hnegated) hlone
          exact .falsity ⟨by rwa [String.toList_ofList], by rwa [String.toList_ofList]⟩
        · exact .malformed ..
    · exact hasOperands_ofComparison part

/-- Every operand of a condition that a text denotes is taken from the text. -/
theorem hasOperands_readWithin (fuel : Nat) (cs : List Char) :
    HasOperands cs (readWithin fuel cs) := by
  induction fuel generalizing cs with
  | zero => exact .malformed ..
  | succ fuel ih =>
    rw [readWithin_succ]
    split_ifs
    · exact .malformed ..
    · refine .all (List.forall_mem_map.mpr fun group hgroup => .any (List.forall_mem_map.mpr ?_))
      intro part hpart
      have hsublist : part.Sublist cs :=
        (sublist_of_mem_split hpart).trans (sublist_of_mem_split hgroup)
      exact (hasOperands_partWith ih cs).mono hsublist.subset

theorem hasOperands_read (cs : List Char) : HasOperands cs (read cs) := hasOperands_readWithin _ cs

end Condition
end Arazzo
