import Arazzo.Expression.Scope
import Arazzo.Proofs.Expression.Scan

/-!
# Reading a condition

What a text denotes does not depend on the number of parentheses that may be opened, as long as there
are enough. A part in parentheses denotes what stands inside them, and parts with separators between
them denote what each of them denotes by itself.
-/

namespace Arazzo
namespace Condition

open Text Scan

variable {cs whole part gap : List Char} {inside : List Char → Condition}

/-- The condition that a part of a text denotes, given what stands for a text in parentheses. -/
def partWith (inside : List Char → Condition) (whole part : List Char) : Condition :=
  if part.isEmpty then .malformed (String.ofList whole) .missingOperand
  else if isWrapped part then inside (inner part)
  else match negated? part with
    | some rest =>
      if isWrapped rest then .negation (inside (inner rest))
      else match comparison? rest, loneOperand? rest with
        | some _, _ => .negation (ofComparison rest)
        | none, some _ => .falsity (String.ofList rest)
        | none, none => .malformed (String.ofList part) .invalidNegation
    | none => ofComparison part

theorem readWithin_succ (fuel : Nat) (cs : List Char) :
    readWithin (fuel + 1) cs =
      if (strip cs).isEmpty then .malformed (String.ofList cs) .emptyCondition
      else .all ((split ['&', '&'] cs).map fun group =>
        .any ((split ['|', '|'] group).map (partWith (readWithin fuel) cs))) := rfl

theorem length_inner (h : isWrapped part = true) : (inner part).length + 2 = part.length := by
  have hlength := congrArg List.length (eq_of_isWrapped h)
  rw [List.length_append, List.length_cons, List.length_singleton] at hlength
  omega

theorem inner_sublist (cs : List Char) : (inner cs).Sublist cs :=
  (List.dropLast_sublist _).trans (List.drop_sublist 1 cs)

theorem negated?_sublist {rest : List Char} (h : negated? part = some rest) :
    rest.Sublist part := by
  unfold negated? at h
  split at h
  · cases h
  · rename_i more _
    obtain rfl := Option.some.inj h
    exact (strip_sublist more).cons '!'
  · cases h

/-- Only what stands in the parentheses of a part is read in turn. -/
theorem partWith_congr {inside' : List Char → Condition}
    (h : ∀ text, text.length + 2 ≤ part.length → inside text = inside' text) :
    partWith inside whole part = partWith inside' whole part := by
  unfold partWith
  split_ifs with _ hwrapped
  · rfl
  · exact h _ (length_inner hwrapped).le
  · cases hnegated : negated? part with
    | none => rfl
    | some rest =>
      dsimp only
      split_ifs with hrest
      · rw [h (inner rest) ((length_inner hrest).trans_le (negated?_sublist hnegated).length_le)]
      · rfl

theorem readWithin_eq {fuel fuel' : Nat} (h : cs.length < fuel) (h' : cs.length < fuel') :
    readWithin fuel cs = readWithin fuel' cs := by
  induction fuel generalizing fuel' cs with
  | zero => exact absurd h (Nat.not_lt_zero _)
  | succ fuel ih =>
    cases fuel' with
    | zero => exact absurd h' (Nat.not_lt_zero _)
    | succ fuel' =>
      rw [readWithin_succ, readWithin_succ]
      have hgroups : ∀ group ∈ split ['&', '&'] cs, ∀ part ∈ split ['|', '|'] group,
          partWith (readWithin fuel) cs part = partWith (readWithin fuel') cs part := by
        intro group hgroup part hpart
        have hlength : part.length ≤ cs.length :=
          ((sublist_of_mem_split hpart).trans (sublist_of_mem_split hgroup)).length_le
        exact partWith_congr fun text htext => ih (by omega) (by omega)
      rw [List.map_congr_left fun group hgroup =>
        congrArg Condition.any (List.map_congr_left (hgroups group hgroup))]

/-- A text denotes the conjunction of its groups, and each group the disjunction of its parts. -/
theorem read_eq (h : strip cs ≠ []) :
    read cs = .all ((split ['&', '&'] cs).map fun group =>
      .any ((split ['|', '|'] group).map (partWith read cs))) := by
  have hblank : ¬ (strip cs).isEmpty = true := by rwa [List.isEmpty_iff]
  rw [read, readWithin_succ, if_neg hblank]
  have hgroups : ∀ group ∈ split ['&', '&'] cs, ∀ part ∈ split ['|', '|'] group,
      partWith (readWithin cs.length) cs part = partWith read cs part := by
    intro group hgroup part hpart
    have hlength : part.length ≤ cs.length :=
      ((sublist_of_mem_split hpart).trans (sublist_of_mem_split hgroup)).length_le
    exact partWith_congr fun text htext => readWithin_eq (by omega) (Nat.lt_succ_self _)
  rw [List.map_congr_left fun group hgroup =>
    congrArg Condition.any (List.map_congr_left (hgroups group hgroup))]

/-! ## Parts -/

/-- A text that decides nothing about the text around it. -/
structure IsNeutral (cs : List Char) : Prop where
  closed : Closed cs
  undivided : ∀ mark ∈ ['&', '|'], Undivided mark start cs

theorem IsNeutral.append {a b : List Char} (ha : IsNeutral a) (hb : IsNeutral b) :
    IsNeutral (a ++ b) where
  closed := ha.closed.append hb.closed
  undivided := fun mark hmark =>
    (ha.undivided mark hmark).append ha.closed (hb.undivided mark hmark)

theorem isNeutral_of_plain (h : ∀ c ∈ cs, isDelimiter c = false) (hand : '&' ∉ cs)
    (hor : '|' ∉ cs) : IsNeutral cs where
  closed := closed_of_plain h
  undivided := by
    intro mark hmark
    simp only [List.mem_cons, List.not_mem_nil, or_false] at hmark
    rcases hmark with rfl | rfl
    · exact undivided_of_not_mem hand
    · exact undivided_of_not_mem hor

theorem isNeutral_of_allBlank (h : AllBlank cs) : IsNeutral cs :=
  isNeutral_of_plain (fun c hc => isDelimiter_of_isBlank (h c hc))
    (fun hmem => absurd (h '&' hmem) (by decide)) (fun hmem => absurd (h '|' hmem) (by decide))

/-- A text that stands as one part of a condition. -/
structure IsPart (cs : List Char) : Prop extends IsNeutral cs where
  stripped : IsStripped cs
  ne_nil : cs ≠ []

theorem IsPart.strip_ne_nil (h : IsPart cs) : strip cs ≠ [] := by
  rw [h.stripped.strip_eq]
  exact h.ne_nil

/-- Parts with a neutral text between them are a part. -/
theorem IsPart.append {a b : List Char} (ha : IsPart a) (hb : IsPart b) {between : List Char}
    (h : IsNeutral between) : IsPart (a ++ (between ++ b)) where
  toIsNeutral := ha.toIsNeutral.append (h.append hb.toIsNeutral)
  stripped := ha.stripped.append hb.stripped ha.ne_nil hb.ne_nil between
  ne_nil := List.append_ne_nil_of_left_ne_nil ha.ne_nil _

theorem isPart_enclosed (h : Closed cs) : IsPart ('(' :: cs ++ [')']) where
  closed := h.enclosed
  undivided := fun _ _ => h.undivided_enclosed
  stripped := (isStripped_singleton (c := '(') (by decide)).append
    (isStripped_singleton (c := ')') (by decide)) (by simp) (by simp) cs
  ne_nil := by simp

/-- An exclamation mark in front of a part gives a part. -/
theorem IsPart.negated (h : IsPart cs) (hgap : AllBlank gap) : IsPart ('!' :: (gap ++ cs)) := by
  have hsign : IsPart ['!'] :=
    ⟨isNeutral_of_plain (forall_eq_false rfl) (by decide) (by decide),
      isStripped_singleton (by decide), by simp⟩
  exact hsign.append h (isNeutral_of_allBlank hgap)

/-- A part that begins with neither a parenthesis nor an exclamation mark is a comparison. -/
theorem partWith_cons {c : Char} (hopen : c ≠ '(') (hmark : c ≠ '!')
    (inside : List Char → Condition) (whole : List Char) :
    partWith inside whole (c :: cs) = ofComparison (c :: cs) := by
  have hne : ¬ (c :: cs).isEmpty = true := by simp
  have hwrapped : ¬ isWrapped (c :: cs) = true := by
    rw [isWrapped_cons_of_ne hopen]
    exact Bool.false_ne_true
  have hnegated : negated? (c :: cs) = none := by
    unfold negated?
    split
    · rfl
    · rename_i heq
      exact absurd (List.cons.inj heq).1 hmark
    · rfl
  rw [partWith, if_neg hne, if_neg hwrapped, hnegated]

theorem partWith_enclosed (h : Closed cs) (inside : List Char → Condition) (whole : List Char) :
    partWith inside whole ('(' :: cs ++ [')']) = inside cs := by
  have hne : ¬ ('(' :: cs ++ [')']).isEmpty = true := by simp
  rw [partWith, if_neg hne, if_pos h.isWrapped_enclosed, inner_enclosed]

/-- Behind an exclamation mark stands what follows it, unless an equality sign makes it an operator. -/
theorem negated?_eq (hgap : AllBlank gap) (h : IsStripped cs) (hequal : cs.head? ≠ some '=') :
    negated? ('!' :: (gap ++ cs)) = some cs := by
  have hstrip : strip (gap ++ cs) = cs := by rw [strip_blanks_append hgap, h.strip_eq]
  have hhead : ∀ rest, gap ++ cs ≠ '=' :: rest := by
    intro rest hrest
    cases gap with
    | nil => exact hequal (by rw [← List.nil_append cs, hrest]; rfl)
    | cons c gap =>
      obtain rfl := (List.cons.inj hrest).1
      exact absurd (hgap '=' List.mem_cons_self) (by decide)
  unfold negated?
  split
  · rename_i rest heq
    exact absurd (List.cons.inj heq).2 (hhead rest)
  · rename_i rest _ heq
    rw [← (List.cons.inj heq).2, hstrip]
  · rename_i hnot
    exact absurd rfl (hnot _)

theorem partWith_negated (hgap : AllBlank gap) (h : IsStripped cs)
    (hequal : cs.head? ≠ some '=') (inside : List Char → Condition) (whole : List Char) :
    partWith inside whole ('!' :: (gap ++ cs)) =
      if isWrapped cs then .negation (inside (inner cs))
      else match comparison? cs, loneOperand? cs with
        | some _, _ => .negation (ofComparison cs)
        | none, some _ => .falsity (String.ofList cs)
        | none, none => .malformed (String.ofList ('!' :: (gap ++ cs))) .invalidNegation := by
  have hne : ¬ ('!' :: (gap ++ cs)).isEmpty = true := by simp
  have hwrapped : ¬ isWrapped ('!' :: (gap ++ cs)) = true := by
    rw [isWrapped_cons_of_ne (by decide)]
    exact Bool.false_ne_true
  rw [partWith, if_neg hne, if_neg hwrapped, negated?_eq hgap h hequal]

theorem partWith_negated_enclosed (hgap : AllBlank gap) (h : Closed cs)
    (inside : List Char → Condition) (whole : List Char) :
    partWith inside whole ('!' :: (gap ++ ('(' :: cs ++ [')']))) = .negation (inside cs) := by
  rw [partWith_negated hgap (isPart_enclosed h).stripped (by simp), if_pos h.isWrapped_enclosed,
    inner_enclosed]

end Condition
end Arazzo
