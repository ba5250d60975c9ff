import Arazzo.Text.Trim
import Mathlib.Data.List.Basic
import Mathlib.Data.List.Infix
import Mathlib.Data.List.TakeWhile
import Mathlib.Tactic.SplitIfs

/-!
# Trimmed, cut and changed texts

A text is stripped if no blank stands at its ends. Stripping finds the one stripped text that is left
when blanks are taken away at both ends. A piece in which a separator does not stand ends at the first
separator behind it. When a piece is replaced, a text is read from left to right: where the piece stands
it is replaced and passed over, and every other character is kept.
-/

namespace Arazzo
namespace Text

/-! ## Stripping -/

def AllBlank (cs : List Char) : Prop := ∀ c ∈ cs, isBlank c = true

/-- No blank stands at either end. -/
structure IsStripped (cs : List Char) : Prop where
  first : ∀ c ∈ cs.head?, isBlank c = false
  last : ∀ c ∈ cs.getLast?, isBlank c = false

theorem allBlank_takeWhile (cs : List Char) : AllBlank (cs.takeWhile isBlank) :=
  fun _ hc => List.mem_takeWhile_imp hc

theorem trimLeft_append {a : List Char} (ha : AllBlank a) (cs : List Char) :
    trimLeft isBlank (a ++ cs) = trimLeft isBlank cs :=
  List.dropWhile_append_of_pos ha

theorem trimLeft_eq_self {cs : List Char} (h : ∀ c ∈ cs.head?, isBlank c = false) :
    trimLeft isBlank cs = cs := by
  cases cs with
  | nil => rfl
  | cons c cs =>
    rw [trimLeft, List.dropWhile_cons_of_neg]
    simpa using h c rfl

theorem trimLeft_allBlank {a : List Char} (ha : AllBlank a) : trimLeft isBlank a = [] :=
  List.dropWhile_eq_nil_iff.mpr ha

/-- What is trimmed on the right ends in no character of the class. -/
theorem getLast?_trimRight (p : Char → Bool) (cs : List Char) :
    ∀ c ∈ (trimRight p cs).getLast?, p c = false := by
  intro c hc
  rw [trimRight, List.getLast?_reverse] at hc
  have hstop := List.head?_dropWhile_not p cs.reverse
  rwa [Option.mem_def.mp hc] at hstop

theorem trimRight_append {b : List Char} (hb : AllBlank b) (cs : List Char) :
    trimRight isBlank (cs ++ b) = trimRight isBlank cs := by
  rw [trimRight, List.reverse_append, List.dropWhile_append_of_pos, trimRight]
  exact fun c hc => hb c (List.mem_reverse.mp hc)

theorem trimRight_eq_self {cs : List Char} (h : ∀ c ∈ cs.getLast?, isBlank c = false) :
    trimRight isBlank cs = cs := by
  rw [← List.head?_reverse] at h
  have hleft := trimLeft_eq_self h
  rw [trimLeft] at hleft
  rw [trimRight, hleft, List.reverse_reverse]

/-- Blanks around a stripped text are all that stripping takes away. -/
theorem strip_append {a cs b : List Char} (ha : AllBlank a) (h : IsStripped cs) (hb : AllBlank b) :
    strip (a ++ cs ++ b) = cs := by
  rw [strip, trim, List.append_assoc, trimLeft_append ha]
  cases cs with
  | nil =>
    rw [List.nil_append, trimLeft_allBlank hb]
    rfl
  | cons c cs =>
    rw [trimLeft_eq_self (by simpa using h.first c rfl), trimRight_append hb,
      trimRight_eq_self h.last]

theorem IsStripped.strip_eq {cs : List Char} (h : IsStripped cs) : strip cs = cs := by
  have hboth := strip_append (a := []) (b := []) (by simp [AllBlank]) h (by simp [AllBlank])
  rwa [List.nil_append, List.append_nil] at hboth

theorem isStripped_singleton {c : Char} (h : isBlank c = false) : IsStripped [c] :=
  ⟨by simpa using h, by simpa using h⟩

/-- What stands between two stripped texts does not matter. -/
theorem IsStripped.append {a b : List Char} (ha : IsStripped a) (hb : IsStripped b) (hane : a ≠ [])
    (hbne : b ≠ []) (between : List Char) : IsStripped (a ++ (between ++ b)) where
  first := by
    rw [List.head?_append_of_ne_nil a hane]
    exact ha.first
  last := by
    rw [← List.append_assoc, List.getLast?_append_of_ne_nil _ hbne]
    exact hb.last

theorem exists_trimLeft (cs : List Char) :
    ∃ a, AllBlank a ∧ cs = a ++ trimLeft isBlank cs ∧
      ∀ c ∈ (trimLeft isBlank cs).head?, isBlank c = false := by
  refine ⟨cs.takeWhile isBlank, allBlank_takeWhile cs, List.takeWhile_append_dropWhile.symm, ?_⟩
  intro c hc
  have hnot := List.head?_dropWhile_not isBlank cs
  rw [trimLeft, Option.mem_def] at hc
  rw [hc] at hnot
  exact hnot

theorem exists_trimRight (cs : List Char) :
    ∃ b, AllBlank b ∧ cs = trimRight isBlank cs ++ b ∧
      ∀ c ∈ (trimRight isBlank cs).getLast?, isBlank c = false := by
  obtain ⟨a, ha, heq, -⟩ := exists_trimLeft cs.reverse
  refine ⟨a.reverse, fun c hc => ha c (List.mem_reverse.mp hc), ?_, getLast?_trimRight isBlank cs⟩
  rw [trimRight, ← List.reverse_append]
  exact List.reverse_eq_iff.mp heq

/-- A text is its stripped form with blanks around it. -/
theorem exists_strip (cs : List Char) :
    ∃ a b, AllBlank a ∧ AllBlank b ∧ cs = a ++ strip cs ++ b ∧ IsStripped (strip cs) := by
  obtain ⟨a, ha, hleft, hfirst⟩ := exists_trimLeft cs
  obtain ⟨b, hb, hright, hlast⟩ := exists_trimRight (trimLeft isBlank cs)
  refine ⟨a, b, ha, hb, ?_, ?_, hlast⟩
  · rw [strip, trim, List.append_assoc, ← hright, ← hleft]
  · intro c hc
    refine hfirst c ?_
    -- What is left on the right is a beginning of what was left on the left.
    rw [hright, List.head?_append]
    rw [strip, trim, Option.mem_def] at hc
    rw [hc]
    rfl

theorem strip_blanks_append {a : List Char} (ha : AllBlank a) (cs : List Char) :
    strip (a ++ cs) = strip cs := by
  rw [strip, trim, trimLeft_append ha, strip, trim]

theorem strip_append_blanks {b : List Char} (hb : AllBlank b) (cs : List Char) :
    strip (cs ++ b) = strip cs := by
  obtain ⟨a, b', ha, hb', heq, hstripped⟩ := exists_strip cs
  have hblank : AllBlank (b' ++ b) := fun c hc => (List.mem_append.mp hc).elim (hb' c) (hb c)
  calc
    strip (cs ++ b) = strip (a ++ strip cs ++ (b' ++ b)) := by rw [← List.append_assoc, ← heq]
    _ = strip cs := strip_append ha hstripped hblank

theorem strip_ne_nil {c : Char} {cs : List Char} (hmem : c ∈ cs) (hc : isBlank c = false) :
    strip cs ≠ [] := by
  intro hnil
  obtain ⟨a, b, ha, hb, heq, -⟩ := exists_strip cs
  rw [hnil, List.append_nil] at heq
  rw [heq, List.mem_append] at hmem
  rcases hmem with hmem | hmem
  · rw [ha c hmem] at hc
    cases hc
  · rw [hb c hmem] at hc
    cases hc

theorem strip_sublist (cs : List Char) : (strip cs).Sublist cs := by
  obtain ⟨a, b, -, -, heq, -⟩ := exists_strip cs
  conv_rhs => rw [heq]
  exact (List.sublist_append_right a _).trans (List.sublist_append_left _ b)

/-! ## Cutting -/

section
variable {sep : Char} {piece : List Char}

theorem cutAt_append (h : sep ∉ piece) (rest : List Char) :
    cutAt sep (piece ++ sep :: rest) = some (piece, rest) := by
  induction piece with
  | nil => simp [cutAt]
  | cons c piece ih =>
    rw [List.mem_cons, not_or] at h
    simp [cutAt, Ne.symm h.1, ih h.2]

theorem cutAt_eq_none {cs : List Char} (h : sep ∉ cs) : cutAt sep cs = none := by
  induction cs with
  | nil => rfl
  | cons c cs ih =>
    rw [List.mem_cons, not_or] at h
    simp [cutAt, Ne.symm h.1, ih h.2]

theorem eq_of_cutAt {cs before after : List Char} (h : cutAt sep cs = some (before, after)) :
    cs = before ++ sep :: after ∧ sep ∉ before := by
  induction cs generalizing before with
  | nil => cases h
  | cons c cs ih =>
    rw [cutAt] at h
    split at h
    · next hc =>
      cases h
      exact ⟨by rw [hc, List.nil_append], List.not_mem_nil⟩
    · next hc =>
      obtain ⟨⟨front, back⟩, hcut, hpair⟩ := Option.map_eq_some_iff.mp h
      obtain ⟨rfl, rfl⟩ := Prod.mk.inj hpair
      obtain ⟨rfl, hfront⟩ := ih hcut
      exact ⟨rfl, fun hmem => (List.mem_cons.mp hmem).elim (fun heq => hc heq.symm) hfront⟩

theorem splitOnChar_eq_singleton (h : sep ∉ piece) : splitOnChar sep piece = [piece] := by
  induction piece with
  | nil => rfl
  | cons c piece ih =>
    rw [List.mem_cons, not_or] at h
    simp [splitOnChar, Ne.symm h.1, ih h.2]

theorem splitOnChar_append (h : sep ∉ piece) (rest : List Char) :
    splitOnChar sep (piece ++ sep :: rest) = piece :: splitOnChar sep rest := by
  induction piece with
  | nil => simp [splitOnChar]
  | cons c piece ih =>
    rw [List.mem_cons, not_or] at h
    simp [splitOnChar, Ne.symm h.1, ih h.2]

end

/-! ## Replacing -/

section
variable {piece new cs : List Char}

theorem startsWith_iff_prefix : startsWith piece cs = true ↔ piece <+: cs := by
  rw [startsWith, Option.isSome_iff_exists]
  constructor
  · rintro ⟨rest, hrest⟩
    exact ⟨rest, (after?_eq_some_iff.mp hrest).symm⟩
  · rintro ⟨rest, rfl⟩
    exact ⟨rest, after?_eq_some_iff.mpr rfl⟩

/-- The rest of an occurrence is passed over. -/
theorem replaceFrom_append (passed cs : List Char) :
    replaceFrom piece new passed.length (passed ++ cs) = replaceFrom piece new 0 cs := by
  induction passed with
  | nil => rfl
  | cons c passed ih => exact ih

theorem replace_of_ne_nil (h : piece ≠ []) : replace piece new cs = replaceFrom piece new 0 cs := by
  rw [replace, if_neg (by simpa using h)]

theorem replace_nil (piece new : List Char) : replace piece new [] = [] := by
  unfold replace
  split_ifs
  · rfl
  · exact replaceFrom.eq_1 ..

/-- Where the piece stands it is replaced. -/
theorem replace_piece_append (h : piece ≠ []) (cs : List Char) :
    replace piece new (piece ++ cs) = new ++ replace piece new cs := by
  cases piece with
  | nil => exact absurd rfl h
  | cons p piece =>
    have hstarts : startsWith (p :: piece) (p :: (piece ++ cs)) = true :=
      startsWith_iff_prefix.mpr ⟨cs, rfl⟩
    rw [replace_of_ne_nil h, replace_of_ne_nil h, List.cons_append, replaceFrom, if_pos hstarts]
    exact congrArg (new ++ ·) (replaceFrom_append piece cs)

/-- A character at which the piece does not stand is kept. -/
theorem replace_cons {c : Char} (h : ¬ piece <+: c :: cs) :
    replace piece new (c :: cs) = c :: replace piece new cs := by
  have hne : piece ≠ [] := by
    rintro rfl
    exact h List.nil_prefix
  rw [← startsWith_iff_prefix] at h
  rw [replace_of_ne_nil hne, replace_of_ne_nil hne, replaceFrom, if_neg h]

theorem replace_eq_self (h : ¬ piece <:+: cs) : replace piece new cs = cs := by
  induction cs with
  | nil => exact replace_nil piece new
  | cons c cs ih =>
    rw [List.infix_cons_iff, not_or] at h
    rw [replace_cons h.1, ih h.2]

theorem mem_replaceFrom {skip : Nat} {c : Char} (h : c ∈ replaceFrom piece new skip cs) :
    c ∈ new ∨ c ∈ cs := by
  induction cs generalizing skip with
  | nil => cases skip <;> simp [replaceFrom] at h
  | cons d cs ih =>
    cases skip with
    | succ skip => exact (ih h).imp_right (List.mem_cons_of_mem d)
    | zero =>
      rw [replaceFrom] at h
      split_ifs at h
      · rcases List.mem_append.mp h with hnew | hrest
        · exact .inl hnew
        · exact (ih hrest).imp_right (List.mem_cons_of_mem d)
      · rcases List.mem_cons.mp h with rfl | hrest
        · exact .inr List.mem_cons_self
        · exact (ih hrest).imp_right (List.mem_cons_of_mem d)

theorem mem_replace {c : Char} (h : c ∈ replace piece new cs) : c ∈ new ∨ c ∈ cs := by
  unfold replace at h
  split_ifs at h
  · exact .inr h
  · exact mem_replaceFrom h

/-- A run at a place of the new text, without the character that occurrences are replaced by, stood at
that place of the old one. -/
theorem prefix_of_prefix_replaceFrom {d : Char} {run : List Char} {skip : Nat} (hd : d ∉ run)
    (h : run <+: replaceFrom piece [d] skip cs) : run <+: cs.drop skip := by
  induction cs generalizing run skip with
  | nil =>
    rw [replaceFrom, List.prefix_nil] at h
    exact h ▸ List.nil_prefix
  | cons c cs ih =>
    cases skip with
    | succ skip => exact ih hd h
    | zero =>
      cases run with
      | nil => exact List.nil_prefix
      | cons c' run =>
        rw [List.mem_cons, not_or] at hd
        rw [replaceFrom] at h
        split_ifs at h
        · exact absurd (List.cons_prefix_cons.mp h).1.symm hd.1
        · obtain ⟨rfl, hrest⟩ := List.cons_prefix_cons.mp h
          exact List.cons_prefix_cons.mpr ⟨rfl, ih hd.2 hrest⟩

theorem infix_of_infix_replaceFrom {d : Char} {run : List Char} {skip : Nat} (hd : d ∉ run)
    (h : run <:+: replaceFrom piece [d] skip cs) : run <:+: cs := by
  induction cs generalizing skip with
  | nil => cases skip <;> exact h
  | cons c cs ih =>
    cases skip with
    | succ skip => exact List.infix_cons (ih h)
    | zero =>
      have hcons : ∃ d' skip', replaceFrom piece [d] 0 (c :: cs) =
          d' :: replaceFrom piece [d] skip' cs := by
        rw [replaceFrom]
        split_ifs
        · exact ⟨d, _, rfl⟩
        · exact ⟨c, _, rfl⟩
      obtain ⟨d', skip', heq⟩ := hcons
      rw [heq, List.infix_cons_iff, ← heq] at h
      rcases h with hfirst | hrest
      · exact (prefix_of_prefix_replaceFrom hd hfirst).isInfix
      · exact List.infix_cons (ih hrest)

theorem infix_of_infix_replace {d : Char} {run : List Char} (hd : d ∉ run)
    (h : run <:+: replace piece [d] cs) : run <:+: cs := by
  unfold replace at h
  split_ifs at h
  · exact h
  · exact infix_of_infix_replaceFrom hd h

end

end Text
end Arazzo
