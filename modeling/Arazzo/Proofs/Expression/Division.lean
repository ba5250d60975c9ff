import Arazzo.Proofs.Expression.Scan
import Mathlib.Data.List.Forall2
import Mathlib.Order.Bounds.Basic

/-!
# Where a text is divided

A separator divides a text where it stands outside quotation marks with as many parentheses closed as
opened. The division takes the first such place, goes on behind the separator, and so on; there is one
such division of a text only. Its segments without the blanks at their ends are the parts of the text,
and none of them is divided again.
-/

namespace Arazzo
namespace Scan

open Text

variable {separator cs s rest : List Char} {segs : List (List Char)} {i : Nat}

/-- A separator stands at a position of a text, outside quotation marks and with as many parentheses
closed as opened before it. -/
def DividesAt (separator cs : List Char) (i : Nat) : Prop :=
  Level (cs.take i) ∧ separator <+: cs.drop i

/-- The text in front of a segment: the segments before it, each with the separator behind it. -/
def inFront (separator : List Char) (front : List (List Char)) : List Char :=
  front.flatMap (· ++ separator)

/-- The division of a text at the separators that are met from left to right: each segment but the last
one ends at the first place behind the separator before it where the text is divided, and behind the
last separator there is no such place. -/
structure IsDivision (separator cs : List Char) (segs : List (List Char)) : Prop where
  ne_nil : segs ≠ []
  intercalate_eq : separator.intercalate segs = cs
  level : ∀ s ∈ segs.dropLast, Level s
  leftmost : ∀ front s back, segs = front ++ s :: back → back ≠ [] →
    IsLeast {i | (inFront separator front).length ≤ i ∧ DividesAt separator cs i}
      (inFront separator front ++ s).length
  last : ∀ front s, segs = front ++ [s] →
    ∀ i, DividesAt separator cs i → i < (inFront separator front).length

/-! ## Places in parts of a text -/

theorem DividesAt.lt_length (h : DividesAt separator cs i) (hne : separator ≠ []) : i < cs.length := by
  by_contra hle
  have hprefix := h.2
  rw [List.drop_eq_nil_of_le (Nat.le_of_not_lt hle), List.prefix_nil] at hprefix
  exact hne hprefix

theorem DividesAt.append (h : DividesAt separator cs i) (hne : separator ≠ []) (rest : List Char) :
    DividesAt separator (cs ++ rest) i := by
  have hle := (h.lt_length hne).le
  refine ⟨?_, ?_⟩
  · rw [List.take_append_of_le_length hle]
    exact h.1
  · rw [List.drop_append_of_le_length hle]
    exact h.2.trans (List.prefix_append _ _)

/-- What a level text in front does to the places is to move them. -/
theorem dividesAt_append_iff (hs : Level s) :
    DividesAt separator (s ++ cs) (s.length + i) ↔ DividesAt separator cs i := by
  have hlevel : Level (s ++ cs.take i) ↔ Level (cs.take i) := by
    rw [level_iff, level_iff, run_append, level_iff.mp hs]
  rw [DividesAt, List.take_length_add_append, List.drop_length_add_append, hlevel, DividesAt]

theorem level_of_plain (hplain : ∀ c ∈ separator, isDelimiter c = false) : Level separator :=
  level_iff.mpr (closed_of_plain hplain).run_eq

theorem Level.append {a b : List Char} (ha : Level a) (hb : Level b) : Level (a ++ b) := by
  rw [level_iff] at ha hb ⊢
  rw [run_append, ha, hb]

theorem exists_dividesAt_of_strip (hne : separator ≠ []) (h : DividesAt separator (strip s) i) :
    ∃ j, DividesAt separator s j := by
  obtain ⟨a, b, ha, -, heq, -⟩ := exists_strip s
  have hlevel : Level a := level_iff.mpr (closed_of_allBlank ha).run_eq
  rw [heq]
  exact ⟨a.length + i, ((dividesAt_append_iff hlevel).mpr h).append hne b⟩

/-! ## The first place -/

/-- A scan goes on to the first place, or to the end if there is none. -/
theorem segments_cases (hne : separator ≠ []) (hplain : ∀ c ∈ separator, isDelimiter c = false)
    (scan : Scan) (cs : List Char) :
    ((∀ i, run scan (cs.take i) = start → ¬ separator <+: cs.drop i) ∧
      segments separator 0 scan cs = [cs]) ∨
    ∃ s rest, cs = s ++ (separator ++ rest) ∧ run scan s = start ∧
      (∀ i < s.length, run scan (cs.take i) = start → ¬ separator <+: cs.drop i) ∧
      segments separator 0 scan cs = s :: segments separator 0 start rest := by
  induction cs generalizing scan with
  | nil =>
    refine .inl ⟨fun i _ hprefix => ?_, rfl⟩
    rw [List.drop_nil, List.prefix_nil] at hprefix
    exact hne hprefix
  | cons c cs ih =>
    obtain ⟨mark, tail, rfl⟩ := List.exists_cons_of_ne_nil hne
    have hmark : isDelimiter mark = false := hplain mark List.mem_cons_self
    by_cases hdivides : (scan.mayDivide c && startsWith (mark :: tail) (c :: cs)) = true
    · obtain ⟨hmay, hstarts⟩ := Bool.and_eq_true_iff.mp hdivides
      obtain ⟨rfl, -⟩ := mayDivide_iff.mp hmay
      obtain ⟨rest, hrest⟩ := startsWith_iff_prefix.mp hstarts
      refine .inr ⟨[], rest, hrest.symm, rfl, fun i hi => absurd hi (Nat.not_lt_zero i), ?_⟩
      rw [← hrest]
      exact segments_separator hmark rest
    · have hhere : scan = start → ¬ mark :: tail <+: c :: cs := by
        rintro rfl hbegins
        obtain rfl := (List.cons_prefix_cons.mp hbegins).1
        have hmay : start.mayDivide mark = true := mayDivide_iff.mpr ⟨rfl, hmark⟩
        exact hdivides (Bool.and_eq_true_iff.mpr ⟨hmay, startsWith_iff_prefix.mpr hbegins⟩)
      rw [segments, if_neg hdivides]
      rcases ih (scan.step c) with ⟨hno, heq⟩ | ⟨s, rest, rfl, hrun, hfirst, heq⟩
      · refine .inl ⟨fun i => ?_, by rw [heq]; rfl⟩
        cases i with
        | zero => exact hhere
        | succ i => exact hno i
      · refine .inr ⟨c :: s, rest, rfl, hrun, fun i hi => ?_, by rw [heq]; rfl⟩
        cases i with
        | zero => exact hhere
        | succ i => exact hfirst i (Nat.lt_of_succ_lt_succ hi)

section
variable (hne : separator ≠ []) (hplain : ∀ c ∈ separator, isDelimiter c = false)
include hne hplain

theorem segments_eq_singleton (h : ∀ i, ¬ DividesAt separator cs i) :
    segments separator 0 start cs = [cs] := by
  rcases segments_cases hne hplain start cs with ⟨-, heq⟩ | ⟨s, rest, rfl, hrun, -, -⟩
  · exact heq
  · refine absurd ?_ (h s.length)
    rw [DividesAt, List.take_left, List.drop_left, level_iff]
    exact ⟨hrun, List.prefix_append separator rest⟩

/-- What holds of texts that are not divided, and of a text divided at its first place if it holds of the
text behind the separator, holds of the division of every text. -/
theorem segments_induction {P : List Char → List (List Char) → Prop}
    (single : ∀ cs, (∀ i, ¬ DividesAt separator cs i) → P cs [cs])
    (cons : ∀ s rest, Level s →
      (∀ i < s.length, ¬ DividesAt separator (s ++ (separator ++ rest)) i) →
      P rest (segments separator 0 start rest) →
      P (s ++ (separator ++ rest)) (s :: segments separator 0 start rest))
    (cs : List Char) : P cs (segments separator 0 start cs) := by
  induction hlength : cs.length using Nat.strong_induction_on generalizing cs with
  | _ n ih =>
    subst hlength
    rcases segments_cases hne hplain start cs with ⟨hno, heq⟩ | ⟨s, rest, rfl, hrun, hfirst, heq⟩
    · rw [heq]
      exact single cs fun i hi => hno i (level_iff.mp hi.1) hi.2
    · have hpos := List.length_pos_iff.mpr hne
      rw [heq]
      refine cons s rest (level_iff.mpr hrun)
        (fun i hi hdivides => hfirst i hi (level_iff.mp hdivides.1) hdivides.2)
        (ih rest.length ?_ rest rfl)
      simp only [List.length_append]
      omega

end

/-! ## The division -/

theorem isDivision_singleton (h : ∀ i, ¬ DividesAt separator cs i) : IsDivision separator cs [cs] where
  ne_nil := List.cons_ne_nil cs []
  intercalate_eq := List.intercalate_singleton
  level := by simp
  leftmost := by
    intro front s back heq hback
    cases front with
    | nil => exact absurd (List.cons.inj heq).2.symm hback
    | cons t front => simp at heq
  last := fun _ _ _ i hi => absurd hi (h i)

theorem inFront_cons (separator s : List Char) (front : List (List Char)) :
    inFront separator (s :: front) = s ++ separator ++ inFront separator front :=
  List.flatMap_cons

/-- The first place of a text, if what stands in front of a separator is level and holds none. -/
theorem isLeast_first (hs : Level s)
    (hfirst : ∀ i < s.length, ¬ DividesAt separator (s ++ (separator ++ rest)) i) :
    IsLeast {i | 0 ≤ i ∧ DividesAt separator (s ++ (separator ++ rest)) i} s.length := by
  refine ⟨⟨Nat.zero_le _, ?_⟩, ?_⟩
  · rw [DividesAt, List.take_left, List.drop_left]
    exact ⟨hs, List.prefix_append separator rest⟩
  · rintro i ⟨-, hi⟩
    exact Nat.le_of_not_lt fun hlt => hfirst i hlt hi

/-- The first place behind a position is moved as well. -/
theorem isLeast_moved {a b : Nat} (hs : Level s)
    (h : IsLeast {i | a ≤ i ∧ DividesAt separator cs i} b) :
    IsLeast {i | s.length + a ≤ i ∧ DividesAt separator (s ++ cs) i} (s.length + b) := by
  obtain ⟨⟨hle, hdivides⟩, hleast⟩ := h
  refine ⟨⟨Nat.add_le_add_left hle _, (dividesAt_append_iff hs).mpr hdivides⟩, ?_⟩
  rintro i ⟨hi, hplace⟩
  obtain ⟨j, rfl⟩ := Nat.exists_eq_add_of_le (Nat.le_of_add_right_le hi)
  have hj : b ≤ j := hleast ⟨Nat.le_of_add_le_add_left hi, (dividesAt_append_iff hs).mp hplace⟩
  exact Nat.add_le_add_left hj _

/-- Where a text has no place from a position on, it has none from there on when it is moved. -/
theorem forall_lt_moved {a : Nat} (hs : Level s) (h : ∀ i, DividesAt separator cs i → i < a) :
    ∀ i, DividesAt separator (s ++ cs) i → i < s.length + a := by
  intro i hi
  by_contra hle
  obtain ⟨j, rfl⟩ := Nat.exists_eq_add_of_le (Nat.le_of_add_right_le (Nat.le_of_not_lt hle))
  exact hle (Nat.add_lt_add_left (h j ((dividesAt_append_iff hs).mp hi)) _)

/-- A first segment in front of a division. Behind its separator the places are those of the rest. -/
theorem IsDivision.cons (hplain : ∀ c ∈ separator, isDelimiter c = false) (hs : Level s)
    (hfirst : ∀ i < s.length, ¬ DividesAt separator (s ++ (separator ++ rest)) i)
    (h : IsDivision separator rest segs) :
    IsDivision separator (s ++ (separator ++ rest)) (s :: segs) := by
  have hbefore : Level (s ++ separator) := hs.append (level_of_plain hplain)
  constructor
  · exact List.cons_ne_nil s segs
  · rw [List.intercalate_cons_of_ne_nil h.ne_nil, h.intercalate_eq, List.append_assoc]
  · rw [List.dropLast_cons_of_ne_nil h.ne_nil]
    exact List.forall_mem_cons.mpr ⟨hs, h.level⟩
  · intro front t back heq hback
    cases front with
    | nil =>
      obtain ⟨rfl, rfl⟩ := List.cons.inj heq
      exact isLeast_first hs hfirst
    | cons u front =>
      obtain ⟨rfl, rfl⟩ := List.cons.inj heq
      have hmoved := isLeast_moved hbefore (h.leftmost front t back rfl hback)
      rwa [← List.length_append, ← List.length_append, ← List.append_assoc, ← inFront_cons,
        List.append_assoc] at hmoved
  · intro front t heq
    cases front with
    | nil => exact absurd (List.cons.inj heq).2 h.ne_nil
    | cons u front =>
      obtain ⟨rfl, rfl⟩ := List.cons.inj heq
      rw [inFront_cons, List.length_append, ← List.append_assoc]
      exact forall_lt_moved hbefore (h.last front t rfl)

theorem intercalate_append (separator : List Char) (front : List (List Char)) {back : List (List Char)}
    (hback : back ≠ []) :
    separator.intercalate (front ++ back) = inFront separator front ++ separator.intercalate back := by
  induction front with
  | nil => rfl
  | cons s front ih =>
    have hrest : front ++ back ≠ [] := List.append_ne_nil_of_right_ne_nil front hback
    rw [List.cons_append, List.intercalate_cons_of_ne_nil hrest, ih, inFront_cons, List.append_assoc,
      List.append_assoc, List.append_assoc]

/-- What stands in front of a segment and the segment itself begin the text. -/
theorem IsDivision.prefix_text {front back : List (List Char)}
    (h : IsDivision separator cs (front ++ s :: back)) : inFront separator front ++ s <+: cs := by
  rw [← h.intercalate_eq, intercalate_append separator front (List.cons_ne_nil s back)]
  refine (List.prefix_append_right_inj _).mpr ?_
  cases back with
  | nil => rw [List.intercalate_singleton]
  | cons t back =>
    rw [List.intercalate_cons_cons, List.append_assoc]
    exact List.prefix_append s _

/-- Two divisions that agree in front go on alike: the next place is the first one for both. -/
theorem IsDivision.eq_of_front (front : List (List Char)) {back₁ back₂ : List (List Char)}
    (h₁ : IsDivision separator cs (front ++ back₁)) (h₂ : IsDivision separator cs (front ++ back₂))
    (hne₁ : back₁ ≠ []) (hne₂ : back₂ ≠ []) : back₁ = back₂ := by
  induction back₁ generalizing front back₂ with
  | nil => exact absurd rfl hne₁
  | cons s back₁ ih =>
    obtain ⟨t, back₂, rfl⟩ := List.exists_cons_of_ne_nil hne₂
    by_cases hend₁ : back₁ = []
    · by_cases hend₂ : back₂ = []
      · subst hend₁ hend₂
        have htext := h₁.intercalate_eq.trans h₂.intercalate_eq.symm
        rw [intercalate_append separator front hne₁, intercalate_append separator front hne₂,
          List.intercalate_singleton, List.intercalate_singleton] at htext
        rw [List.append_cancel_left htext]
      · subst hend₁
        have hplace := (h₂.leftmost front t back₂ rfl hend₂).1
        exact absurd (h₁.last front s rfl _ hplace.2) (Nat.not_lt.mpr hplace.1)
    · have hplace := h₁.leftmost front s back₁ rfl hend₁
      by_cases hend₂ : back₂ = []
      · subst hend₂
        exact absurd (h₂.last front t rfl _ hplace.1.2) (Nat.not_lt.mpr hplace.1.1)
      · have hlength := hplace.unique (h₂.leftmost front t back₂ rfl hend₂)
        have hbegins := List.prefix_of_prefix_length_le h₁.prefix_text h₂.prefix_text hlength.le
        obtain rfl : s = t := List.append_cancel_left (hbegins.eq_of_length hlength)
        rw [ih (front ++ [s]) (by simpa using h₁) (by simpa using h₂) hend₁ hend₂]

theorem IsDivision.unique {segs' : List (List Char)} (h : IsDivision separator cs segs)
    (h' : IsDivision separator cs segs') : segs = segs' :=
  IsDivision.eq_of_front [] h h' h.ne_nil h'.ne_nil

section
variable (hne : separator ≠ []) (hplain : ∀ c ∈ separator, isDelimiter c = false)
include hne hplain

theorem isDivision_segments (cs : List Char) :
    IsDivision separator cs (segments separator 0 start cs) :=
  segments_induction hne hplain (fun _ h => isDivision_singleton h)
    (fun _ _ hs hfirst ih => ih.cons hplain hs hfirst) cs

/-- In a segment there is no place left. -/
theorem not_dividesAt_of_mem_segments (cs : List Char) :
    ∀ s ∈ segments separator 0 start cs, ∀ i, ¬ DividesAt separator s i := by
  refine segments_induction hne hplain (P := fun _ segs => ∀ s ∈ segs, ∀ i, ¬ DividesAt separator s i)
    ?_ ?_ cs
  · intro cs h s hs
    rwa [List.mem_singleton.mp hs]
  · intro s rest _ hfirst ih
    refine List.forall_mem_cons.mpr ⟨fun i hi => ?_, ih⟩
    exact hfirst i (hi.lt_length hne) (hi.append hne _)

theorem split_part {part : List Char} (h : part ∈ split separator cs) :
    split separator part = [part] := by
  obtain ⟨s, hs, rfl⟩ := List.mem_map.mp h
  obtain ⟨-, -, -, -, -, hstripped⟩ := exists_strip s
  have hnot : ∀ i, ¬ DividesAt separator (strip s) i := by
    intro i hi
    obtain ⟨j, hj⟩ := exists_dividesAt_of_strip hne hi
    exact not_dividesAt_of_mem_segments hne hplain cs s hs j hj
  rw [split, segments_eq_singleton hne hplain hnot, List.map_singleton, hstripped.strip_eq]

end

/-- A part is what is left of a segment without the blanks at its ends. -/
def IsPartOf (s part : List Char) : Prop :=
  ∃ before after, AllBlank before ∧ AllBlank after ∧ s = before ++ part ++ after ∧ IsStripped part

theorem isPartOf_strip (s : List Char) : IsPartOf s (strip s) := by
  obtain ⟨a, b, ha, hb, heq, hstripped⟩ := exists_strip s
  exact ⟨a, b, ha, hb, heq, hstripped⟩

/-- The parts of a text are the segments of its one division, each without the blanks at its ends. With
the separators between them the segments make up the text, so nothing else is lost and the order is
kept. A part is not divided again. -/
theorem split_divides (hne : separator ≠ []) (hplain : ∀ c ∈ separator, isDelimiter c = false)
    (cs : List Char) :
    (∃ segs, IsDivision separator cs segs ∧ (∀ segs', IsDivision separator cs segs' → segs' = segs) ∧
      List.Forall₂ IsPartOf segs (split separator cs)) ∧
    ∀ part ∈ split separator cs, split separator part = [part] := by
  refine ⟨⟨segments separator 0 start cs, ?_, fun segs' h => ?_, ?_⟩, fun part => ?_⟩
  · exact isDivision_segments hne hplain cs
  · exact h.unique (isDivision_segments hne hplain cs)
  · rw [split, List.forall₂_map_right_iff, List.forall₂_same]
    exact fun s _ => isPartOf_strip s
  · exact split_part hne hplain

/-- The signs between quotation marks, behind one parenthesis too many and behind a mark that is never
closed do not divide. -/
theorem split_divides_unmatched :
    "&&".toList ≠ [] ∧ (∀ c ∈ "&&".toList, isDelimiter c = false) ∧
    split "&&".toList "'&&' && b) && (c && 'd&&e".toList =
      ["'&&'", "b) && (c", "'d&&e"].map String.toList ∧
    (∃ segs, IsDivision "&&".toList "'&&' && b) && (c && 'd&&e".toList segs) ∧
    split "&&".toList "b) && (c".toList = ["b) && (c".toList] := by
  have hne : "&&".toList ≠ [] := by decide
  have hplain : ∀ c ∈ "&&".toList, isDelimiter c = false := by
    intro c hc
    obtain rfl : c = '&' := by simpa using hc
    rfl
  have hsplit : split "&&".toList "'&&' && b) && (c && 'd&&e".toList =
      ["'&&'", "b) && (c", "'d&&e"].map String.toList := rfl
  obtain ⟨⟨segs, hdivision, -⟩, hagain⟩ := split_divides hne hplain "'&&' && b) && (c && 'd&&e".toList
  refine ⟨hne, hplain, hsplit, ⟨segs, hdivision⟩, hagain _ ?_⟩
  rw [hsplit]
  exact List.mem_map_of_mem (by decide)

end Scan
end Arazzo
