import Arazzo.Expression.Scan
import Arazzo.Proofs.Text.Trim
import Mathlib.Data.List.Induction

/-!
# Closed texts

A text is closed if its quotes end inside it and its parentheses match. A closed text leaves a scan as
it was, at every depth, so that its own signs decide nothing about the text around it: a separator
outside divides in the same places, and parentheses around it enclose it as a whole. What a scan says of
a text is what the signs outside quotation marks say when their parentheses are counted.
-/

namespace Arazzo
namespace Scan

open Text

variable {mark : Char} {tail : List Char} {scan : Scan} {a b cs : List Char}

/-- The state behind a text. -/
def run (scan : Scan) (cs : List Char) : Scan := cs.foldl step scan

@[simp] theorem run_nil (scan : Scan) : run scan [] = scan := rfl

@[simp] theorem run_cons (scan : Scan) (c : Char) (cs : List Char) :
    run scan (c :: cs) = run (scan.step c) cs := rfl

@[simp] theorem run_append (scan : Scan) (a b : List Char) :
    run scan (a ++ b) = run (run scan a) b := List.foldl_append

/-- Every quote is closed, no parenthesis closes before it is opened, and none is left open. -/
structure Closed (cs : List Char) : Prop where
  depth_nonneg : ∀ past, past <+: cs → 0 ≤ (run start past).depth
  run_eq : run start cs = start

/-- A state inside further parentheses. -/
def deepen (scan : Scan) (k : Int) : Scan := { scan with depth := scan.depth + k }

theorem step_deepen (scan : Scan) (k : Int) (c : Char) :
    (scan.deepen k).step c = (scan.step c).deepen k := by
  obtain ⟨quote, depth⟩ := scan
  cases quote with
  | some q => by_cases hq : c = q <;> simp [step, deepen, hq]
  | none =>
    by_cases hquote : Literal.isQuote c = true
    · simp [step, deepen, hquote]
    · by_cases hopen : c = '('
      · simp [step, deepen, hopen, Literal.isQuote, Int.add_right_comm]
      · by_cases hclose : c = ')'
        · simp [step, deepen, hclose, Literal.isQuote]
          omega
        · simp [step, deepen, hquote, hopen, hclose]

theorem run_deepen (scan : Scan) (k : Int) (cs : List Char) :
    run (scan.deepen k) cs = (run scan cs).deepen k := by
  induction cs generalizing scan with
  | nil => rfl
  | cons c cs ih => rw [run_cons, run_cons, step_deepen, ih]

theorem deepen_start (k : Int) : start.deepen k = ⟨none, k⟩ := by
  simp [start, deepen]

theorem Closed.run_inside (h : Closed cs) (k : Int) : run ⟨none, k⟩ cs = ⟨none, k⟩ := by
  rw [← deepen_start, run_deepen, h.run_eq]

theorem Closed.le_depth (h : Closed cs) (k : Int) {past : List Char} (hpast : past <+: cs) :
    k ≤ (run ⟨none, k⟩ past).depth := by
  have hnonneg := h.depth_nonneg past hpast
  rw [← deepen_start, run_deepen]
  change k ≤ (run start past).depth + k
  omega

theorem forall_prefix_cons {P : List Char → Prop} {c : Char} :
    (∀ past, past <+: c :: cs → P past) ↔ P [] ∧ ∀ past, past <+: cs → P (c :: past) := by
  constructor
  · exact fun h => ⟨h [] (List.nil_prefix), fun past hpast =>
      h _ (List.cons_prefix_cons.mpr ⟨rfl, hpast⟩)⟩
  · rintro ⟨hnil, hcons⟩ past hpast
    rcases List.prefix_cons_iff.mp hpast with rfl | ⟨more, rfl, hmore⟩
    · exact hnil
    · exact hcons more hmore

theorem forall_prefix_append {P : List Char → Prop} :
    (∀ past, past <+: a ++ b → P past) ↔
      (∀ past, past <+: a → P past) ∧ ∀ past, past <+: b → P (a ++ past) := by
  induction a generalizing P with
  | nil =>
    constructor
    · exact fun h => ⟨fun past hpast => h past ((List.prefix_nil.mp hpast) ▸ List.nil_prefix), h⟩
    · exact fun h => h.2
  | cons c a ih => rw [List.cons_append, forall_prefix_cons, ih, forall_prefix_cons, and_assoc]; rfl

theorem closed_nil : Closed [] where
  depth_nonneg := by
    intro past hpast
    rw [List.prefix_nil.mp hpast]
    exact Int.le_refl 0
  run_eq := rfl

theorem Closed.append (ha : Closed a) (hb : Closed b) : Closed (a ++ b) where
  depth_nonneg := by
    refine forall_prefix_append.mpr ⟨ha.depth_nonneg, fun past hpast => ?_⟩
    rw [run_append, ha.run_eq]
    exact hb.depth_nonneg past hpast
  run_eq := by rw [run_append, ha.run_eq, hb.run_eq]

theorem step_of_not_isDelimiter {c : Char} (h : isDelimiter c = false) : start.step c = start := by
  simp only [isDelimiter, Bool.or_eq_false_iff, decide_eq_false_iff_not] at h
  obtain ⟨⟨hquote, hopen⟩, hclose⟩ := h
  simp [step, start, hquote, hopen, hclose]

theorem closed_singleton {c : Char} (h : isDelimiter c = false) : Closed [c] where
  depth_nonneg := by
    refine forall_prefix_cons.mpr ⟨Int.le_refl 0, fun past hpast => ?_⟩
    rw [List.prefix_nil.mp hpast, run_cons, step_of_not_isDelimiter h]
    exact Int.le_refl 0
  run_eq := step_of_not_isDelimiter h

theorem forall_eq_false {p : Char → Bool} (h : cs.any p = false) : ∀ c ∈ cs, p c = false := by
  simpa using h

theorem closed_of_plain (h : ∀ c ∈ cs, isDelimiter c = false) : Closed cs := by
  induction cs with
  | nil => exact closed_nil
  | cons c cs ih =>
    exact (closed_singleton (h c List.mem_cons_self)).append
      (ih fun d hd => h d (List.mem_cons_of_mem c hd))

theorem run_quoted {q : Char} {k : Int} (h : q ∉ cs) : run ⟨some q, k⟩ cs = ⟨some q, k⟩ := by
  induction cs with
  | nil => rfl
  | cons c cs ih =>
    rw [List.mem_cons, not_or] at h
    have hstep : step ⟨some q, k⟩ c = ⟨some q, k⟩ := by simp [step, Ne.symm h.1]
    rw [run_cons, hstep, ih h.2]

/-- A text between two characters of which the second takes back what the first one does. -/
theorem closed_between {c d : Char} {within : Scan} (hopen : start.step c = within)
    (hdepth : ∀ past, past <+: cs → 0 ≤ (run within past).depth) (hrun : run within cs = within)
    (hclose : within.step d = start) : Closed (c :: cs ++ [d]) where
  depth_nonneg := by
    refine forall_prefix_append.mpr ⟨forall_prefix_cons.mpr ⟨Int.le_refl 0, ?_⟩,
      forall_prefix_cons.mpr ⟨?_, fun past hpast => ?_⟩⟩
    · intro past hpast
      rw [run_cons, hopen]
      exact hdepth past hpast
    · rw [List.append_nil, run_cons, hopen]
      exact hdepth cs (List.prefix_refl cs)
    · rw [List.prefix_nil.mp hpast, run_append, run_cons start, hopen, hrun, run_cons, hclose]
      exact Int.le_refl 0
  run_eq := by rw [run_append, run_cons start, hopen, hrun, run_cons, hclose, run_nil]

theorem step_quote {q : Char} (hq : Literal.isQuote q = true) (k : Int) :
    step ⟨none, k⟩ q = ⟨some q, k⟩ := by
  simp [step, hq]

theorem step_same_quote (q : Char) (k : Int) : step ⟨some q, k⟩ q = ⟨none, k⟩ := by
  simp [step]

/-- Between quotation marks nothing counts but the mark itself. -/
theorem closed_quoted {q : Char} (hq : Literal.isQuote q = true) (h : q ∉ cs) :
    Closed (q :: cs ++ [q]) := by
  refine closed_between (step_quote hq 0) (fun past hpast => ?_) (run_quoted h)
    (step_same_quote q 0)
  have hrun : run ⟨some q, 0⟩ past = ⟨some q, 0⟩ := run_quoted fun hmem => h (hpast.subset hmem)
  simp [hrun]

theorem Closed.enclosed (h : Closed cs) : Closed ('(' :: cs ++ [')']) := by
  have hopen : start.step '(' = ⟨none, 1⟩ := rfl
  exact closed_between hopen
    (fun _ hpast => Int.le_trans Int.one_nonneg (h.le_depth 1 hpast)) (h.run_inside 1) rfl

/-! ## Counting outside quotation marks -/

section

/-- The signs of a text that stand outside quotation marks, if every mark is closed. -/
inductive Outside : List Char → List Char → Prop
  | nil : Outside [] []
  | cons {c : Char} {cs signs : List Char} :
      Literal.isQuote c = false → Outside cs signs → Outside (c :: cs) (c :: signs)
  | quoted {q : Char} {inside cs signs : List Char} : Literal.isQuote q = true → q ∉ inside →
      Outside cs signs → Outside (q :: inside ++ q :: cs) signs

/-- No parenthesis is closed before it is opened, and none is left open. -/
structure Balanced (signs : List Char) : Prop where
  count_le : ∀ past, past <+: signs → past.count ')' ≤ past.count '('
  count_eq : signs.count ')' = signs.count '('

/-- Behind a text no quotation mark is open, and as many parentheses are closed as opened. -/
def Level (cs : List Char) : Prop :=
  ∃ signs, Outside cs signs ∧ signs.count ')' = signs.count '('

/-- Every quotation mark in a text is closed, and the parentheses outside match. -/
def Matched (cs : List Char) : Prop := ∃ signs, Outside cs signs ∧ Balanced signs

variable {signs : List Char} {k : Int}

/-- How many more parentheses are opened than closed. -/
def excess (signs : List Char) : Int := signs.count '(' - signs.count ')'

theorem excess_cons (c : Char) (signs : List Char) : excess (c :: signs) = excess [c] + excess signs := by
  simp only [excess, List.count_cons, List.count_nil]
  omega

theorem step_eq {c : Char} (hc : Literal.isQuote c = false) (k : Int) :
    step ⟨none, k⟩ c = ⟨none, k + excess [c]⟩ := by
  by_cases hopen : c = '('
  · subst hopen
    rfl
  · by_cases hclose : c = ')'
    · subst hclose
      rfl
    · simp [step, excess, hc, hopen, hclose]

/-- A quoted stretch leaves a scan as it was. -/
theorem run_stretch {q : Char} {inside : List Char} (hq : Literal.isQuote q = true) (h : q ∉ inside)
    (cs : List Char) (k : Int) : run ⟨none, k⟩ (q :: inside ++ q :: cs) = run ⟨none, k⟩ cs := by
  rw [run_append, run_cons ⟨none, k⟩, step_quote hq, run_quoted h, run_cons, step_same_quote]

theorem Outside.run_eq (h : Outside cs signs) (k : Int) :
    run ⟨none, k⟩ cs = ⟨none, k + excess signs⟩ := by
  induction h generalizing k with
  | nil => simp [excess]
  | @cons c cs signs hc _ ih => rw [run_cons, step_eq hc, ih, excess_cons c signs, Int.add_assoc]
  | quoted hq hnot _ ih => rw [run_stretch hq hnot, ih]

/-- Behind a text with every mark closed a scan is outside quotation marks, and only then. -/
theorem exists_outside (h : (run ⟨none, k⟩ cs).quote = none) : ∃ signs, Outside cs signs := by
  induction hlength : cs.length using Nat.strong_induction_on generalizing cs k with
  | _ n ih =>
    cases cs with
    | nil => exact ⟨[], .nil⟩
    | cons c cs =>
      subst hlength
      by_cases hc : Literal.isQuote c = true
      · rw [run_cons, step_quote hc] at h
        by_cases hmem : c ∈ cs
        · obtain ⟨inside, rest, rfl, hnot⟩ := List.eq_append_cons_of_mem hmem
          rw [run_append, run_quoted hnot, run_cons, step_same_quote] at h
          obtain ⟨signs, hsigns⟩ := ih rest.length (by simp; omega) h rfl
          exact ⟨signs, .quoted hc hnot hsigns⟩
        · rw [run_quoted hmem] at h
          cases h
      · rw [Bool.not_eq_true] at hc
        rw [run_cons, step_eq hc] at h
        obtain ⟨signs, hsigns⟩ := ih cs.length (by simp) h rfl
        exact ⟨c :: signs, .cons hc hsigns⟩

theorem level_iff : Level cs ↔ run start cs = start := by
  constructor
  · rintro ⟨signs, houtside, heq⟩
    rw [start, houtside.run_eq, excess, heq]
    simp
  · intro h
    have hquote : (run ⟨none, 0⟩ cs).quote = none := congrArg Scan.quote h
    obtain ⟨signs, houtside⟩ := exists_outside hquote
    have hexcess := congrArg Scan.depth h
    rw [start, houtside.run_eq, excess] at hexcess
    exact ⟨signs, houtside, by simp at hexcess; omega⟩

instance : DecidablePred Level := fun _ => decidable_of_iff _ level_iff.symm

/-- Inside quotation marks the number of open parentheses stays, so it is that of the signs outside. -/
theorem Outside.forall_depth_iff (h : Outside cs signs) (k : Int) :
    (∀ past, past <+: cs → 0 ≤ (run ⟨none, k⟩ past).depth) ↔
      ∀ past, past <+: signs → 0 ≤ k + excess past := by
  induction h generalizing k with
  | nil => simp [excess]
  | @cons c cs signs hc _ ih =>
    rw [forall_prefix_cons, forall_prefix_cons]
    refine and_congr (by simp [excess]) ?_
    simp only [run_cons, step_eq hc]
    rw [ih]
    exact forall₂_congr fun past _ => by rw [excess_cons c past, Int.add_assoc]
  | @quoted q inside cs signs hq hnot _ ih =>
    have hstretch : (∀ past, past <+: q :: inside → 0 ≤ (run ⟨none, k⟩ past).depth) ↔ 0 ≤ k := by
      rw [forall_prefix_cons]
      refine ⟨And.left, fun hk => ⟨hk, fun past hpast => ?_⟩⟩
      have habsent : q ∉ past := fun hmem => hnot (hpast.subset hmem)
      rwa [run_cons, step_quote hq, run_quoted habsent]
    rw [forall_prefix_append, hstretch, forall_prefix_cons, ← ih]
    simp only [run_append, List.append_nil, run_cons, step_quote hq, run_quoted hnot,
      step_same_quote]
    refine ⟨fun h => h.2.2, fun h => ⟨?_, ?_, h⟩⟩ <;> exact h [] List.nil_prefix

/-- A scan counts what the signs outside quotation marks count. -/
theorem closed_iff_matched : Closed cs ↔ Matched cs := by
  constructor
  · intro h
    obtain ⟨signs, houtside, heq⟩ := level_iff.mpr h.run_eq
    refine ⟨signs, houtside, fun past hpast => ?_, heq⟩
    have hpos := (houtside.forall_depth_iff 0).mp h.depth_nonneg past hpast
    rw [excess] at hpos
    omega
  · rintro ⟨signs, houtside, hbalanced⟩
    refine ⟨(houtside.forall_depth_iff 0).mpr fun past hpast => ?_,
      level_iff.mp ⟨signs, houtside, hbalanced.count_eq⟩⟩
    have hle := hbalanced.count_le past hpast
    rw [excess]
    omega

end

/-! ## Where separators divide -/

/-- A separator divides outside quotation marks with all parentheses closed, as at the start. -/
theorem mayDivide_iff {c : Char} : scan.mayDivide c = true ↔ scan = start ∧ isDelimiter c = false := by
  obtain ⟨quote, depth⟩ := scan
  simp [mayDivide, start]

/-- No separator with a given first character divides a text that is scanned from a state. -/
def Undivided (mark : Char) : Scan → List Char → Prop
  | _, [] => True
  | scan, c :: cs => (scan.mayDivide c = true → c ≠ mark) ∧ Undivided mark (scan.step c) cs

theorem undivided_append :
    Undivided mark scan (a ++ b) ↔ Undivided mark scan a ∧ Undivided mark (run scan a) b := by
  induction a generalizing scan with
  | nil => simp [Undivided]
  | cons c a ih => simp [Undivided, ih, and_assoc]

theorem Undivided.append (ha : Undivided mark start a) (hclosed : Closed a)
    (hb : Undivided mark start b) : Undivided mark start (a ++ b) := by
  rw [undivided_append, hclosed.run_eq]
  exact ⟨ha, hb⟩

theorem undivided_of_not_mem (h : mark ∉ cs) : Undivided mark scan cs := by
  induction cs generalizing scan with
  | nil => trivial
  | cons c cs ih =>
    rw [List.mem_cons, not_or] at h
    exact ⟨fun _ => Ne.symm h.1, ih h.2⟩

/-- Inside quotes or parentheses nothing divides. -/
theorem undivided_of_sheltered
    (h : ∀ past, past <+: cs → (run scan past).quote.isSome ∨ 0 < (run scan past).depth) :
    Undivided mark scan cs := by
  induction cs generalizing scan with
  | nil => trivial
  | cons c cs ih =>
    obtain ⟨hhere, hrest⟩ := forall_prefix_cons.mp h
    refine ⟨fun hdivide => ?_, ih hrest⟩
    obtain ⟨rfl, -⟩ := mayDivide_iff.mp hdivide
    exact absurd hhere (by decide)

theorem undivided_singleton_of_isDelimiter {c : Char} (h : isDelimiter c = true) :
    Undivided mark scan [c] := by
  refine ⟨fun hdivide => ?_, trivial⟩
  obtain ⟨-, hnot⟩ := mayDivide_iff.mp hdivide
  cases h.symm.trans hnot

theorem undivided_quoted {q : Char} (hq : Literal.isQuote q = true) (h : q ∉ cs) :
    Undivided mark start (q :: cs ++ [q]) := by
  have hdelimiter : isDelimiter q = true := by simp [isDelimiter, hq]
  refine undivided_append.mpr ⟨⟨(undivided_singleton_of_isDelimiter hdelimiter).1, ?_⟩,
    undivided_singleton_of_isDelimiter hdelimiter⟩
  rw [start, step_quote hq]
  refine undivided_of_sheltered fun past hpast => .inl ?_
  have hnot : q ∉ past := fun hmem => h (hpast.subset hmem)
  rw [run_quoted hnot]
  rfl

theorem Closed.undivided_enclosed (h : Closed cs) : Undivided mark start ('(' :: cs ++ [')']) := by
  refine undivided_append.mpr ⟨⟨(undivided_singleton_of_isDelimiter rfl).1, ?_⟩,
    undivided_singleton_of_isDelimiter rfl⟩
  exact undivided_of_sheltered fun past hpast => .inr (h.le_depth 1 hpast)

theorem segments_ne_nil (separator : List Char) (skip : Nat) (scan : Scan) (cs : List Char) :
    segments separator skip scan cs ≠ [] := by
  induction cs generalizing skip scan with
  | nil => simp [segments]
  | cons c cs ih =>
    cases skip with
    | succ skip => exact ih skip scan
    | zero =>
      rw [segments]
      split
      · simp
      · unfold pushFirst
        split <;> simp

theorem eq_of_startsWith_cons {c : Char} (h : startsWith (mark :: tail) (c :: cs) = true) :
    c = mark := by
  obtain ⟨rest, hrest⟩ := Option.isSome_iff_exists.mp h
  rw [after?_eq_some_iff] at hrest
  exact (List.cons.inj hrest).1

theorem startsWith_append (head rest : List Char) : startsWith head (head ++ rest) = true := by
  rw [startsWith, after?_eq_some_iff.mpr rfl]
  rfl

theorem foldr_pushFirst_cons (cs segment : List Char) (rest : List (List Char)) :
    cs.foldr pushFirst (segment :: rest) = (cs ++ segment) :: rest := by
  induction cs with
  | nil => rfl
  | cons c cs ih => rw [List.foldr_cons, ih]; rfl

/-- An undivided text goes into the first segment. -/
theorem segments_append_of_undivided (tail : List Char) (h : Undivided mark scan a)
    (rest : List Char) :
    segments (mark :: tail) 0 scan (a ++ rest) =
      a.foldr pushFirst (segments (mark :: tail) 0 (run scan a) rest) := by
  induction a generalizing scan with
  | nil => rfl
  | cons c a ih =>
    have hnot : (scan.mayDivide c && startsWith (mark :: tail) (c :: (a ++ rest))) = false := by
      rw [Bool.and_eq_false_iff, ← Bool.not_eq_true, ← Bool.not_eq_true]
      by_cases hdivide : scan.mayDivide c = true
      · exact .inr fun hstarts => h.1 hdivide (eq_of_startsWith_cons hstarts)
      · exact .inl hdivide
    rw [List.cons_append, segments, hnot, if_neg Bool.false_ne_true, ih h.2]
    rfl

theorem segments_skip (separator : List Char) (scan : Scan) (a rest : List Char) :
    segments separator a.length scan (a ++ rest) = segments separator 0 scan rest := by
  induction a with
  | nil => rfl
  | cons c a ih => exact ih

theorem segments_separator (hmark : isDelimiter mark = false) (rest : List Char) :
    segments (mark :: tail) 0 start (mark :: tail ++ rest) =
      [] :: segments (mark :: tail) 0 start rest := by
  have hdivide : start.mayDivide mark = true := mayDivide_iff.mpr ⟨rfl, hmark⟩
  have hstarts : startsWith (mark :: tail) (mark :: (tail ++ rest)) = true :=
    startsWith_append (mark :: tail) rest
  rw [List.cons_append, segments, hdivide, hstarts, Bool.and_self, if_pos rfl,
    List.length_cons, Nat.add_sub_cancel, segments_skip]

theorem split_of_undivided (h : Undivided mark start a) : split (mark :: tail) a = [strip a] := by
  have hsegments := segments_append_of_undivided tail h []
  rw [List.append_nil] at hsegments
  rw [split, hsegments, segments, foldr_pushFirst_cons, List.append_nil]
  rfl

/-- A separator behind an undivided text that leaves the scan as it was divides. -/
theorem split_append (hmark : isDelimiter mark = false) (h : Undivided mark start a)
    (hrun : run start a = start) (rest : List Char) :
    split (mark :: tail) (a ++ (mark :: tail ++ rest)) =
      strip a :: split (mark :: tail) rest := by
  rw [split, segments_append_of_undivided tail h, hrun, segments_separator hmark,
    foldr_pushFirst_cons, List.append_nil]
  rfl

theorem startsWith_append_blanks {separator : List Char} (hsep : ∀ c ∈ separator, isBlank c = false)
    (hb : AllBlank b) (cs : List Char) :
    startsWith separator (cs ++ b) = startsWith separator cs := by
  induction separator generalizing cs with
  | nil => rfl
  | cons s separator ih =>
    cases cs with
    | cons c cs =>
      by_cases hs : s = c
      · have hrest := ih (fun d hd => hsep d (List.mem_cons_of_mem s hd)) cs
        simpa [startsWith, after?, hs] using hrest
      · simp [startsWith, after?, hs]
    | nil =>
      cases b with
      | nil => rfl
      | cons d b =>
        have hne : s ≠ d := by
          rintro rfl
          have hblank := hb s List.mem_cons_self
          rw [hsep s List.mem_cons_self] at hblank
          cases hblank
        simp [startsWith, after?, hne]

theorem length_le_of_startsWith {separator : List Char} (h : startsWith separator cs = true) :
    separator.length ≤ cs.length := by
  obtain ⟨rest, hrest⟩ := Option.isSome_iff_exists.mp h
  rw [after?_eq_some_iff.mp hrest, List.length_append]
  exact Nat.le_add_right _ _

/-- Blanks at the end of a text stay at the end of its last segment. -/
theorem exists_segments_append_blanks (hsep : ∀ c ∈ mark :: tail, isBlank c = false)
    (hb : AllBlank b) (scan : Scan) (skip : Nat) (hskip : skip ≤ cs.length) :
    ∃ front last, segments (mark :: tail) skip scan cs = front ++ [last] ∧
      segments (mark :: tail) skip scan (cs ++ b) = front ++ [last ++ b] := by
  induction cs generalizing skip scan with
  | nil =>
    obtain rfl := Nat.le_zero.mp hskip
    have hnot : mark ∉ b := fun hmem => by
      have hblank := hb mark hmem
      rw [hsep mark List.mem_cons_self] at hblank
      cases hblank
    have hundivided : Undivided mark scan b := undivided_of_not_mem hnot
    have hsegments := segments_append_of_undivided tail hundivided []
    rw [segments, foldr_pushFirst_cons, List.append_nil] at hsegments
    exact ⟨[], [], rfl, hsegments⟩
  | cons c cs ih =>
    cases skip with
    | succ skip => exact ih scan skip (Nat.le_of_succ_le_succ hskip)
    | zero =>
      have hstarts := startsWith_append_blanks hsep hb (c :: cs)
      rw [List.cons_append] at hstarts ⊢
      rw [segments, segments, hstarts]
      split
      · rename_i hdivides
        rw [Bool.and_eq_true] at hdivides
        have hlength := length_le_of_startsWith hdivides.2
        obtain ⟨front, last, hcs, hcsb⟩ := ih scan ((mark :: tail).length - 1)
          (by simp at hlength ⊢; omega)
        exact ⟨[] :: front, last, by rw [hcs]; rfl, by rw [hcsb]; rfl⟩
      · obtain ⟨front, last, hcs, hcsb⟩ := ih (scan.step c) 0 (Nat.zero_le _)
        rw [hcs, hcsb]
        cases front with
        | nil => exact ⟨[], c :: last, rfl, rfl⟩
        | cons segment front => exact ⟨(c :: segment) :: front, last, rfl, rfl⟩

theorem isDelimiter_of_isBlank {c : Char} (h : isBlank c = true) : isDelimiter c = false := by
  by_contra hdelimiter
  rw [Bool.not_eq_false] at hdelimiter
  simp only [isDelimiter, Literal.isQuote, Bool.or_eq_true, decide_eq_true_eq] at hdelimiter
  rcases hdelimiter with ((rfl | rfl) | rfl) | rfl <;> exact absurd h (by decide)

theorem closed_of_allBlank (h : AllBlank a) : Closed a :=
  closed_of_plain fun c hc => isDelimiter_of_isBlank (h c hc)

theorem undivided_of_allBlank (hmark : isBlank mark = false) (h : AllBlank a) :
    Undivided mark scan a :=
  undivided_of_not_mem fun hmem => by simp [h mark hmem] at hmark

/-- Blanks at the ends of a text do not matter where it is divided. -/
theorem split_strip (hsep : ∀ c ∈ mark :: tail, isBlank c = false) (cs : List Char) :
    split (mark :: tail) (strip cs) = split (mark :: tail) cs := by
  obtain ⟨a, b, ha, hb, heq, -⟩ := exists_strip cs
  obtain ⟨front, last, hcs, hcsb⟩ := exists_segments_append_blanks hsep hb start 0
    (Nat.zero_le (strip cs).length)
  have hundivided : Undivided mark start a :=
    undivided_of_allBlank (hsep mark List.mem_cons_self) ha
  have hsegments := segments_append_of_undivided tail hundivided (strip cs ++ b)
  rw [(closed_of_allBlank ha).run_eq, ← List.append_assoc, ← heq, hcsb] at hsegments
  rw [split, split, hcs, hsegments]
  cases front with
  | nil =>
    rw [List.nil_append, List.nil_append, foldr_pushFirst_cons, List.map_singleton,
      List.map_singleton, strip_blanks_append ha, strip_append_blanks hb]
  | cons segment front =>
    rw [List.cons_append, List.cons_append, foldr_pushFirst_cons]
    simp [strip_blanks_append ha, strip_append_blanks hb]

theorem sublist_of_mem_segments {separator segment : List Char} {skip : Nat}
    (h : segment ∈ segments separator skip scan cs) : segment.Sublist cs := by
  induction cs generalizing skip scan segment with
  | nil =>
    rw [segments, List.mem_singleton] at h
    rw [h]
  | cons c cs ih =>
    cases skip with
    | succ skip => exact (ih h).cons c
    | zero =>
      rw [segments] at h
      split at h
      · rcases List.mem_cons.mp h with rfl | h
        · exact List.nil_sublist _
        · exact (ih h).cons c
      · cases hrest : segments separator 0 (scan.step c) cs with
        | nil => exact absurd hrest (segments_ne_nil separator 0 (scan.step c) cs)
        | cons first rest =>
          rw [hrest, pushFirst, List.mem_cons] at h
          rcases h with rfl | h
          · exact (ih (hrest ▸ List.mem_cons_self)).cons_cons c
          · exact (ih (hrest ▸ List.mem_cons_of_mem first h)).cons c

theorem sublist_of_mem_split {separator part : List Char} (h : part ∈ split separator cs) :
    part.Sublist cs := by
  obtain ⟨segment, hsegment, rfl⟩ := List.mem_map.mp h
  exact (strip_sublist segment).trans (sublist_of_mem_segments hsegment)

/-! ## Parentheses around a text -/

theorem inner_enclosed (cs : List Char) : inner ('(' :: cs ++ [')']) = cs := by
  simp [inner]

theorem eq_of_isWrapped (h : isWrapped cs = true) : cs = '(' :: inner cs ++ [')'] := by
  simp only [isWrapped, Bool.and_eq_true, beq_iff_eq] at h
  obtain ⟨⟨hfirst, hlast⟩, -⟩ := h
  obtain ⟨rest, rfl⟩ := List.head?_eq_some_iff.mp hfirst
  cases rest using List.reverseRecOn with
  | nil => simp at hlast
  | append_singleton rest c =>
    rw [← List.cons_append, List.getLast?_concat, Option.some.injEq] at hlast
    obtain rfl := hlast
    rw [← List.cons_append, inner_enclosed]

theorem isWrapped_cons_of_ne {c : Char} (h : c ≠ '(') (cs : List Char) :
    isWrapped (c :: cs) = false := by
  simp [isWrapped, h]

theorem closesAtEnd_append (hdepth : ∀ past, past <+: cs → 0 < (run scan past).depth)
    (hrun : run scan cs = ⟨none, 1⟩) : closesAtEnd scan (cs ++ [')']) = true := by
  induction cs generalizing scan with
  | nil =>
    obtain rfl : scan = ⟨none, 1⟩ := hrun
    rfl
  | cons c cs ih =>
    obtain ⟨-, hrest⟩ := forall_prefix_cons.mp hdepth
    have hpos : 0 < (scan.step c).depth := hrest [] List.nil_prefix
    have hne : ((scan.step c).depth == 0) = false := beq_false_of_ne (Int.ne_of_gt hpos)
    rw [List.cons_append, closesAtEnd]
    simp only [hne, Bool.and_false, Bool.false_and, Bool.false_eq_true, if_false]
    exact ih hrest hrun

/-- Parentheses around a closed text enclose it as a whole. -/
theorem Closed.isWrapped_enclosed (h : Closed cs) : isWrapped ('(' :: cs ++ [')']) = true := by
  have hcloses : closesAtEnd ⟨none, 1⟩ (cs ++ [')']) = true :=
    closesAtEnd_append (fun past hpast => h.le_depth 1 hpast) (h.run_inside 1)
  have hfirst : closesAtEnd start ('(' :: cs ++ [')']) = true := by
    rw [List.cons_append, closesAtEnd]
    simpa [start, step, Literal.isQuote] using hcloses
  have hlast : ('(' :: cs ++ [')']).getLast? = some ')' := List.getLast?_concat
  rw [isWrapped, hfirst, hlast]
  rfl

end Scan
end Arazzo
