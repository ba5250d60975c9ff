import Arazzo.Context
import Arazzo.Proofs.Expression.Ascent
import Arazzo.Proofs.Expression.Evaluation
import Arazzo.Proofs.Expression.NumericText
import Arazzo.Proofs.Expression.Operands

/-!
# How the judgement of a condition ends

The judgement of a condition ends in a truth value, in an error that names an expression, or in one of
three defects. The first arises where a path asks for the parent of the root, the second where one asks
for everything inside the mapping of steps while it holds itself, the third where an integer literal, as
an operand or as a text next to a number, has more digits than are read. It is said exactly which
conditions end so: those whose evaluation comes to such a path or literal.
-/

namespace Arazzo

open Text

/-! ## Overlong integers -/

/-- A text is an integer literal with more digits than are read. -/
inductive Numeral.IsOverlong (cs : List Char) : Nat → Prop
  | intro {negative : Bool} {digits : List Nat} : IsInteger cs negative digits →
      digitLimit < digits.length → IsOverlong cs digits.length

open Numeral (IsOverlong)

theorem Numeral.IsOverlong.isNumeral {cs : List Char} {n : Nat} (h : IsOverlong cs n) :
    IsNumeral cs := by
  cases h with
  | intro hinteger _ => exact .inl ⟨_, _, hinteger⟩

namespace Literal

variable {cs : List Char} {d : Defect}

theorem number?_error_iff (h : cs.getLast? ≠ some '\n') :
    number? cs = .error d ↔ ∃ n, d = .literalTooLong n ∧ IsOverlong cs n := by
  constructor
  · intro herror
    unfold number? at herror
    split at herror
    · cases herror
    · next hshape =>
      split_ifs at herror with hlong
      cases herror
      exact ⟨_, rfl, .intro ((Numeral.shape?_eq_integer_iff h).mp hshape) hlong⟩
    · cases herror
  · rintro ⟨-, rfl, ⟨hinteger, hlong⟩⟩
    rw [number?, (Numeral.shape?_eq_integer_iff h).mpr hinteger]
    exact if_pos hlong

theorem exists_quote_of_unquote? {inside : List Char} (h : unquote? cs = some inside) :
    ∃ q ∈ cs, isQuote q = true := by
  cases cs with
  | nil => cases h
  | cons q rest =>
    rw [unquote?] at h
    split_ifs at h with hboth
    exact ⟨q, List.mem_cons_self, hboth.1⟩

theorem not_isOverlong_word {word : String} (h : word ∈ Grammar.Token.words) (n : Nat) :
    ¬ IsOverlong word.toList n := by
  have hletter : ∃ c ∈ word.toList, digit? c = none ∧ c ∉ Numeral.numeralMarks := by
    simp only [Grammar.Token.words, List.mem_cons, List.not_mem_nil, or_false] at h
    rcases h with rfl | rfl | rfl
    · exact ⟨'t', by decide⟩
    · exact ⟨'f', by decide⟩
    · exact ⟨'n', by decide⟩
  obtain ⟨c, hc, hdigit, hmark⟩ := hletter
  exact fun hlong => Numeral.not_isNumeral_of_mem hc hdigit hmark hlong.isNumeral

/-- A literal has no value if and only if it is an overlong integer. -/
theorem value_error_iff {s : String} (h : s.toList.getLast? ≠ some '\n') :
    value s = .error d ↔ ∃ n, d = .literalTooLong n ∧ IsOverlong s.toList n := by
  have hnone (hnot : ∀ n, ¬ IsOverlong s.toList n) :
      ¬ ∃ n, d = .literalTooLong n ∧ IsOverlong s.toList n := by
    rintro ⟨n, -, hlong⟩
    exact hnot n hlong
  unfold value
  split
  · next inside hunquote =>
    obtain ⟨q, hmem, hquote⟩ := exists_quote_of_unquote? hunquote
    exact iff_of_false nofun
      (hnone fun n hlong => not_isNumeral_of_quote hquote hmem hlong.isNumeral)
  · split_ifs with htrue hfalse hnull
    · exact iff_of_false id (hnone (htrue ▸ not_isOverlong_word (by decide)))
    · exact iff_of_false id (hnone (hfalse ▸ not_isOverlong_word (by decide)))
    · exact iff_of_false id (hnone (hnull ▸ not_isOverlong_word (by decide)))
    · rw [map_error_iff, number?_error_iff h]

end Literal

/-! ## Parts of a condition -/

theorem Condition.Reaches.hasOperands {reader : Condition.Reader} {cs : List Char}
    {c part : Condition} (h : Condition.Reaches reader c part) (hc : c.HasOperands cs) :
    part.HasOperands cs := by
  induction h with
  | here c => exact hc
  | negation _ ih =>
    cases hc with
    | negation hinner => exact ih hinner
  | all _ _ ih =>
    cases hc with
    | all hall => exact ih (hall _ (by simp))
  | any _ _ ih =>
    cases hc with
    | any hall => exact ih (hall _ (by simp))

/-! ## Comparisons -/

namespace Comparison

variable {l r v other : Value} {d : Defect}

/-- A number meets a text that is an overlong integer between its blanks. -/
inductive Baffles : Value → Value → Defect → Prop
  | left {s : String} {r : Value} {n : Nat} : r.IsNumber → IsOverlong (strip s.toList) n →
      Baffles (.text s) r (.literalTooLong n)
  | right {l : Value} {s : String} {n : Nat} : l.IsNumber → IsOverlong (strip s.toList) n →
      Baffles l (.text s) (.literalTooLong n)

theorem numberFor_error_iff : numberFor v other = .error d ↔
    ∃ s n, v = .text s ∧ other.IsNumber ∧ IsOverlong (strip s.toList) n ∧ d = .literalTooLong n := by
  constructor
  · intro herror
    rcases numberFor_cases v other with ⟨s, rfl, hother⟩ | hsame
    · rw [numberFor_text s hother, map_error_iff] at herror
      obtain ⟨n, rfl, hlong⟩ := (Literal.number?_error_iff (getLast?_strip s.toList)).mp herror
      exact ⟨s, n, rfl, hother, hlong, rfl⟩
    · rw [hsame] at herror
      cases herror
  · rintro ⟨s, n, rfl, hother, hlong, rfl⟩
    rw [numberFor_text s hother, map_error_iff]
    exact (Literal.number?_error_iff (getLast?_strip s.toList)).mpr ⟨n, rfl, hlong⟩

theorem compare_error_iff {op : Operator} : compare l op r = .error d ↔ Baffles l r d := by
  rw [compare, map_error_iff, coerce, bind_error_iff]
  constructor
  · rintro (hl | ⟨l', -, hr⟩)
    · obtain ⟨s, n, rfl, hother, hlong, rfl⟩ := numberFor_error_iff.mp hl
      exact .left hother hlong
    · rcases bind_error_iff.mp hr with hr | ⟨r', -, hr⟩
      · obtain ⟨s, n, rfl, hother, hlong, rfl⟩ := numberFor_error_iff.mp hr
        exact .right hother hlong
      · cases hr
  · rintro (⟨hother, hlong⟩ | ⟨hother, hlong⟩)
    · exact .inl (numberFor_error_iff.mpr ⟨_, _, rfl, hother, hlong, rfl⟩)
    · refine .inr ⟨l, numberFor_of_ne (ne_text_of_isNumber hother) _, bind_error_iff.mpr (.inl ?_)⟩
      exact numberFor_error_iff.mpr ⟨_, _, rfl, hother, hlong, rfl⟩

end Comparison

/-! ## Operands -/

namespace Scope

variable {scope : Scope} {s : String} {d : Defect}

/-- What keeps an operand from having a value or an error that names it. -/
inductive Baffles (scope : Scope) (s : String) : Defect → Prop
  | above {cs : List Char} {path : Path} : s.toList = '$' :: cs → Path.read? cs = some path →
      path.FailsWith .parentOfRoot (.whole scope.document) → Baffles scope s .parentOfRoot
  | endless {cs : List Char} {path : Path} : s.toList = '$' :: cs → Path.read? cs = some path →
      path.FailsWith .endlessValue (.whole scope.document) → Baffles scope s .endlessValue
  | tooLong {n : Nat} : IsOverlong s.toList n → Baffles scope s (.literalTooLong n)

theorem not_hasIntersection_of_operand {cs : List Char} {path : Path}
    (h : Condition.IsOperand ('$' :: cs)) (hread : Path.read? cs = some path) :
    ¬ path.HasIntersection := by
  refine (Path.isWritten_of_read? hread).not_hasIntersection fun hmem => ?_
  generalize heq : '$' :: cs = text at h
  cases h with
  | token _ hall =>
    have htoken := hall '&' (heq ▸ List.mem_cons_of_mem _ hmem)
    exact absurd htoken (by decide)
  | quoted hquote _ =>
    obtain ⟨rfl, -⟩ := List.cons.inj heq
    exact absurd hquote (by decide)

theorem find_eq {path : Path} (h : Path.read? (s.toList.drop 1) = some path) :
    scope.find s = (path.first scope.document).mapError .defect := by
  simp only [find, h]
  cases path.first scope.document <;> rfl

theorem query_defect_iff {cs : List Char} (hs : s.toList = '$' :: cs) :
    scope.query s = .error (.defect d) ↔
      ∃ path, Path.read? cs = some path ∧ path.FailsWith d (.whole scope.document) := by
  have hdrop : s.toList.drop 1 = cs := by rw [hs, List.drop_one, List.tail_cons]
  rw [query, map_error_iff]
  cases hread : Path.read? cs with
  | none => simp [find, hdrop, hread, expressionFault]
  | some path =>
    rw [find_eq (hdrop ▸ hread), mapError_error_iff]
    simp only [Path.first_error_iff, Fault.defect.injEq, Option.some.injEq, exists_eq_left',
      exists_eq_right]

/-- A reference in a condition fails in the two ways in which paths without an intersection do. -/
theorem baffles_of_failsWith {cs : List Char} {path : Path} (h : Condition.IsOperand ('$' :: cs))
    (hs : s.toList = '$' :: cs) (hread : Path.read? cs = some path)
    (hfails : path.FailsWith d (.whole scope.document)) : scope.Baffles s d := by
  rcases hfails.eq_of_not_hasIntersection (not_hasIntersection_of_operand h hread) with rfl | rfl
  · exact .above hs hread hfails
  · exact .endless hs hread hfails

/-- What keeps an operand of a condition from having a value or an error that names it. -/
theorem operand_defect_iff (h : Condition.IsOperand s.toList) :
    scope.operand s = .error (.defect d) ↔ scope.Baffles s d := by
  by_cases hreference : s.toList.head? = some '$'
  · obtain ⟨cs, hcs⟩ := List.head?_eq_some_iff.mp hreference
    rw [operand, denoted, if_pos hreference, query_defect_iff hcs]
    constructor
    · rintro ⟨path, hread, hfails⟩
      exact baffles_of_failsWith (hcs ▸ h) hcs hread hfails
    · rintro (⟨hcs', hread, hfails⟩ | ⟨hcs', hread, hfails⟩ | ⟨hlong⟩)
      · obtain ⟨-, rfl⟩ := List.cons.inj (hcs.symm.trans hcs')
        exact ⟨_, hread, hfails⟩
      · obtain ⟨-, rfl⟩ := List.cons.inj (hcs.symm.trans hcs')
        exact ⟨_, hread, hfails⟩
      · refine absurd hlong.isNumeral (Numeral.not_isNumeral_of_mem (c := '$') ?_ ?_ ?_)
        · exact hcs ▸ List.mem_cons_self
        · decide
        · decide
  · have hline : s.toList.getLast? ≠ some '\n' := by
      intro hlast
      exact absurd (h.isStripped.last _ hlast) (by decide)
    rw [operand_literal scope hreference, mapError_error_iff]
    constructor
    · rintro ⟨e, he, heq⟩
      obtain rfl := Fault.defect.inj heq
      obtain ⟨n, rfl, hlong⟩ := (Literal.value_error_iff hline).mp he
      exact .tooLong hlong
    · rintro (⟨hcs, -, -⟩ | ⟨hcs, -, -⟩ | ⟨hlong⟩)
      · exact absurd (by rw [hcs]; rfl) hreference
      · exact absurd (by rw [hcs]; rfl) hreference
      · exact ⟨_, (Literal.value_error_iff hline).mpr ⟨_, rfl, hlong⟩, rfl⟩

/-! ## Conditions -/

/-- What keeps a part of a condition from having a truth value or an error that names an expression: an
operand, or the values of both of its operands. -/
inductive BafflesAt (scope : Scope) : Condition → Defect → Prop
  | left {text left right : String} {op : Operator} {d : Defect} : scope.Baffles left d →
      BafflesAt scope (.comparison text left op right) d
  | right {text left right : String} {op : Operator} {l : Value} {d : Defect} :
      scope.operand left = .ok l → scope.Baffles right d →
      BafflesAt scope (.comparison text left op right) d
  | comparison {text left right : String} {op : Operator} {l r : Value} {d : Defect} :
      scope.operand left = .ok l → scope.operand right = .ok r → Comparison.Baffles l r d →
      BafflesAt scope (.comparison text left op right) d
  | falsity {operand : String} {d : Defect} : scope.Baffles operand d →
      BafflesAt scope (.falsity operand) d

variable {cs : List Char} {part : Condition}

theorem fails_defect_iff (h : part.HasOperands cs) :
    Condition.Fails scope.reader part (.defect d) ↔ scope.BafflesAt part d := by
  constructor
  · intro hfails
    cases hfails with
    | left hleft =>
      cases h with
      | comparison hl _ => exact .left ((operand_defect_iff hl.isOperand).mp hleft)
    | right hleft hright =>
      cases h with
      | comparison _ hr => exact .right hleft ((operand_defect_iff hr.isOperand).mp hright)
    | comparison hleft hright hcompare =>
      exact .comparison hleft hright (Comparison.compare_error_iff.mp hcompare)
    | falsity hoperand =>
      cases h with
      | falsity ho => exact .falsity ((operand_defect_iff ho.isOperand).mp hoperand)
  · rintro (hleft | ⟨hleft, hright⟩ | ⟨hleft, hright, hcompare⟩ | hoperand)
    · cases h with
      | comparison hl _ => exact .left ((operand_defect_iff hl.isOperand).mpr hleft)
    · cases h with
      | comparison _ hr => exact .right hleft ((operand_defect_iff hr.isOperand).mpr hright)
    · exact .comparison hleft hright (Comparison.compare_error_iff.mpr hcompare)
    · cases h with
      | falsity ho => exact .falsity ((operand_defect_iff ho.isOperand).mpr hoperand)

/-- Only an operand with a backquote asks for a parent. -/
theorem backquote_mem_of_bafflesAt (h : part.HasOperands cs)
    (hbaffles : scope.BafflesAt part .parentOfRoot) : Path.backquote ∈ cs := by
  have hmem {s : String} (hs : Condition.IsOperandIn cs s)
      (hbaffles : scope.Baffles s .parentOfRoot) : Path.backquote ∈ cs := by
    cases hbaffles with
    | above htext hread hfails =>
      by_contra hquote
      refine (Path.isWritten_of_read? hread).not_failsWith_parentOfRoot (fun hmem => ?_) _ hfails
      exact hquote (hs.subset (htext ▸ List.mem_cons_of_mem _ hmem))
  cases hbaffles with
  | left hleft =>
    cases h with
    | comparison hl _ => exact hmem hl hleft
  | right _ hright =>
    cases h with
    | comparison _ hr => exact hmem hr hright
  | comparison _ _ hcompare => cases hcompare
  | falsity hoperand =>
    cases h with
    | falsity ho => exact hmem ho hoperand

/-- The judgement of a condition ends in a truth value, in an error that names an expression, or in a
defect. It ends in a defect if and only if it comes to a part that is to blame for it: to a path that
leads above the root, for which a backquote has to stand in the condition, to one through a mapping of
steps that holds itself, or to an integer with more digits than are read. -/
theorem judge_ends (scope : Scope) (condition : String) :
    ((∃ b, (scope.judge condition).outcome = .ok b) ∨
      (∃ text cause,
        (scope.judge condition).outcome = .error (scope.expressionFault text cause)) ∨
      ∃ d, (scope.judge condition).outcome = .error (.defect d)) ∧
    (∀ d, (scope.judge condition).outcome = .error (.defect d) ↔
      ∃ part, Condition.Reaches scope.reader (Condition.read condition.toList) part ∧
        scope.BafflesAt part d) ∧
    ((scope.judge condition).outcome = .error (.defect .parentOfRoot) →
      Path.backquote ∈ condition.toList) := by
  have hread := Condition.hasOperands_read condition.toList
  have hdefect : ∀ d, (scope.judge condition).outcome = .error (.defect d) ↔
      ∃ part, Condition.Reaches scope.reader (Condition.read condition.toList) part ∧
        scope.BafflesAt part d := by
    intro d
    refine Condition.evaluate_error_iff.trans (exists_congr fun part => and_congr_right ?_)
    exact fun hreaches => fails_defect_iff (hreaches.hasOperands hread)
  refine ⟨?_, hdefect, fun h => ?_⟩
  · cases houtcome : (scope.judge condition).outcome with
    | ok b => exact .inl ⟨b, rfl⟩
    | error f =>
      cases f with
      | defect d => exact .inr (.inr ⟨d, rfl⟩)
      | failure failure =>
        obtain ⟨text, cause, heq⟩ | ⟨d, heq, -⟩ := scope.judge_error_cases houtcome
        · exact .inr (.inl ⟨text, cause, congrArg Except.error heq⟩)
        · cases heq
  · obtain ⟨part, hreaches, hbaffles⟩ := (hdefect _).mp h
    exact backquote_mem_of_bafflesAt (hreaches.hasOperands hread) hbaffles

/-- Evaluation gets past a comparison that does not hold to a path that leads above the root. -/
theorem judge_ends_alternative :
    (judge ⟨⟨.map [], []⟩, default⟩ "1 == 2 || $\x60parent\x60 == 1").outcome =
      .error (.defect .parentOfRoot) ∧
    Path.backquote ∈ "1 == 2 || $\x60parent\x60 == 1".toList := by
  have hread : Condition.read "1 == 2 || $\x60parent\x60 == 1".toList =
      .all ([] ++ [.any ([.comparison "1 == 2" "1" .equal "2"] ++
        [.comparison "$\x60parent\x60 == 1" "$\x60parent\x60" .equal "1"])]) := by
    rfl
  obtain ⟨-, hdefect, hquote⟩ :=
    judge_ends ⟨⟨.map [], []⟩, default⟩ "1 == 2 || $\x60parent\x60 == 1"
  have hends := (hdefect .parentOfRoot).mpr (by
    rw [hread]
    refine ⟨_, .all nofun (.any ?_ (.here _)), .left (.above rfl rfl ⟨rfl, rfl⟩)⟩
    exact List.forall_mem_singleton.mpr rfl)
  exact ⟨hends, hquote hends⟩

/-- The parent of the root is asked for. -/
theorem judge_parentOfRoot :
    (judge ((Context.start []).scope default) "$\x60parent\x60 == 1").outcome =
      .error (.defect .parentOfRoot) := by
  decide +kernel

end Scope
end Arazzo
