import Arazzo.Proofs.Except
import Arazzo.Proofs.Text.Trim
import Arazzo.Toml.Read

/-!
# What keeps a TOML text from being read

A text that is not read is malformed, or an integer in it has too many digits. Every reader goes on
where the one in front of it ended, so whatever is read is a piece of the text.
-/

namespace Arazzo
namespace Toml

open Text

/-- Why a text is not read: it is malformed, or digits with underscores between them are too many. -/
inductive StopsAt (text : List Char) : Refusal → Prop
  | malformed : StopsAt text .malformed
  | integer {run : List Char} : run <:+: text → (∀ c ∈ run, c.isDigit ∨ c = '_') →
      Numeral.digitLimit < (run.filter Char.isDigit).length →
      StopsAt text (.defect .unbuildableScalar)

/-- What is read ends at a place of the text. -/
abbrev ReadsOn {α : Type} (text : List Char) (x : Except Refusal (α × List Char)) : Prop :=
  EndsIn (fun p => p.2 <:+ text) (StopsAt text) x

variable {text cs rest : List Char}

theorem orMalformed_readsOn {α : Type} {found : Option (α × List Char)}
    (h : ∀ p, found = some p → p.2 <:+ text) : ReadsOn text (orMalformed found) := by
  cases found with
  | none => exact .malformed
  | some p => exact h p rfl

theorem orMalformed_ends {α : Type} (found : Option α) :
    EndsIn (fun _ => True) (StopsAt text) (orMalformed found) := by
  cases found with
  | none => exact .malformed
  | some a => trivial

theorem skipSpace_suffix (cs : List Char) : skipSpace cs <:+ cs := List.dropWhile_suffix isSpace

theorem suffix_of_cons {c : Char} (h : c :: rest <:+ text) : rest <:+ text :=
  (List.suffix_cons c rest).trans h

/-! ## Texts -/

theorem suffix_of_after? {head : List Char} (h : after? head cs = some rest) : rest <:+ cs :=
  ⟨head, (after?_eq_some_iff.mp h).symm⟩

theorem suffix_of_hexCharacter? {count : Nat} {p : List Char × List Char}
    (h : hexCharacter? count cs = some p) : p.2 <:+ cs := by
  simp only [hexCharacter?, Option.bind_eq_bind, Option.bind_eq_some_iff] at h
  obtain ⟨ds, -, h⟩ := h
  split_ifs at h
  obtain ⟨c, -, h⟩ := Option.bind_eq_some_iff.mp h
  cases h
  exact List.drop_suffix count cs

theorem suffix_of_escape? {multiline : Bool} {p : List Char × List Char}
    (h : escape? multiline cs = some p) : p.2 <:+ cs := by
  unfold escape? at h
  split at h
  · cases h
  · next c rest =>
    split_ifs at h
    · split at h
      · next rest' hspace =>
        cases h
        have hbreak : rest' <:+ c :: rest := suffix_of_cons (hspace ▸ skipSpace_suffix (c :: rest))
        exact (List.dropWhile_suffix _).trans hbreak
      · cases h
    · exact (suffix_of_hexCharacter? h).trans (List.suffix_cons c rest)
    · exact (suffix_of_hexCharacter? h).trans (List.suffix_cons c rest)
    · obtain ⟨d, -, rfl⟩ := Option.map_eq_some_iff.mp h
      exact List.suffix_cons c rest

theorem extraMarks_suffix (mark : Char) (cs : List Char) : (extraMarks mark cs).2 <:+ cs :=
  List.drop_suffix _ cs

theorem suffix_of_basicWithin {multiline : Bool} {fuel : Nat} {p : List Char × List Char}
    (h : basicWithin multiline fuel cs = some p) : p.2 <:+ cs := by
  induction fuel generalizing cs p with
  | zero => cases h
  | succ fuel ih =>
    cases cs with
    | nil => cases h
    | cons c cs =>
      refine List.IsSuffix.trans ?_ (List.suffix_cons c cs)
      rw [basicWithin] at h
      split_ifs at h
      · cases h
        exact List.suffix_refl cs
      · cases h
        exact (extraMarks_suffix _ _).trans (List.drop_suffix 2 cs)
      · obtain ⟨⟨piece, rest⟩, hpiece, h⟩ := Option.bind_eq_some_iff.mp h
        obtain ⟨⟨more, rest'⟩, hmore, h⟩ := Option.bind_eq_some_iff.mp h
        cases h
        exact (ih hmore).trans (suffix_of_escape? hpiece)
      · obtain ⟨⟨more, rest'⟩, hmore, h⟩ := Option.bind_eq_some_iff.mp h
        cases h
        have hrest := ih hmore
        exact hrest

theorem suffix_of_literal? {multiline : Bool} {p : List Char × List Char}
    (h : literal? multiline cs = some p) : p.2 <:+ cs := by
  induction cs generalizing p with
  | nil => cases h
  | cons c cs ih =>
    refine List.IsSuffix.trans ?_ (List.suffix_cons c cs)
    rw [literal?] at h
    split_ifs at h
    · cases h
      exact List.suffix_refl cs
    · cases h
      exact (extraMarks_suffix _ _).trans (List.drop_suffix 2 cs)
    · obtain ⟨q, hq, rfl⟩ := Option.map_eq_some_iff.mp h
      have hrest := ih hq
      exact hrest

theorem withoutFirstBreak_suffix (cs : List Char) : withoutFirstBreak cs <:+ cs := by
  unfold withoutFirstBreak
  split
  · exact List.suffix_cons _ _
  · exact List.suffix_refl cs

theorem suffix_of_quoted? {p : List Char × List Char} (h : quoted? cs = some p) : p.2 <:+ cs := by
  have hthree : ∀ (a b c : Char) (rest : List Char), withoutFirstBreak rest <:+ a :: b :: c :: rest :=
    fun a b c rest => (withoutFirstBreak_suffix rest).trans (List.suffix_append [a, b, c] rest)
  unfold quoted? at h
  split at h
  · exact (suffix_of_basicWithin h).trans (hthree _ _ _ _)
  · exact (suffix_of_literal? h).trans (hthree _ _ _ _)
  · exact (suffix_of_basicWithin h).trans (List.suffix_cons _ _)
  · exact (suffix_of_literal? h).trans (List.suffix_cons _ _)
  · cases h

/-! ## Numbers, dates and times -/

/-- Digits are a run with underscores between them. -/
theorem digits_spec (p : Char → Bool) (cs : List Char) : ∃ run, cs = run ++ (digits p cs).2 ∧
    (∀ c ∈ run, p c ∨ c = '_') ∧ (digits p cs).1.Sublist run ∧ ∀ c ∈ (digits p cs).1, p c := by
  fun_induction digits p cs with
  | case1 => exact ⟨[], by simp⟩
  | case2 c hc => exact ⟨[c], by simp [hc]⟩
  | case3 c hc => exact ⟨[], by simp⟩
  | case4 c d cs hc hd ds rest heq ih =>
    obtain ⟨run, hrun, hall, hsub, hds⟩ := ih
    rw [heq] at hrun hsub hds
    refine ⟨c :: '_' :: run, by simp [hrun], ?_, (hsub.cons '_').cons_cons c, ?_⟩
    · simpa [hc] using hall
    · simpa [hc] using hds
  | case5 c d cs hc hd => exact ⟨[c], by simp [hc]⟩
  | case6 c d cs hc => exact ⟨[], by simp⟩
  | case7 c cs _ _ hc ds rest heq ih =>
    obtain ⟨run, hrun, hall, hsub, hds⟩ := ih
    rw [heq] at hrun hsub hds
    refine ⟨c :: run, by simp [hrun], ?_, hsub.cons_cons c, ?_⟩
    · simpa [hc] using hall
    · simpa [hc] using hds
  | case8 c cs _ _ hc => exact ⟨[], by simp⟩

theorem digits_suffix (p : Char → Bool) (cs : List Char) : (digits p cs).2 <:+ cs := by
  obtain ⟨run, hrun, -⟩ := digits_spec p cs
  exact ⟨run, hrun.symm⟩

theorem StopsAt.mono {e : Refusal} (h : StopsAt cs e) (hsub : cs <:+ text) : StopsAt text e := by
  cases h with
  | malformed => exact .malformed
  | integer hrun hall hlong => exact .integer (hrun.trans hsub.isInfix) hall hlong

/-- Digits that are too many stop the reading. -/
theorem stopsAt_of_digits (h : Numeral.digitLimit < (digits Char.isDigit cs).1.length) :
    StopsAt cs (.defect .unbuildableScalar) := by
  obtain ⟨run, hrun, hall, hsub, hds⟩ := digits_spec Char.isDigit cs
  refine .integer ⟨[], (digits Char.isDigit cs).2, ?_⟩ hall (lt_of_lt_of_le h ?_)
  · rw [List.nil_append, ← hrun]
  · have hfilter := hsub.filter Char.isDigit
    rw [List.filter_eq_self.mpr hds] at hfilter
    exact hfilter.length_le

theorem sign_suffix (cs : List Char) : (Numeral.sign cs).2 <:+ cs := by
  unfold Numeral.sign
  split
  · exact List.suffix_cons _ _
  · exact List.suffix_cons _ _
  · exact List.suffix_refl cs

theorem suffix_of_based? {p : Scalar × List Char} (h : based? cs = some p) : p.2 <:+ cs := by
  unfold based? at h
  split at h
  · next letter rest =>
    obtain ⟨⟨base, q⟩, -, h⟩ := Option.bind_eq_some_iff.mp h
    dsimp only at h
    split at h
    · cases h
    · next ds rest' _ heq =>
      cases h
      have hrest := digits_suffix q rest
      rw [heq] at hrest
      exact hrest.trans (List.suffix_append ['0', letter] rest)
  · cases h

theorem suffix_of_part {mark : Char → Bool} {signed : Bool} {p : Bool × List Char × List Char}
    (h : part mark signed cs = some p) : p.2.2 <:+ cs := by
  unfold part at h
  split at h
  · next c rest =>
    have hbody : (if signed then Numeral.sign rest else (false, rest)).2 <:+ rest := by
      split_ifs
      · exact sign_suffix rest
      · exact List.suffix_refl rest
    dsimp only at h
    generalize (if signed then Numeral.sign rest else (false, rest)) = body at h hbody
    split at h
    · split at h
      · cases h
      · next ds rest' _ heq =>
        cases h
        have hrest := digits_suffix Char.isDigit body.2
        rw [heq] at hrest
        exact (hrest.trans hbody).trans (List.suffix_cons c rest)
    · cases h
  · cases h

/-- A whole number in front of a point ends in the text, and stops the reading if it is too long. -/
theorem whole?_spec {p : List Char × List Char} (h : whole? cs = some p) : p.2 <:+ cs ∧
    (Numeral.digitLimit < p.1.length → StopsAt cs (.defect .unbuildableScalar)) := by
  unfold whole? at h
  split at h
  · next rest =>
    cases h
    exact ⟨List.suffix_cons _ _, fun hlong => absurd hlong (by simp [Numeral.digitLimit])⟩
  · split at h
    · cases h
    · cases h
      exact ⟨digits_suffix Char.isDigit cs, stopsAt_of_digits⟩

theorem suffix_of_getD_part {mark : Char → Bool} {signed : Bool} :
    ((part mark signed cs).map fun f => f.2.2).getD cs <:+ cs := by
  cases h : part mark signed cs with
  | none => exact List.suffix_refl cs
  | some f => exact suffix_of_part h

theorem decimal?_spec {x : Except Refusal Scalar} (h : decimal? cs = some (x, rest)) :
    rest <:+ cs ∧ ErrorsIn (StopsAt cs) x := by
  obtain ⟨⟨whole, behind⟩, hwhole, h⟩ := Option.bind_eq_some_iff.mp h
  obtain ⟨hbehind, hlong⟩ := whole?_spec hwhole
  have hsign := sign_suffix cs
  have hfraction : ((part (· = '.') false behind).map fun f => f.2.2).getD behind <:+ behind :=
    suffix_of_getD_part
  dsimp only at h
  generalize ((part (· = '.') false behind).map fun f => f.2.2).getD behind = middle at h hfraction
  have hend :
      ((part (fun c => c = 'e' || c = 'E') true middle).map fun e => e.2.2).getD middle <:+ cs :=
    suffix_of_getD_part.trans (hfraction.trans (hbehind.trans hsign))
  split_ifs at h with _ hdigits
  · cases h
    exact ⟨hend, .error ((hlong hdigits).mono hsign)⟩
  · cases h
    exact ⟨hend, .ok _⟩
  · cases h
    exact ⟨hend, .ok _⟩

/-- Fixed digits end in the text. -/
theorem suffix_of_field? {count least most : Nat} {p : Nat × List Char}
    (h : field? count least most cs = some p) : p.2 <:+ cs := by
  unfold field? at h
  dsimp only at h
  split_ifs at h
  cases h
  exact List.drop_suffix count cs

theorem fraction_suffix (cs : List Char) : (fraction cs).2 <:+ cs := by
  unfold fraction
  split
  · dsimp only
    split_ifs
    · exact List.suffix_refl _
    · exact (List.drop_suffix _ _).trans (List.suffix_cons _ _)
  · exact List.suffix_refl cs

theorem suffix_of_markedField? {c : Char} {count least most : Nat} {behind : List Char}
    {p : Nat × List Char} (hmark : mark? c cs = some behind)
    (h : field? count least most behind = some p) : p.2 <:+ cs :=
  (suffix_of_field? h).trans (suffix_of_after? hmark)

theorem suffix_of_time? {p : TimeOfDay × List Char} (h : time? cs = some p) : p.2 <:+ cs := by
  obtain ⟨⟨hour, rest⟩, hhour, h⟩ := Option.bind_eq_some_iff.mp h
  obtain ⟨colon, hcolon, h⟩ := Option.bind_eq_some_iff.mp h
  obtain ⟨⟨minute, rest'⟩, hminute, h⟩ := Option.bind_eq_some_iff.mp h
  obtain ⟨colon', hcolon', h⟩ := Option.bind_eq_some_iff.mp h
  obtain ⟨⟨second, rest''⟩, hsecond, h⟩ := Option.bind_eq_some_iff.mp h
  cases h
  have hseconds := suffix_of_markedField? hcolon' hsecond
  have hminutes := suffix_of_markedField? hcolon hminute
  exact (fraction_suffix rest'').trans (hseconds.trans (hminutes.trans (suffix_of_field? hhour)))

theorem suffix_of_signedOffset? {negative : Bool} {p : Int × List Char}
    (h : signedOffset? negative cs = some p) : p.2 <:+ cs := by
  obtain ⟨⟨hours, rest⟩, hhours, h⟩ := Option.bind_eq_some_iff.mp h
  obtain ⟨colon, hcolon, h⟩ := Option.bind_eq_some_iff.mp h
  obtain ⟨⟨minutes, rest'⟩, hminutes, h⟩ := Option.bind_eq_some_iff.mp h
  cases h
  exact (suffix_of_markedField? hcolon hminutes).trans (suffix_of_field? hhours)

theorem offset_suffix (cs : List Char) : (offset cs).2 <:+ cs := by
  unfold offset
  dsimp only
  split
  · next seconds rest h =>
    split at h
    · split_ifs at h
      · cases h
        exact List.suffix_cons _ _
      · exact (suffix_of_signedOffset? h).trans (List.suffix_cons _ _)
    · cases h
  · exact List.suffix_refl cs

theorem suffix_of_date? {p : Date × List Char} (h : date? cs = some p) : p.2 <:+ cs := by
  obtain ⟨⟨year, rest⟩, hyear, h⟩ := Option.bind_eq_some_iff.mp h
  obtain ⟨dash, hdash, h⟩ := Option.bind_eq_some_iff.mp h
  obtain ⟨⟨month, rest'⟩, hmonth, h⟩ := Option.bind_eq_some_iff.mp h
  obtain ⟨dash', hdash', h⟩ := Option.bind_eq_some_iff.mp h
  obtain ⟨⟨day, rest''⟩, hday, h⟩ := Option.bind_eq_some_iff.mp h
  cases h
  have hdays := suffix_of_markedField? hdash' hday
  have hmonths := suffix_of_markedField? hdash hmonth
  exact hdays.trans (hmonths.trans (suffix_of_field? hyear))

theorem suffix_of_timeAfter? {p : TimeOfDay × List Char} (h : timeAfter? cs = some p) :
    p.2 <:+ cs := by
  unfold timeAfter? at h
  split at h
  · split_ifs at h
    exact (suffix_of_time? h).trans (List.suffix_cons _ _)
  · cases h

theorem dated?_spec {x : Except Refusal Scalar} (h : dated? cs = some (x, rest)) :
    rest <:+ cs ∧ ErrorsIn (StopsAt cs) x := by
  obtain ⟨⟨date, behind⟩, hdate, h⟩ := Option.bind_eq_some_iff.mp h
  have hbehind := suffix_of_date? hdate
  have herror : ∀ s : Scalar, ErrorsIn (StopsAt cs)
      (if date.isValid then .ok s else .error .malformed) := by
    intro s
    split_ifs
    · exact .ok s
    · exact .error .malformed
  cases htime : timeAfter? behind with
  | none =>
    simp only [htime] at h
    cases h
    exact ⟨hbehind, herror _⟩
  | some found =>
    simp only [htime] at h
    cases h
    exact ⟨(offset_suffix found.2).trans ((suffix_of_timeAfter? htime).trans hbehind), herror _⟩

theorem suffix_of_word? {p : Scalar × List Char} (h : word? cs = some p) : p.2 <:+ cs := by
  obtain ⟨w, -, h⟩ := List.exists_of_findSome?_eq_some h
  obtain ⟨rest, hrest, rfl⟩ := Option.map_eq_some_iff.mp h
  exact suffix_of_after? hrest

theorem scalar_readsOn (cs : List Char) : ReadsOn cs (scalar cs) := by
  unfold scalar
  split
  · next h => exact (dated?_spec h).1
  · next h => exact (dated?_spec h).2 _ rfl
  · split
    · next h => exact suffix_of_time? h
    · split
      · next h => exact suffix_of_based? h
      · split
        · next h => exact (decimal?_spec h).1
        · next h => exact (decimal?_spec h).2 _ rfl
        · split
          · next h => exact suffix_of_word? h
          · exact .malformed

theorem scalar_readsOn_of_suffix (h : cs <:+ text) : ReadsOn text (scalar cs) :=
  (scalar_readsOn cs).mono (fun _ hp => hp.trans h) fun _ he => he.mono h

/-! ## Between the values -/

/-- What is passed over ends at a place of the text. -/
abbrev PassesOn (text : List Char) (x : Except Refusal (List Char)) : Prop :=
  EndsIn (fun rest => rest <:+ text) (StopsAt text) x

theorem skipFill_passesOn {inComment : Bool} (h : cs <:+ text) :
    PassesOn text (skipFill inComment cs) := by
  induction cs generalizing inComment with
  | nil => exact h
  | cons c cs ih =>
    have hrest := suffix_of_cons h
    rw [skipFill]
    split_ifs
    · exact ih hrest
    · exact .malformed
    · exact ih hrest
    · exact ih hrest
    · exact ih hrest
    · exact h

theorem skipComment_passesOn (h : cs <:+ text) : PassesOn text (skipComment cs) := by
  rw [skipComment]
  split_ifs
  · rw [List.span_eq_takeWhile_dropWhile]
    dsimp only
    split_ifs
    · exact .malformed
    · exact (List.dropWhile_suffix _).trans h
  · exact h

theorem keyPart_readsOn (h : cs <:+ text) : ReadsOn text (keyPart cs) := by
  unfold keyPart
  dsimp only
  split
  · refine (orMalformed_readsOn fun p hp => ?_).bind fun p hp => hp
    exact (suffix_of_basicWithin hp).trans (suffix_of_cons h)
  · refine (orMalformed_readsOn fun p hp => ?_).bind fun p hp => hp
    exact (suffix_of_literal? hp).trans (suffix_of_cons h)
  · rw [List.span_eq_takeWhile_dropWhile]
    split
    · exact .malformed
    · exact (List.dropWhile_suffix _).trans h

theorem keyWithin_readsOn {fuel : Nat} (h : cs <:+ text) : ReadsOn text (keyWithin fuel cs) := by
  induction fuel generalizing cs with
  | zero => exact .malformed
  | succ fuel ih =>
    rw [keyWithin]
    refine (keyPart_readsOn h).bind fun p hp => ?_
    have hspace := (skipSpace_suffix p.2).trans hp
    dsimp only
    split
    · next rest heq =>
      rw [heq] at hspace
      refine (ih ((skipSpace_suffix rest).trans (suffix_of_cons hspace))).bind fun q hq => ?_
      exact hq
    · exact hspace

theorem key_readsOn (h : cs <:+ text) : ReadsOn text (key cs) := keyWithin_readsOn h

theorem keyAndSign_readsOn (h : cs <:+ text) : ReadsOn text (keyAndSign cs) := by
  rw [keyAndSign]
  refine (key_readsOn h).bind fun p hp => ?_
  split
  · exact (skipSpace_suffix _).trans (suffix_of_cons hp)
  · exact .malformed

/-! ## Values -/

/-- With so much fuel, the readers of values, of items and of inline tables end in the text. -/
structure ValuesReadOn (text : List Char) (fuel : Nat) : Prop where
  value : ∀ {cs}, cs <:+ text → ReadsOn text (valueWithin fuel cs)
  items : ∀ {cs}, cs <:+ text → ReadsOn text (itemsWithin fuel cs)
  inline : ∀ {cs} (table : Inline), cs <:+ text → ReadsOn text (inlineWithin fuel table cs)

section
variable {fuel : Nat}

theorem valueWithin_readsOn (ih : ValuesReadOn text fuel) (h : cs <:+ text) :
    ReadsOn text (valueWithin (fuel + 1) cs) := by
  unfold valueWithin
  split
  · refine (skipFill_passesOn (suffix_of_cons h)).bind fun rest hrest => ?_
    refine (ih.items hrest).bind fun p hp => ?_
    exact hp
  · next rest =>
    have hspace := (skipSpace_suffix rest).trans (suffix_of_cons h)
    split
    · next heq =>
      rw [heq] at hspace
      exact suffix_of_cons hspace
    · exact ih.inline _ hspace
  · split_ifs
    · refine (orMalformed_readsOn fun p hp => (suffix_of_quoted? hp).trans h).bind fun p hp => ?_
      exact hp
    · exact (scalar_readsOn_of_suffix h).map fun p hp => hp
  · exact .malformed

theorem itemsWithin_readsOn (ih : ValuesReadOn text fuel) (h : cs <:+ text) :
    ReadsOn text (itemsWithin (fuel + 1) cs) := by
  unfold itemsWithin
  split
  · exact suffix_of_cons h
  · refine (ih.value h).bind fun p hp => ?_
    refine (skipFill_passesOn hp).bind fun behind hbehind => ?_
    split
    · exact suffix_of_cons hbehind
    · refine (skipFill_passesOn (suffix_of_cons hbehind)).bind fun rest hrest => ?_
      refine (ih.items hrest).bind fun q hq => ?_
      exact hq
    · exact .malformed

theorem inlineWithin_readsOn (ih : ValuesReadOn text fuel) (table : Inline) (h : cs <:+ text) :
    ReadsOn text (inlineWithin (fuel + 1) table cs) := by
  rw [inlineWithin]
  refine (keyAndSign_readsOn h).bind fun p hp => ?_
  refine (ih.value hp).bind fun q hq => ?_
  refine (orMalformed_ends _).bind fun table _ => ?_
  have hspace := (skipSpace_suffix q.2).trans hq
  split
  · next heq =>
    rw [heq] at hspace
    exact suffix_of_cons hspace
  · next rest heq =>
    rw [heq] at hspace
    exact ih.inline table ((skipSpace_suffix rest).trans (suffix_of_cons hspace))
  · exact .malformed

theorem valuesReadOn (text : List Char) (fuel : Nat) : ValuesReadOn text fuel := by
  induction fuel with
  | zero => exact ⟨fun _ => .malformed, fun _ => .malformed, fun _ _ => .malformed⟩
  | succ fuel ih =>
    exact ⟨valueWithin_readsOn ih, itemsWithin_readsOn ih, inlineWithin_readsOn ih⟩

end

theorem value_readsOn (h : cs <:+ text) : ReadsOn text (value cs) := (valuesReadOn text _).value h

/-! ## Statements -/

theorem header_readsOn (t : Tables) (h : cs <:+ text) : ReadsOn text (header cs t) := by
  have hdeclared : ∀ {rest : List Char} (close : List Char) (declare : Key → Option Tables),
      rest <:+ text → ReadsOn text (do
        let found ← key (skipSpace rest)
        let t ← orMalformed (declare found.1)
        .ok (t, ← orMalformed (after? close found.2))) := by
    intro rest close declare hrest
    refine (key_readsOn ((skipSpace_suffix rest).trans hrest)).bind fun p hp => ?_
    refine (orMalformed_ends (declare p.1)).bind fun t _ => ?_
    cases hafter : after? close p.2 with
    | none => exact .malformed
    | some behind => exact (suffix_of_after? hafter).trans hp
  unfold header
  dsimp only
  split
  · exact hdeclared [']', ']'] t.settle.declareNext (suffix_of_cons h)
  · exact hdeclared [']'] t.settle.declare h

theorem assignment_readsOn (t : Tables) (h : cs <:+ text) : ReadsOn text (assignment cs t) := by
  rw [assignment]
  refine (keyAndSign_readsOn h).bind fun p hp => ?_
  refine (value_readsOn hp).bind fun q hq => ?_
  refine (orMalformed_ends _).bind fun t _ => ?_
  exact hq

theorem statement_readsOn (t : Tables) (h : cs <:+ text) : ReadsOn text (statement cs t) := by
  unfold statement
  split
  · exact h
  · split_ifs
    · exact h
    · exact assignment_readsOn t h
    · exact header_readsOn t (suffix_of_cons h)
    · exact .malformed

theorem lines_ends {fuel : Nat} (t : Tables) (h : cs <:+ text) :
    EndsIn (fun _ => True) (StopsAt text) (lines fuel cs t) := by
  induction fuel generalizing cs t with
  | zero => exact .malformed
  | succ fuel ih =>
    rw [lines]
    refine (statement_readsOn t ((skipSpace_suffix cs).trans h)).bind fun p hp => ?_
    refine (skipComment_passesOn ((skipSpace_suffix p.2).trans hp)).bind fun rest hrest => ?_
    split
    · trivial
    · exact ih p.1 (suffix_of_cons hrest)
    · exact .malformed

/-- Digits and underscores are not changed by what becomes of the breaks. -/
theorem StopsAt.of_replaced {e : Refusal}
    (h : StopsAt (replace ['\r', '\n'] ['\n'] text) e) : StopsAt text e := by
  cases h with
  | malformed => exact .malformed
  | integer hrun hall hlong =>
    refine .integer (infix_of_infix_replace (fun hmem => ?_) hrun) hall hlong
    exact absurd (hall _ hmem) (by decide)

/-- A text that is not read is malformed, or has an integer with too many digits in it. -/
theorem read_stopsAt (text : List Char) : ErrorsIn (StopsAt text) (read text) := by
  intro e he
  rcases bind_error_iff.mp he with hlines | ⟨t, -, hok⟩
  · exact ((lines_ends .start (List.suffix_refl _)).errorsIn e hlines).of_replaced
  · cases hok

end Toml
end Arazzo
