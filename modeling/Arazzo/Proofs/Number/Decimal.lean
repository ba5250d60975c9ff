import Arazzo.Proofs.Number.Integer

/-!
# Decimal literals

A stripped text is a decimal literal if a point stands among its digits or an exponent behind them, with
or without a minus in front. The literal grammar reads these texts as decimals, the integer literals as
integers, and no other text.
-/

namespace Arazzo
namespace Numeral

open Text

/-- A minus, a plus or nothing. -/
inductive IsSign : List Char → Bool → Prop
  | none : IsSign [] false
  | plus : IsSign ['+'] false
  | minus : IsSign ['-'] true

/-- A power of ten, or nothing. -/
inductive IsExponent : List Char → Int → Prop
  | none : IsExponent [] 0
  | some {c : Char} {mark body : List Char} {negative : Bool} {digits : List Nat} :
      c = 'e' ∨ c = 'E' → IsSign mark negative → IsDigits body digits → digits ≠ [] →
      IsExponent (c :: (mark ++ body)) (signed negative (valueOf 10 digits))

/-- Digits that are no integer: the digits in front of the point and behind it in one sequence, and the
power of ten that the integer they make is to be multiplied by. -/
inductive IsMagnitude : List Char → List Nat → Int → Prop
  | pointed {a b rest : List Char} {whole fraction : List Nat} {exponent : Int} :
      IsDigits a whole → IsDigits b fraction → whole ≠ [] ∨ fraction ≠ [] →
      IsExponent rest exponent →
      IsMagnitude (a ++ '.' :: (b ++ rest)) (whole ++ fraction) (exponent - fraction.length)
  | scaled {a rest : List Char} {whole : List Nat} {exponent : Int} :
      IsDigits a whole → whole ≠ [] → IsExponent rest exponent → rest ≠ [] →
      IsMagnitude (a ++ rest) whole exponent

/-- A magnitude, with a minus in front of it if the decimal is negative. -/
inductive IsDecimal : List Char → Bool → List Nat → Int → Prop
  | positive {body : List Char} {digits : List Nat} {exponent : Int} :
      IsMagnitude body digits exponent → IsDecimal body false digits exponent
  | negative {body : List Char} {digits : List Nat} {exponent : Int} :
      IsMagnitude body digits exponent → IsDecimal ('-' :: body) true digits exponent

/-- The literals that denote numbers. -/
def IsNumeral (cs : List Char) : Prop :=
  (∃ negative digits, IsInteger cs negative digits) ∨
    ∃ negative digits exponent, IsDecimal cs negative digits exponent

variable {cs body rest : List Char} {digits : List Nat} {negative : Bool} {exponent : Int}

/-! ## Digits and exponents -/

/-- No digit stands at the start of a text. -/
def EndsDigits (cs : List Char) : Prop := ∀ c ∈ cs.head?, digit? c = none

theorem takeDigits_append (h : IsDigits cs digits) (hrest : EndsDigits rest) :
    takeDigits (cs ++ rest) = (digits, rest) := by
  induction h with
  | nil =>
    cases rest with
    | nil => rfl
    | cons c rest => simp [takeDigits, hrest c rfl]
  | cons hdigit _ ih => simp [takeDigits, hdigit, ih]

theorem exists_takeDigits (cs : List Char) :
    ∃ a digits rest, cs = a ++ rest ∧ IsDigits a digits ∧ EndsDigits rest ∧
      takeDigits cs = (digits, rest) := by
  induction cs with
  | nil => exact ⟨[], [], [], rfl, isDigits_nil, by simp [EndsDigits], rfl⟩
  | cons c cs ih =>
    cases hdigit : digit? c with
    | none =>
      exact ⟨[], [], c :: cs, rfl, isDigits_nil, by simp [EndsDigits, hdigit],
        by simp [takeDigits, hdigit]⟩
    | some d =>
      obtain ⟨a, digits, rest, rfl, ha, hrest, htake⟩ := ih
      exact ⟨c :: a, d :: digits, rest, rfl, .cons hdigit ha, hrest,
        by simp [takeDigits, hdigit, htake]⟩

theorem digits?_eq_some_iff : digits? cs = some digits ↔ IsDigits cs digits ∧ digits ≠ [] := by
  rw [← takeDigits_eq_iff, digits?]
  split
  · next heq => simp +contextual [heq, eq_comm]
  · next ds hne heq =>
    rw [heq, Option.some.injEq, Prod.mk.injEq]
    constructor
    · rintro rfl
      exact ⟨⟨rfl, rfl⟩, hne⟩
    · exact fun h => h.1.1
  · next hall =>
    constructor
    · exact nofun
    · exact fun h => absurd h.1 (hall _)

/-- A sign is taken from in front of digits. -/
theorem sign_append {mark : List Char} (h : IsSign mark negative) (hdigits : IsDigits body digits) :
    sign (mark ++ body) = (negative, body) := by
  cases h with
  | plus => rfl
  | minus => rfl
  | none =>
    cases hdigits with
    | nil => rfl
    | @cons c d body digits hdigit =>
      have hminus : digit? '-' = none := by decide
      have hplus : digit? '+' = none := by decide
      rw [List.nil_append, sign]
      · intro more heq
        obtain rfl := (List.cons.inj heq).1
        simp [hminus] at hdigit
      · intro more heq
        obtain rfl := (List.cons.inj heq).1
        simp [hplus] at hdigit

theorem exists_sign (cs : List Char) :
    ∃ mark body negative, cs = mark ++ body ∧ IsSign mark negative ∧ sign cs = (negative, body) := by
  unfold sign
  split
  · exact ⟨['-'], _, true, rfl, .minus, rfl⟩
  · exact ⟨['+'], _, false, rfl, .plus, rfl⟩
  · exact ⟨[], _, false, rfl, .none, rfl⟩

theorem exponent?_eq_some_some :
    exponent? rest = some (some exponent) ↔ IsExponent rest exponent ∧ rest ≠ [] := by
  constructor
  · intro h
    cases rest with
    | nil => cases h
    | cons c rest =>
      rw [exponent?] at h
      split_ifs at h with hmark
      obtain ⟨mark, body, negative, rfl, hsign, heq⟩ := exists_sign rest
      rw [heq] at h
      obtain ⟨digits, hdigits, hvalue⟩ := Option.map_eq_some_iff.mp h
      obtain rfl := Option.some.inj hvalue
      obtain ⟨hall, hne⟩ := digits?_eq_some_iff.mp hdigits
      exact ⟨.some hmark hsign hall hne, List.cons_ne_nil _ _⟩
  · rintro ⟨h, hne⟩
    cases h with
    | none => exact absurd rfl hne
    | some hmark hsign hall hdigits =>
      rw [exponent?, if_pos hmark, sign_append hsign hall]
      exact Option.map_eq_some_iff.mpr ⟨_, digits?_eq_some_iff.mpr ⟨hall, hdigits⟩, rfl⟩

/-- What is read as an exponent is one, where nothing counts as zero. -/
theorem exists_exponent?_iff :
    (∃ e, exponent? rest = some e ∧ e.getD 0 = exponent) ↔ IsExponent rest exponent := by
  constructor
  · rintro ⟨e, he, rfl⟩
    cases e with
    | none =>
      obtain rfl := exponent?_eq_some_none.mp he
      exact .none
    | some e => exact (exponent?_eq_some_some.mp he).1
  · intro h
    by_cases hnil : rest = []
    · subst hnil
      cases h
      exact ⟨none, rfl, rfl⟩
    · exact ⟨some exponent, exponent?_eq_some_some.mpr ⟨h, hnil⟩, rfl⟩

theorem IsExponent.endsDigits (h : IsExponent rest exponent) : EndsDigits rest := by
  cases h with
  | none => simp [EndsDigits]
  | some hmark =>
    intro c hc
    obtain rfl := Option.some.inj hc
    rcases hmark with rfl | rfl <;> decide

/-! ## The literal grammar -/

theorem endsDigits_point (cs : List Char) : EndsDigits ('.' :: cs) := by
  intro c hc
  obtain rfl := Option.some.inj hc
  decide

theorem shapeOf_of_isMagnitude (h : IsMagnitude body digits exponent) (negative : Bool) :
    shapeOf negative body = some (.decimal negative digits exponent) := by
  cases h with
  | @pointed a b rest whole fraction exponent hwhole hfraction hsome hexponent =>
    obtain ⟨e, he, rfl⟩ := exists_exponent?_iff.mpr hexponent
    have hbehind := takeDigits_append hfraction hexponent.endsDigits
    rw [shapeOf, takeDigits_append hwhole (endsDigits_point _)]
    cases whole with
    | nil =>
      cases fraction with
      | nil => simp at hsome
      | cons d fraction => simp [hbehind, he]
    | cons d whole => simp [hbehind, he]
  | @scaled a rest whole exponent hwhole hne hexponent hrest =>
    have hread := exponent?_eq_some_some.mpr ⟨hexponent, hrest⟩
    have hpoint : ∀ more, rest ≠ '.' :: more := by
      rintro more rfl
      simp [exponent?] at hread
    rw [shapeOf, takeDigits_append hwhole hexponent.endsDigits]
    split
    · next heq => exact absurd (Prod.mk.inj heq).1 hne
    · next heq => exact absurd (Prod.mk.inj heq).1 hne
    · next heq => exact absurd (Prod.mk.inj heq).2 (hpoint _)
    · next heq =>
      obtain ⟨rfl, rfl⟩ := Prod.mk.inj heq
      rw [hread]
      rfl

theorem isMagnitude_of_shapeOf {other : Bool}
    (h : shapeOf other body = some (.decimal negative digits exponent)) :
    other = negative ∧ IsMagnitude body digits exponent := by
  obtain ⟨a, whole, behind, rfl, hwhole, hbehind, htake⟩ := exists_takeDigits body
  rw [shapeOf, htake] at h
  split at h
  · next rest heq =>
    obtain ⟨rfl, rfl⟩ := Prod.mk.inj heq
    obtain ⟨b, fraction, rest, rfl, hfraction, -, hrest⟩ := exists_takeDigits rest
    rw [hrest] at h
    split at h
    · cases h
    · next hsome heq =>
      obtain ⟨rfl, rfl⟩ := Prod.mk.inj heq
      obtain ⟨e, he, hshape⟩ := Option.map_eq_some_iff.mp h
      obtain ⟨rfl, rfl, rfl⟩ := Shape.decimal.inj hshape
      exact ⟨rfl, .pointed hwhole hfraction (.inr hsome) (exists_exponent?_iff.mp ⟨e, he, rfl⟩)⟩
  · cases h
  · next rest hne heq =>
    obtain ⟨rfl, rfl⟩ := Prod.mk.inj heq
    obtain ⟨b, fraction, rest, rfl, hfraction, -, hrest⟩ := exists_takeDigits rest
    rw [hrest] at h
    obtain ⟨e, he, hshape⟩ := Option.map_eq_some_iff.mp h
    obtain ⟨rfl, rfl, rfl⟩ := Shape.decimal.inj hshape
    exact ⟨rfl, .pointed hwhole hfraction (.inl hne) (exists_exponent?_iff.mp ⟨e, he, rfl⟩)⟩
  · next hpoint hne hrest heq =>
    obtain ⟨rfl, rfl⟩ := Prod.mk.inj heq
    obtain ⟨e, he, hshape⟩ := Option.map_eq_some_iff.mp h
    cases e with
    | none => cases hshape
    | some e =>
      obtain ⟨rfl, rfl, rfl⟩ := Shape.decimal.inj hshape
      obtain ⟨hexponent, hnil⟩ := exponent?_eq_some_some.mp he
      exact ⟨rfl, .scaled hwhole hne hexponent hnil⟩

theorem shapeOf_eq_decimal_iff {other : Bool} :
    shapeOf other body = some (.decimal negative digits exponent) ↔
      other = negative ∧ IsMagnitude body digits exponent := by
  constructor
  · exact isMagnitude_of_shapeOf
  · rintro ⟨rfl, h⟩
    exact shapeOf_of_isMagnitude h other

theorem minus_eq_of_isMagnitude (h : IsMagnitude body digits exponent) : minus body = (false, body) := by
  unfold minus
  split
  · next rest =>
    have hshape := shapeOf_of_isMagnitude h false
    have hminus : digit? '-' = none := by decide
    simp [shapeOf, takeDigits, hminus] at hshape
  · rfl

/-- Where no line feed stands behind it, a decimal of the literal grammar is a decimal literal. -/
theorem shape?_eq_decimal_iff (h : cs.getLast? ≠ some '\n') :
    shape? cs = some (.decimal negative digits exponent) ↔
      IsDecimal cs negative digits exponent := by
  rw [shape?_eq, chomp_eq_self h, shapeOf_eq_decimal_iff]
  constructor
  · rintro ⟨rfl, hmagnitude⟩
    unfold minus at hmagnitude ⊢
    split at hmagnitude
    · exact .negative hmagnitude
    · exact .positive hmagnitude
  · rintro (hmagnitude | hmagnitude)
    · rw [minus_eq_of_isMagnitude hmagnitude]
      exact ⟨rfl, hmagnitude⟩
    · exact ⟨rfl, hmagnitude⟩

theorem shape?_eq_none_iff (h : cs.getLast? ≠ some '\n') : shape? cs = none ↔ ¬ IsNumeral cs := by
  constructor
  · rintro hnone (⟨negative, digits, hinteger⟩ | ⟨negative, digits, exponent, hdecimal⟩)
    · rw [(shape?_eq_integer_iff h).mpr hinteger] at hnone
      cases hnone
    · rw [(shape?_eq_decimal_iff h).mpr hdecimal] at hnone
      cases hnone
  · intro hnot
    cases hshape : shape? cs with
    | none => rfl
    | some shape =>
      refine absurd ?_ hnot
      cases shape with
      | integer negative digits => exact .inl ⟨_, _, (shape?_eq_integer_iff h).mp hshape⟩
      | decimal negative digits exponent =>
        exact .inr ⟨_, _, _, (shape?_eq_decimal_iff h).mp hshape⟩

/-! ## The characters of numerals -/

/-- The characters of numerals that are no digits. -/
def numeralMarks : List Char := ['-', '+', '.', 'e', 'E']

def IsNumeralChar (c : Char) : Prop := (digit? c).isSome = true ∨ c ∈ numeralMarks

theorem IsDigits.isNumeralChar (h : IsDigits cs digits) : ∀ c ∈ cs, IsNumeralChar c := by
  induction h with
  | nil => simp
  | cons hdigit _ ih => exact List.forall_mem_cons.mpr ⟨.inl (by simp [hdigit]), ih⟩

theorem IsExponent.isNumeralChar (h : IsExponent rest exponent) : ∀ c ∈ rest, IsNumeralChar c := by
  cases h with
  | none => simp
  | some hmark hsign hall =>
    refine List.forall_mem_cons.mpr ⟨.inr ?_, List.forall_mem_append.mpr ⟨?_, hall.isNumeralChar⟩⟩
    · rcases hmark with rfl | rfl <;> decide
    · cases hsign <;> simp [IsNumeralChar, numeralMarks]

theorem IsMagnitude.isNumeralChar (h : IsMagnitude body digits exponent) :
    ∀ c ∈ body, IsNumeralChar c := by
  cases h with
  | pointed hwhole hfraction _ hexponent =>
    refine List.forall_mem_append.mpr ⟨hwhole.isNumeralChar, List.forall_mem_cons.mpr ⟨?_, ?_⟩⟩
    · exact .inr (by decide)
    · exact List.forall_mem_append.mpr ⟨hfraction.isNumeralChar, hexponent.isNumeralChar⟩
  | scaled hwhole _ hexponent =>
    exact List.forall_mem_append.mpr ⟨hwhole.isNumeralChar, hexponent.isNumeralChar⟩

theorem IsNumeral.isNumeralChar (h : IsNumeral cs) : ∀ c ∈ cs, IsNumeralChar c := by
  have hminus : IsNumeralChar '-' := .inr (by decide)
  rcases h with ⟨_, _, hinteger⟩ | ⟨_, _, _, hdecimal⟩
  · cases hinteger with
    | positive hdigits => exact hdigits.isNumeralChar
    | negative hdigits => exact List.forall_mem_cons.mpr ⟨hminus, hdigits.isNumeralChar⟩
  · cases hdecimal with
    | positive hmagnitude => exact hmagnitude.isNumeralChar
    | negative hmagnitude => exact List.forall_mem_cons.mpr ⟨hminus, hmagnitude.isNumeralChar⟩

/-- Any other character keeps a text from being a numeral. -/
theorem not_isNumeral_of_mem {c : Char} (hmem : c ∈ cs) (hdigit : digit? c = none)
    (hmark : c ∉ numeralMarks) : ¬ IsNumeral cs := by
  intro h
  rcases h.isNumeralChar c hmem with hsome | hin
  · simp [hdigit] at hsome
  · exact hmark hin

end Numeral
end Arazzo
