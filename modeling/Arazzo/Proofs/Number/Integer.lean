import Arazzo.Number.Numeral
import Arazzo.Proofs.Text.Trim
import Mathlib.Data.List.Forall2
import Mathlib.Tactic.SplitIfs

/-!
# Integer literals

A stripped text is an integer literal if it consists of decimal digits of any script, with or without a
minus in front of them. Such texts are the ones that the literal grammar reads as integers.
-/

namespace Arazzo
namespace Numeral

open Text

/-- Decimal digits of any script and their values. -/
def IsDigits (cs : List Char) (digits : List Nat) : Prop :=
  List.Forall₂ (fun c d => digit? c = some d) cs digits

/-- Digits, with a minus in front of them if the integer is negative. -/
inductive IsInteger : List Char → Bool → List Nat → Prop
  | positive {body : List Char} {digits : List Nat} : IsDigits body digits → digits ≠ [] →
      IsInteger body false digits
  | negative {body : List Char} {digits : List Nat} : IsDigits body digits → digits ≠ [] →
      IsInteger ('-' :: body) true digits

variable {cs body : List Char} {digits : List Nat} {negative : Bool}

theorem IsInteger.length_le (h : IsInteger cs negative digits) : digits.length ≤ cs.length := by
  cases h with
  | positive hdigits => exact (List.Forall₂.length_eq hdigits).ge
  | negative hdigits =>
    rw [List.length_cons, List.Forall₂.length_eq hdigits]
    exact Nat.le_succ _

theorem isDigits_nil : IsDigits [] [] := .nil

theorem not_isDigits_nil_cons (d : Nat) : ¬ IsDigits [] (d :: digits) := nofun

theorem not_isDigits_cons_nil (c : Char) : ¬ IsDigits (c :: cs) [] := nofun

theorem isDigits_cons {c : Char} {d : Nat} :
    IsDigits (c :: cs) (d :: digits) ↔ digit? c = some d ∧ IsDigits cs digits :=
  List.forall₂_cons

/-- The digits of a text are all of it if it consists of them. -/
theorem takeDigits_eq_iff : takeDigits cs = (digits, []) ↔ IsDigits cs digits := by
  induction cs generalizing digits with
  | nil => cases digits <;> simp [takeDigits, isDigits_nil, not_isDigits_nil_cons]
  | cons c cs ih =>
    cases digits with
    | nil => cases hdigit : digit? c <;> simp [takeDigits, hdigit, not_isDigits_cons_nil]
    | cons d digits =>
      rw [isDigits_cons, ← ih]
      cases hdigit : digit? c with
      | none => simp [takeDigits, hdigit]
      | some d' =>
        simp only [takeDigits, hdigit, List.cons.injEq, Option.some.injEq, Prod.ext_iff]
        tauto

/-! ## The literal grammar -/

/-- What the literal grammar reads behind the sign. -/
def shapeOf (negative : Bool) (body : List Char) : Option Shape :=
  match takeDigits body with
  | ([], '.' :: rest) =>
    match takeDigits rest with
    | ([], _) => none
    | (fraction, rest) =>
      (exponent? rest).map fun e =>
        .decimal negative fraction (e.getD 0 - (fraction.length : Int))
  | ([], _) => none
  | (ds, '.' :: rest) =>
    let (fraction, rest) := takeDigits rest
    (exponent? rest).map fun e =>
      .decimal negative (ds ++ fraction) (e.getD 0 - (fraction.length : Int))
  | (ds, rest) =>
    (exponent? rest).map fun e => match e with
      | none => .integer negative ds
      | some e => .decimal negative ds e

/-- A text without the line feed behind it. -/
def chomp (cs : List Char) : List Char :=
  match cs.reverse with
  | '\n' :: rest => rest.reverse
  | _ => cs

/-- Removes one minus; the Boolean says whether there was one. -/
def minus (cs : List Char) : Bool × List Char :=
  match cs with
  | '-' :: rest => (true, rest)
  | _ => (false, cs)

theorem shape?_eq (cs : List Char) :
    shape? cs = shapeOf (minus (chomp cs)).1 (minus (chomp cs)).2 :=
  rfl

theorem chomp_eq_self (h : cs.getLast? ≠ some '\n') : chomp cs = cs := by
  unfold chomp
  split
  · next rest heq =>
    rw [← List.head?_reverse, heq] at h
    exact absurd rfl h
  · rfl

theorem exponent?_eq_some_none {rest : List Char} : exponent? rest = some none ↔ rest = [] := by
  cases rest with
  | nil => simp [exponent?]
  | cons c rest =>
    rw [exponent?]
    split_ifs <;> simp

theorem shapeOf_eq_integer_iff {other : Bool} :
    shapeOf other body = some (.integer negative digits) ↔
      other = negative ∧ IsDigits body digits ∧ digits ≠ [] := by
  rw [← takeDigits_eq_iff, shapeOf]
  split
  · next rest heq =>
    rw [heq]
    split <;> simp
  · next heq =>
    rw [heq]
    simp +contextual
  · next ds rest hne heq =>
    rw [heq]
    simp
  · next ds rest hpoint hne hrest heq =>
    rw [heq, Option.map_eq_some_iff, Prod.mk.injEq]
    constructor
    · rintro ⟨exponent, hexponent, hshape⟩
      cases exponent with
      | none =>
        obtain ⟨rfl, rfl⟩ := Shape.integer.inj hshape
        exact ⟨rfl, ⟨rfl, exponent?_eq_some_none.mp hexponent⟩, hne⟩
      | some => cases hshape
    · rintro ⟨rfl, ⟨rfl, rfl⟩, -⟩
      exact ⟨none, rfl, rfl⟩

theorem minus_eq_of_isDigits (h : IsDigits cs digits) : minus cs = (false, cs) := by
  unfold minus
  split
  · have hnone : digit? '-' = none := by decide
    cases h with
    | cons hminus => simp [hnone] at hminus
  · rfl

/-- Where no line feed stands behind it, an integer of the literal grammar is an integer literal. -/
theorem shape?_eq_integer_iff (h : cs.getLast? ≠ some '\n') :
    shape? cs = some (.integer negative digits) ↔ IsInteger cs negative digits := by
  rw [shape?_eq, chomp_eq_self h, shapeOf_eq_integer_iff]
  constructor
  · rintro ⟨rfl, hdigits, hne⟩
    unfold minus at hdigits ⊢
    split at hdigits
    · exact .negative hdigits hne
    · exact .positive hdigits hne
  · rintro (⟨hdigits, hne⟩ | ⟨hdigits, hne⟩)
    · rw [minus_eq_of_isDigits hdigits]
      exact ⟨rfl, hdigits, hne⟩
    · exact ⟨rfl, hdigits, hne⟩

end Numeral
end Arazzo
