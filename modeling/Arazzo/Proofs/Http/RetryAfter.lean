import Arazzo.Http.RetryAfter
import Arazzo.Proofs.Except
import Arazzo.Proofs.Number.Rounding

/-!
# The delay before a repetition

What a response asks to wait, and the declared delay where it asks for nothing that is understood. The
larger of zero and a number is described by the order of exact values, so that it covers the infinities
and not-a-number, which is not above zero.
-/

namespace Arazzo
namespace Binary64

/-- Whether a number is zero or above; not-a-number is not. -/
def IsAtLeastZero (x : Binary64) : Prop :=
  ∃ o, Exact.order? (.ofBinary x) (.ofInt 0) = some o ∧ o ≠ .lt

/-- The larger of zero and a number. -/
def atLeastZero (x : Binary64) : Binary64 := if x.IsPositive then x else zero false

theorem positivePart_eq (x : Binary64) : x.positivePart = x.atLeastZero := by
  unfold atLeastZero
  cases x with
  | nan payload => rfl
  | infinity negative => cases negative <;> rfl
  | finite negative m e =>
    simp only [isPositive_finite]
    cases negative with
    | true => simp [positivePart]
    | false => by_cases hm : m = 0 <;> simp [positivePart, hm]

theorem atLeastZero_idem (x : Binary64) : x.atLeastZero.atLeastZero = x.atLeastZero := by
  unfold atLeastZero
  by_cases h : x.IsPositive
  · rw [if_pos h, if_pos h]
  · rw [if_neg h, ite_self]

theorem isAtLeastZero_zero : (zero false).IsAtLeastZero :=
  ⟨.eq, order?_finite false 0 leastExponent, by decide⟩

theorem isAtLeastZero_atLeastZero (x : Binary64) : x.atLeastZero.IsAtLeastZero := by
  unfold atLeastZero
  split
  · next h => exact ⟨.gt, h, by decide⟩
  · exact isAtLeastZero_zero

end Binary64

namespace RetryAfter

/-- The seconds from one instant to another, below zero if the other one is past. An instant without
zone is one of universal time. -/
def secondsUntil (now instant : DateTime) : Binary64 :=
  .ofRatio (instant.microseconds - now.microseconds < 0)
    (instant.microseconds - now.microseconds).natAbs 1000000

/-- The instant that a text names, if it is a date. -/
def instant? (cs : List Char) : Option DateTime := (DateFields.read? cs).bind DateFields.toDateTime?

/-- The delay that follows a response, given the declared one: by the number of seconds that the
header names, else by its date, else by the declaration. -/
inductive IsDelay (now : DateTime) (headers : Headers) (declared : Option Binary64) :
    Binary64 → Prop
  | seconds {value : String} {n : Int} : headers.get? "Retry-After" = some value →
      Numeral.integer? (Text.strip value.toList) = .ok n →
      IsDelay now headers declared (Binary64.ofInt n).atLeastZero
  | date {value : String} {e : Numeral.IntegerFault} {instant : DateTime} :
      headers.get? "Retry-After" = some value →
      Numeral.integer? (Text.strip value.toList) = .error e →
      instant? (Text.strip value.toList) = some instant →
      IsDelay now headers declared (secondsUntil now instant).atLeastZero
  | unread {value : String} {e : Numeral.IntegerFault} :
      headers.get? "Retry-After" = some value →
      Numeral.integer? (Text.strip value.toList) = .error e →
      instant? (Text.strip value.toList) = none →
      IsDelay now headers declared (declared.getD (.zero false)).atLeastZero
  | absent : headers.get? "Retry-After" = none →
      IsDelay now headers declared (declared.getD (.zero false)).atLeastZero

variable {now : DateTime} {headers : Headers} {waited : Option Binary64}

theorem untilInstant_eq (now instant : DateTime) :
    untilInstant now instant = (secondsUntil now instant).atLeastZero :=
  Binary64.positivePart_eq _

theorem eq_of_ofSeconds {n : Int} {x : Binary64} (h : ofSeconds n = .ok x) :
    x = (Binary64.ofInt n).atLeastZero := by
  unfold ofSeconds at h
  dsimp only at h
  split at h
  · cases h
  · cases h
    exact Binary64.positivePart_eq _

/-- What a text that is no number of seconds asks to wait, it asks by a date. -/
theorem eq_of_read? {value : String} {e : Numeral.IntegerFault}
    (hvalue : Numeral.integer? (Text.strip value.toList) = .error e)
    (h : read? now value = .ok waited) :
    waited = (instant? (Text.strip value.toList)).map fun instant =>
      (secondsUntil now instant).atLeastZero := by
  unfold read? at h
  simp only [hvalue] at h
  unfold instant?
  cases hfields : DateFields.read? (Text.strip value.toList) with
  | none =>
    simp only [hfields] at h
    cases h
    rfl
  | some fields =>
    simp only [hfields] at h
    split at h
    · cases h
    · cases h
      simp only [Option.bind_some, funext (untilInstant_eq now)]

theorem isDelay_of_ofHeaders? (h : ofHeaders? now headers = .ok waited)
    (declared : Option Binary64) :
    IsDelay now headers declared ((waited.or declared).getD (.zero false)).atLeastZero := by
  unfold ofHeaders? at h
  cases hget : headers.get? "Retry-After" with
  | none =>
    rw [hget] at h
    cases h
    exact .absent hget
  | some value =>
    rw [hget] at h
    cases hvalue : Numeral.integer? (Text.strip value.toList) with
    | ok n =>
      simp only [read?, hvalue, map_ok_iff] at h
      obtain ⟨x, hx, rfl⟩ := h
      rw [Option.some_or, Option.getD_some, eq_of_ofSeconds hx, Binary64.atLeastZero_idem]
      exact .seconds hget hvalue
    | error e =>
      rw [eq_of_read? hvalue h]
      cases hinstant : instant? (Text.strip value.toList) with
      | none => exact .unread hget hvalue hinstant
      | some instant =>
        rw [Option.map_some, Option.some_or, Option.getD_some, Binary64.atLeastZero_idem]
        exact .date hget hvalue hinstant

end RetryAfter
end Arazzo
