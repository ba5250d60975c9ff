import Arazzo.Error
import Arazzo.Http.Date
import Arazzo.Http.Header
import Arazzo.Number.Binary64

/-!
# Retry-After

How long a server asks to wait: a number of seconds, or a date whose distance from the present
counts, a date without zone being universal time. Neither is ever negative.
-/

namespace Arazzo
namespace RetryAfter

/-- The seconds that a numeral stands for. -/
def ofSeconds (n : Int) : Except Defect Binary64 :=
  let x := Binary64.ofInt n
  if x.isInfinite then .error .numberTooLarge else .ok x.positivePart

/-- The seconds from the present to an instant. -/
def untilInstant (now instant : DateTime) : Binary64 :=
  let distance := instant.microseconds - now.microseconds
  (Binary64.ofRatio (distance < 0) distance.natAbs 1000000).positivePart

/-- The seconds that a value asks to wait, if it is understood. -/
def read? (now : DateTime) (value : String) : Except Defect (Option Binary64) :=
  let cs := Text.strip value.toList
  match Numeral.integer? cs with
  | .ok n => (ofSeconds n).map some
  | .error _ => match DateFields.read? cs with
    | none => .ok none
    | some fields =>
      if fields.isOversized then .error .numberTooLarge
      else .ok (fields.toDateTime?.map (untilInstant now))

/-- The seconds that header lines ask to wait, if they do. -/
def ofHeaders? (now : DateTime) (headers : Headers) : Except Defect (Option Binary64) :=
  match headers.get? "Retry-After" with
  | some value => read? now value
  | none => .ok none

end RetryAfter
end Arazzo
