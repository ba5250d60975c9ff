import Arazzo.Number.Binary64

/-!
# Exact numbers

Integers and floating-point values on one line. Every number except not-a-number has an exact
value, so two numbers compare without rounding whatever their kinds.
-/

namespace Arazzo

/-- An exact value: `mantissa * 2 ^ exponent`, one of the infinities, or none at all. -/
inductive Exact where
  | nan
  | infinity (negative : Bool)
  | scaled (mantissa exponent : Int)
deriving DecidableEq, Repr

namespace Exact

def ofInt (i : Int) : Exact := .scaled i 0

def ofBinary : Binary64 → Exact
  | .nan _ => .nan
  | .infinity negative => .infinity negative
  | .finite negative m e => .scaled (if negative then -(m : Int) else m) e

/-- The order of two exact values; not-a-number has none. -/
def order? : Exact → Exact → Option Ordering
  | .nan, _ => none
  | _, .nan => none
  | .infinity a, .infinity b => some (if a = b then .eq else if a then .lt else .gt)
  | .infinity a, .scaled .. => some (if a then .lt else .gt)
  | .scaled .., .infinity b => some (if b then .gt else .lt)
  | .scaled a i, .scaled b j => some (Binary64.compareScaled a i b j)

def same (a b : Exact) : Bool := order? a b == some .eq

end Exact
end Arazzo
