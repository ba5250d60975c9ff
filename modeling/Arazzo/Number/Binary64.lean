/-!
# Binary floating point

The values of the 64-bit binary format as exact data: a sign, a natural mantissa below `2^53` and
an exponent, besides the two infinities and not-a-number, whose payload tells where it came from.
Every operation is the exact result in the naturals, rounded once to the nearest value with ties to
the even mantissa.
-/

namespace Arazzo

/-- A value of the 64-bit binary format; a finite one stands for `± mantissa * 2 ^ exponent`. -/
inductive Binary64 where
  | nan (payload : Nat)
  | infinity (negative : Bool)
  | finite (negative : Bool) (mantissa : Nat) (exponent : Int)
deriving DecidableEq, Repr, Inhabited

namespace Binary64

/-- The exponent of the subnormal values and of zero. -/
def leastExponent : Int := -1074

/-- The exponent of the largest finite values. -/
def greatestExponent : Int := 971

/-- The least mantissa of a normal value, `2 ^ 52`. -/
def leadingBit : Nat := 0x10000000000000

def zero (negative : Bool) : Binary64 := .finite negative 0 leastExponent

/-- The quotient rounded to the nearest natural number, a tie to the even one. -/
def roundedQuotient (num den : Nat) : Nat :=
  let q := num / den
  let r := num % den
  if 2 * r < den then q
  else if den < 2 * r then q + 1
  else if q % 2 = 0 then q else q + 1

/-- `n * 2 ^ e` as a fraction. -/
def scaled (n : Nat) (e : Int) : Nat × Nat :=
  if 0 ≤ e then (n * Nat.pow 2 e.toNat, 1) else (n, Nat.pow 2 (-e).toNat)

/-- The mantissa of `num / den` at the exponent `e`, rounded. -/
def mantissaAt (num den : Nat) (e : Int) : Nat :=
  if 0 ≤ e then roundedQuotient num (den * Nat.pow 2 e.toNat)
  else roundedQuotient (num * Nat.pow 2 (-e).toNat) den

/-- Whether `num / den` is at least `2 ^ 53 * 2 ^ e`. -/
def overflowsAt (num den : Nat) (e : Int) : Bool :=
  if 0 ≤ e then 2 * leadingBit * (den * Nat.pow 2 e.toNat) ≤ num
  else 2 * leadingBit * den ≤ num * Nat.pow 2 (-e).toNat

/-- The nearest value to `± num / den`. -/
def ofRatio (negative : Bool) (num den : Nat) : Binary64 :=
  if num = 0 ∨ den = 0 then zero negative else
  let guess := max leastExponent ((num.log2 : Int) - den.log2 - 53)
  let e := if overflowsAt num den guess then guess + 1 else guess
  let m := mantissaAt num den e
  let (m, e) := if m = 2 * leadingBit then (leadingBit, e + 1) else (m, e)
  if e > greatestExponent then .infinity negative else .finite negative m e

/-- The nearest value to `± digits * 10 ^ exponent`. Beyond four hundred places the outcome is
decided without the power. -/
def ofDecimal (negative : Bool) (digits : Nat) (exponent : Int) : Binary64 :=
  if digits = 0 then zero negative else
  let magnitude := ((Nat.log2 digits : Int) * 30103) / 100000 + exponent
  if magnitude > 400 then .infinity negative
  else if magnitude < -400 then zero negative
  else if 0 ≤ exponent then ofRatio negative (digits * Nat.pow 10 exponent.toNat) 1
  else ofRatio negative digits (Nat.pow 10 (-exponent).toNat)

def ofInt (i : Int) : Binary64 := ofRatio (i < 0) i.natAbs 1

def isInfinite : Binary64 → Bool
  | .infinity _ => true
  | _ => false

def isFinite : Binary64 → Bool
  | .finite .. => true
  | _ => false

def isZero : Binary64 → Bool
  | .finite _ m _ => m = 0
  | _ => false

/-- The integer that a finite value is, if it is one. -/
def toInt? : Binary64 → Option Int
  | .finite negative m e =>
    let magnitude : Option Nat :=
      if 0 ≤ e then some (m * Nat.pow 2 e.toNat)
      else if m % Nat.pow 2 (-e).toNat = 0 then some (m / Nat.pow 2 (-e).toNat) else none
    magnitude.map fun n => if negative then -(n : Int) else n
  | _ => none

/-- Compares `a * 2 ^ i` with `b * 2 ^ j`. -/
def compareScaled (a i b j : Int) : Ordering :=
  let e := min i j
  compare (a * Nat.pow 2 (i - e).toNat) (b * Nat.pow 2 (j - e).toNat)

/-- The exact sum of two finite values, rounded. -/
def add : Binary64 → Binary64 → Binary64
  | .finite n₁ m₁ e₁, .finite n₂ m₂ e₂ =>
    let e := min e₁ e₂
    let a : Int := (if n₁ then -(m₁ : Int) else m₁) * Nat.pow 2 (e₁ - e).toNat
    let b : Int := (if n₂ then -(m₂ : Int) else m₂) * Nat.pow 2 (e₂ - e).toNat
    let sum := a + b
    let negative := if sum = 0 then n₁ && n₂ else sum < 0
    let (num, den) := scaled sum.natAbs e
    ofRatio negative num den
  | .nan payload, _ => .nan payload
  | _, .nan payload => .nan payload
  | .infinity a, .infinity b => if a = b then .infinity a else .nan 0
  | .infinity a, _ => .infinity a
  | _, .infinity b => .infinity b

/-- The exact product of two finite values, rounded. -/
def mul : Binary64 → Binary64 → Binary64
  | .finite n₁ m₁ e₁, .finite n₂ m₂ e₂ =>
    let (num, den) := scaled (m₁ * m₂) (e₁ + e₂)
    ofRatio (n₁ != n₂) num den
  | .nan payload, _ => .nan payload
  | _, .nan payload => .nan payload
  | .infinity a, .infinity b => .infinity (a != b)
  | .infinity a, .finite b m _ => if m = 0 then .nan 0 else .infinity (a != b)
  | .finite a m _, .infinity b => if m = 0 then .nan 0 else .infinity (a != b)

def neg : Binary64 → Binary64
  | .nan payload => .nan payload
  | .infinity negative => .infinity (!negative)
  | .finite negative m e => .finite (!negative) m e

/-- The larger of zero and `x`; not-a-number gives zero. -/
def positivePart : Binary64 → Binary64
  | .infinity false => .infinity false
  | .finite false m e => if m = 0 then zero false else .finite false m e
  | _ => zero false

/-- A non-negative number of seconds in whole milliseconds; without end it is none at all. -/
def milliseconds : Binary64 → Nat
  | .finite false m e => let (num, den) := scaled (m * 1000) e; num / den
  | _ => 0

/-- Rounds the exact value to a number of decimal places, a tie to the even last digit, and takes
the nearest value to that decimal. -/
def roundPlaces (places : Nat) : Binary64 → Binary64
  | .finite negative m e =>
    let (num, den) := scaled (m * Nat.pow 10 places) e
    ofDecimal negative (roundedQuotient num den) (-places)
  | x => x

end Binary64
end Arazzo
