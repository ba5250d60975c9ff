import Arazzo.Number.Binary64

/-!
# Decimal text of a floating-point value

A finite value is written with the fewest digits that read back to it, of two such decimals the
nearer one. The digits stand in positional notation while the exponent of the leading digit is at
least -4 and below 16, and otherwise in front of a signed exponent of two digits or more.
-/

namespace Arazzo
namespace Binary64

/-- Compares `digits * 10 ^ exponent` with `n * 2 ^ e`. -/
def compareDecimal (digits : Nat) (exponent : Int) (n : Nat) (e : Int) : Ordering :=
  compare (digits * Nat.pow 10 exponent.toNat * Nat.pow 2 (-e).toNat)
    (n * Nat.pow 2 e.toNat * Nat.pow 10 (-exponent).toNat)

/-- Whether a decimal lies among the reals that round to `m * 2 ^ e`: from halfway to the value
below to halfway to the value above, the ends included if the mantissa is even. Below a power of
two the neighbour is half as far away. -/
def readsBack (m : Nat) (e : Int) (digits : Nat) (exponent : Int) : Bool :=
  let low := if m = leadingBit ∧ leastExponent < e then 4 * m - 1 else 4 * m - 2
  let even := m % 2 == 0
  let atLow := compareDecimal digits exponent low (e - 2)
  let atHigh := compareDecimal digits exponent (4 * m + 2) (e - 2)
  (atLow == .gt || even && atLow == .eq) && (atHigh == .lt || even && atHigh == .eq)

/-- The least `k` with `m * 2 ^ e < 10 ^ k`, searched upwards from a lower estimate. -/
def decimalScale (m : Nat) (e : Int) : Int :=
  let estimate := (((m.log2 : Int) + e) * 30103) / 100000
  let below (k : Int) : Bool := compareDecimal 1 k m e == .gt
  ((List.range 4).map fun step => estimate - 1 + (step : Nat)).find? below |>.getD (estimate + 3)

/-- The better of the two neighbours of the value on the grid of spacing `10 ^ exponent`, if one of
them reads back. -/
def onGrid (m : Nat) (e : Int) (exponent : Int) : Option (Nat × Int) :=
  let num := m * Nat.pow 2 e.toNat * Nat.pow 10 (-exponent).toNat
  let den := Nat.pow 2 (-e).toNat * Nat.pow 10 exponent.toNat
  let below := num / den
  match below ≠ 0 && readsBack m e below exponent, readsBack m e (below + 1) exponent with
  | true, false => some (below, exponent)
  | false, true => some (below + 1, exponent)
  | false, false => none
  | true, true => some (roundedQuotient num den, exponent)

/-- Moves trailing zeros of the digits into the exponent. -/
def dropZeros : Nat → Nat → Int → Nat × Int
  | 0, digits, exponent => (digits, exponent)
  | fuel + 1, digits, exponent =>
    if digits ≠ 0 ∧ digits % 10 = 0 then dropZeros fuel (digits / 10) (exponent + 1)
    else (digits, exponent)

/-- The shortest decimal that reads back to `m * 2 ^ e`, for a mantissa other than zero. -/
def shortest (m : Nat) (e : Int) : Nat × Int :=
  let top := decimalScale m e
  match (List.range 17).findSome? fun n => onGrid m e (top - 1 - (n : Nat)) with
  | some (digits, exponent) => dropZeros 17 digits exponent
  | none => if 0 ≤ e then (m * Nat.pow 2 e.toNat, 0) else (m * Nat.pow 5 (-e).toNat, e)

/-- The decimal digits of a natural number. -/
def digitsOf (n : Nat) : List Char := Nat.toDigits 10 n

def zeros (n : Nat) : List Char := List.replicate n '0'

/-- An exponent with its sign and at least two digits. -/
def exponentText (e : Int) : List Char :=
  let digits := digitsOf e.natAbs
  (if e < 0 then '-' else '+') :: (zeros (2 - digits.length) ++ digits)

/-- Lays out `digits * 10 ^ exponent`. -/
def layout (digits : Nat) (exponent : Int) : List Char :=
  let ds := digitsOf digits
  let lead := exponent + (ds.length : Int) - 1
  if -4 ≤ lead ∧ lead < 16 then
    if lead < 0 then '0' :: '.' :: (zeros (-lead - 1).toNat ++ ds)
    else if 0 ≤ exponent then ds ++ zeros exponent.toNat ++ ['.', '0']
    else ds.take (lead.toNat + 1) ++ '.' :: ds.drop (lead.toNat + 1)
  else
    let fraction := ds.drop 1
    ds.take 1 ++ (if fraction.isEmpty then [] else '.' :: fraction) ++ 'e' :: exponentText lead

/-- The text of a value: `1.0`, `1e+16`, `-0.0`, `inf`, `nan`. -/
def text : Binary64 → String
  | .nan _ => "nan"
  | .infinity false => "inf"
  | .infinity true => "-inf"
  | .finite negative m e =>
    let magnitude :=
      if m = 0 then ['0', '.', '0']
      else
        let (digits, exponent) := shortest m e
        layout digits exponent
    String.ofList (if negative then '-' :: magnitude else magnitude)

end Binary64
end Arazzo
