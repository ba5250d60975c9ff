import Arazzo.Text.Class

/-!
# Punycode

A text as ASCII: its ASCII characters first, and behind a hyphen a numeral that says which other
characters go where. The others come in ascending order, each given by the distance from the one before
in a numeral whose digits weigh by the distances so far. Reading a distance ends at its first small digit.
-/

namespace Arazzo
namespace Text
namespace Punycode

/-- One more than the value of the largest digit. -/
def digitBase : Nat := 36

/-- A digit: a letter, or from 26 on a decimal digit. -/
def digit (n : Nat) : Char := if n < 26 then Char.ofNat (97 + n) else Char.ofNat (22 + n)

/-- The value of a digit; letters of both cases count. -/
def digitValue? (c : Char) : Option Nat :=
  if 'a' ≤ c ∧ c ≤ 'z' then some (c.toNat - 97)
  else if 'A' ≤ c ∧ c ≤ 'Z' then some (c.toNat - 65)
  else if '0' ≤ c ∧ c ≤ '9' then some (c.toNat - 22)
  else none

/-- The threshold of a digit at a place, given the bias: smaller digits end a numeral. -/
def threshold (place bias : Nat) : Nat := min 26 (max 1 (place - bias))

/-- Divides a distance down to the range of one digit; the number of divisions. -/
def divisions : Nat → Nat → Nat × Nat
  | 0, n => (0, n)
  | fuel + 1, n =>
    if n ≤ 455 then (0, n)
    else
      let (count, n) := divisions fuel (n / 35)
      (count + 1, n)

/-- The bias behind a distance, given how many characters have been placed. -/
def nextBias (first : Bool) (placed distance : Nat) : Nat :=
  let n := if first then distance / 700 else distance / 2
  let n := n + n / placed
  let (count, n) := divisions n n
  digitBase * count + digitBase * n / (n + 38)

/-! ## Writing -/

/-- The digits of a distance, the lowest first. Each digit divides it by at least ten, so the distance
bounds their number. -/
def distanceDigits (bias : Nat) : Nat → Nat → Nat → List Char
  | 0, _, n => [digit n]
  | fuel + 1, place, n =>
    let t := threshold place bias
    if n < t then [digit n]
    else
      digit (t + (n - t) % (digitBase - t)) ::
        distanceDigits bias fuel (place + digitBase) ((n - t) / (digitBase - t))

/-- Where the writing of a text stands: the distance since the last character placed, the bias, the
number of characters placed, and the digits so far. -/
structure Placing where
  distance : Nat
  bias : Nat
  placed : Nat
  digits : List Char

/-- Passes a character of the text while the characters of a code point are being placed. -/
def place (basic code : Nat) (p : Placing) (c : Nat) : Placing :=
  if c < code then { p with distance := p.distance + 1 }
  else if c = code then
    { distance := 0
      bias := nextBias (p.placed = basic) (p.placed + 1) p.distance
      placed := p.placed + 1
      digits := p.digits ++ distanceDigits p.bias p.distance digitBase p.distance }
  else p

/-- Places the characters of one code point after the other, in ascending order. -/
def placeAll (text : List Nat) (basic : Nat) : Nat → List Nat → Placing → Placing
  | _, [], p => p
  | last, code :: codes, p =>
    let p := { p with distance := p.distance + (code - last) * (p.placed + 1) }
    let p := text.foldl (place basic code) p
    placeAll text basic (code + 1) codes { p with distance := p.distance + 1 }

/-- The code points of a text beyond ASCII, ascending and each once. -/
def wideCodes (text : List Nat) : List Nat :=
  ((text.filter (128 ≤ ·)).mergeSort (· ≤ ·)).eraseDups

/-- The ASCII characters of a text, a hyphen if there are any, and the numeral of the others. -/
def write (text : List Nat) : List Char :=
  let basic := (text.filter (· < 128)).map Char.ofNat
  let p := placeAll text basic.length 128 (wideCodes text) ⟨0, 72, basic.length, []⟩
  (if basic.isEmpty then [] else basic ++ ['-']) ++ p.digits

/-! ## Reading -/

/-- Where the reading of a text stands: the characters so far, the next distance under way with the place
and the weight of its next digit, the place behind the last character inserted, its code point and the
bias. -/
structure Inserting where
  text : List Nat
  distance : Nat
  weight : Nat
  place : Nat
  position : Nat
  code : Nat
  bias : Nat
  first : Bool

def Inserting.start (basic : List Nat) : Inserting := ⟨basic, 0, 1, digitBase, 0, 128, 72, true⟩

/-- The greatest code point. -/
def greatestCode : Nat := 0x10FFFF

/-- Inserts the character whose distance is complete. One beyond the last code point has none, unless
another stands in for it. -/
def Inserting.insert? (standIn : Option Nat) (s : Inserting) : Option Inserting :=
  let length := s.text.length + 1
  let position := s.position + s.distance
  let code := s.code + position / length
  let position := position % length
  let code? := if code ≤ greatestCode then some code else standIn
  code?.map fun code =>
    { text := s.text.take position ++ code :: s.text.drop position
      distance := 0, weight := 1, place := digitBase, position := position + 1, code := code
      bias := nextBias s.first length s.distance
      first := false }

/-- Reads the digits behind the basic characters: the text, or what was read before a fault. -/
def insertAll (standIn : Option Nat) : Inserting → List Char → Except (List Nat) (List Nat)
  | s, [] => if s.place = digitBase then .ok s.text else .error s.text
  | s, c :: cs => match digitValue? c with
    | none => .error s.text
    | some d =>
      let t := threshold s.place s.bias
      let s := { s with distance := s.distance + d * s.weight }
      if d < t then match s.insert? standIn with
        | some s => insertAll standIn s cs
        | none => .error s.text
      else insertAll standIn
        { s with weight := s.weight * (digitBase - t), place := s.place + digitBase } cs

/-- What stands before and behind the last hyphen; without one nothing stands before it. -/
def cutBasic (cs : List Char) : List Char × List Char :=
  match cs.reverse.dropWhile (· ≠ '-') with
  | _ :: basic => (basic.reverse, (cs.reverse.takeWhile (· ≠ '-')).reverse)
  | [] => ([], cs)

/-- The text of a written form. -/
def read? (cs : List Char) : Option (List Nat) :=
  let (basic, digits) := cutBasic cs
  (insertAll none (.start (basic.map Char.toNat)) digits).toOption

/-- The text of a written form as far as it can be read; a question mark stands in for characters beyond
the last code point. -/
def readLoose (cs : List Char) : List Nat :=
  let (basic, digits) := cutBasic cs
  match insertAll (some 63) (.start (basic.map Char.toNat)) digits with
  | .ok text => text
  | .error text => text

end Punycode
end Text
end Arazzo
