import Arazzo.Text.Charset.Reading
import Arazzo.Text.Encoding

/-!
# Characters by code

A coded character set is a list of runs: the code of a first character, and the characters of that code
and those that follow it. A replacement character marks a code without a character. No run is longer
than a row of 256 codes.
-/

namespace Arazzo
namespace Text
namespace Charset

/-- Runs of characters, each with the code of its first one. -/
abbrev Runs := List (Nat × String)

/-- The character of a code. -/
def Runs.get? (runs : Runs) (code : Nat) : Option Char :=
  runs.findSome? fun (first, text) =>
    if first ≤ code ∧ code < first + 256 then
      text.toList[code - first]?.filter (· ≠ replacement)
    else none

/-- The character of a code in the first of some sets that has it. -/
def Runs.firstOf? (sets : List Runs) (code : Nat) : Option Char :=
  sets.findSome? fun runs => runs.get? code

/-- The code of a lead byte and a trail byte. -/
def codeOfPair (lead trail : Nat) : Nat := lead * 256 + trail

/-- The code in which two bytes with a high bit are written with seven bits. -/
def sevenBits? (lead trail : Nat) : Option Nat :=
  if 0x80 ≤ lead ∧ 0x80 ≤ trail then some (codeOfPair (lead - 0x80) (trail - 0x80)) else none

/-- A charset of one and two bytes: what a byte stands for by itself, which bytes begin a pair, and what
a pair stands for. -/
structure Doubled where
  single : Nat → Option Char
  isLead : Nat → Bool
  pair : Nat → Nat → Option (List Char)

/-- The ASCII character of a byte. -/
def asciiChar? (n : Nat) : Option Char := if n < 0x80 then some (Char.ofNat n) else none

/-- ASCII, with every other byte beginning a pair. -/
def Doubled.ofPairs (pair : Nat → Nat → Option (List Char)) : Doubled :=
  ⟨asciiChar?, fun _ => true, pair⟩

/-- What stands at the head of bytes. A pair that stands for nothing counts as one wrong byte. -/
def Doubled.head (charset : Doubled) (b : UInt8) (bs : List UInt8) : Head :=
  match charset.single b.toNat with
  | some c => .chars 1 [c]
  | none =>
    if charset.isLead b.toNat then match bs with
      | [] => .unfinished
      | trail :: _ => match charset.pair b.toNat trail.toNat with
        | some cs => .chars 2 cs
        | none => .wrong 1
    else .wrong 1

end Charset
end Text
end Arazzo
