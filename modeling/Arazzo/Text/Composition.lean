import Arazzo.Text.Composition.Tables

/-!
# The composed form of a text

A text has one composed form: every character is taken apart, marks behind a letter are sorted by their
classes, and then letters and marks are put together as far as possible. Syllables of the Korean
alphabet are composed of their letters by arithmetic.
-/

namespace Arazzo
namespace Text

/-! ## Korean syllables -/

def syllableBase : Nat := 0xAC00

def leadBase : Nat := 0x1100

def vowelBase : Nat := 0x1161

/-- One before the first letter that can end a syllable. -/
def tailBase : Nat := 0x11A7

def leadCount : Nat := 19

def vowelCount : Nat := 21

def tailCount : Nat := 28

/-- The letters of a syllable. -/
def syllableLetters? (code : Nat) : Option (List Nat) :=
  if syllableBase ≤ code ∧ code < syllableBase + leadCount * vowelCount * tailCount then
    let i := code - syllableBase
    let tail := i % tailCount
    let letters := [leadBase + i / (vowelCount * tailCount), vowelBase + i / tailCount % vowelCount]
    some (if tail = 0 then letters else letters ++ [tailBase + tail])
  else none

/-- The syllable of two letters, or of a syllable and a letter that ends it. -/
def syllable? (a b : Nat) : Option Nat :=
  if leadBase ≤ a ∧ a < leadBase + leadCount ∧ vowelBase ≤ b ∧ b < vowelBase + vowelCount then
    some (syllableBase + ((a - leadBase) * vowelCount + (b - vowelBase)) * tailCount)
  else if syllableBase ≤ a ∧ a < syllableBase + leadCount * vowelCount * tailCount ∧
      (a - syllableBase) % tailCount = 0 ∧ tailBase < b ∧ b < tailBase + tailCount then
    some (a + (b - tailBase))
  else none

/-! ## Taking apart -/

/-- The longest chain of characters that stand for others is three. -/
def decomposeDepth : Nat := 4

/-- The characters that one is made of in the end. -/
def decomposed : Nat → Nat → List Nat
  | 0, code => [code]
  | depth + 1, code =>
    match (composites.image? code).or (replacedCodes.image? code) with
    | some image => image.flatMap (decomposed depth)
    | none => (syllableLetters? code).getD [code]

/-- The class of a mark; other characters are in class 0. -/
def markClass (code : Nat) : Nat :=
  match markClasses.find? code with
  | some range => range.image.headD 0
  | none => 0

/-- Puts a mark among the marks at the end of a text, given in reverse: behind those of its class and
of lower ones. -/
def putMark (code : Nat) : List Nat → List Nat
  | [] => [code]
  | last :: rest =>
    if 0 < markClass code ∧ markClass code < markClass last then last :: putMark code rest
    else code :: last :: rest

/-- The characters of a text taken apart, its marks in order. -/
def apart (codes : List Nat) : List Nat :=
  ((codes.flatMap (decomposed decomposeDepth)).foldl (fun taken code => putMark code taken) []).reverse

/-! ## Putting together -/

/-- The character that is composed of two. -/
def composite? (a b : Nat) : Option Nat :=
  (syllable? a b).or ((composites.ranges.find? fun range => range.image == [a, b]).map Mapped.first)

/-- A letter, the marks behind it that could not be composed with it, last one first, and the text in
front of them, in reverse. -/
structure Composing where
  done : List Nat
  letter : Option Nat
  marks : List Nat

def Composing.text (c : Composing) : List Nat := c.marks ++ c.letter.toList ++ c.done

/-- Adds a character: to the letter, if it composes with it and nothing between them touches it. -/
def Composing.add (c : Composing) (code : Nat) : Composing :=
  let fresh : Composing := if markClass code = 0 then ⟨c.text, some code, []⟩
    else { c with marks := code :: c.marks }
  match c.letter with
  | none => fresh
  | some letter =>
    let touches := match c.marks with
      | [] => true
      | last :: _ => markClass last < markClass code
    match if touches then composite? letter code else none with
    | some composed => { c with letter := some composed }
    | none => fresh

/-- The composed form of a text. -/
def composed (codes : List Nat) : List Nat :=
  ((apart codes).foldl Composing.add ⟨[], none, []⟩).text.reverse

def isComposed (codes : List Nat) : Bool := codes.all (· < 0x300) || composed codes == codes

end Text
end Arazzo
