import Arazzo.Text.Class

/-!
# Sets and maps of code points

Properties of characters are written as text: hexadecimal code points, or ranges of them, with blanks
between. A set is a list of ranges, as in `2d 30-39 61-7a`. A map gives each range the image of its
first code point, as in `41-5a=61`; a step says that only every second code point of the range is meant,
as in `100-12e/2=101`, and points join the parts of a longer image, as in `df=53.53`. Ranges ascend and
do not overlap.
-/

namespace Arazzo
namespace Text

/-- The pieces of a text between characters of a class, without empty ones. -/
def piecesBetween (p : Char → Bool) (cs : List Char) : List (List Char) :=
  (cs.foldr (fun c pieces => if p c then [] :: pieces else match pieces with
    | piece :: rest => (c :: piece) :: rest
    | [] => [[c]]) [[]]).filter (!·.isEmpty)

def hexValue (cs : List Char) : Nat :=
  cs.foldl (fun n c => n * 16 + (hexDigit? c).getD 0) 0

/-- The least index from `low` up to `high` at which a predicate fails, if it holds up to there. -/
def firstFailure (p : Nat → Bool) (low high : Nat) : Nat :=
  if low < high then
    let middle := (low + high) / 2
    if p middle then firstFailure p (middle + 1) high else firstFailure p low middle
  else low
termination_by high - low

/-- Code points as ascending ranges. -/
structure CodeSet where
  ranges : Array (Nat × Nat)

namespace CodeSet

def ofText (s : String) : CodeSet :=
  ⟨((piecesBetween (fun c => c = ' ' || c = '\n') s.toList).map fun word =>
    match piecesBetween (· = '-') word with
    | [first, last] => (hexValue first, hexValue last)
    | _ => (hexValue word, hexValue word)).toArray⟩

def contains (set : CodeSet) (code : Nat) : Bool :=
  let i := firstFailure (fun i => match set.ranges[i]? with
    | some range => range.1 ≤ code
    | none => false) 0 set.ranges.size
  match set.ranges[i - 1]? with
  | some range => range.1 ≤ code && code ≤ range.2
  | none => false

end CodeSet

/-- A range of code points with the image of its first one. -/
structure Mapped where
  first : Nat
  last : Nat
  step : Nat
  image : List Nat

/-- Ascending ranges of code points with their images. -/
structure CodeMap where
  ranges : Array Mapped

namespace CodeMap

def mappedOf (word : List Char) : Mapped :=
  let parts := piecesBetween (· = '=') word
  let image := (piecesBetween (· = '.') (parts[1]?.getD [])).map hexValue
  let source := parts.headD []
  let steps := piecesBetween (· = '/') source
  let step := match steps with
    | [_, step] => hexValue step
    | _ => 1
  match piecesBetween (· = '-') (steps.headD []) with
  | [first, last] => ⟨hexValue first, hexValue last, step, image⟩
  | ends => ⟨hexValue (ends.headD []), hexValue (ends.headD []), step, image⟩

def ofText (s : String) : CodeMap :=
  ⟨((piecesBetween (fun c => c = ' ' || c = '\n') s.toList).map mappedOf).toArray⟩

/-- The range that holds a code point. -/
def find? (map : CodeMap) (code : Nat) : Option Mapped :=
  let i := firstFailure (fun i => match map.ranges[i]? with
    | some range => range.first ≤ code
    | none => false) 0 map.ranges.size
  (map.ranges[i - 1]?).filter fun range =>
    range.first ≤ code && code ≤ range.last && (code - range.first) % range.step == 0

/-- The image of a code point, as far behind that of its range as the code point is behind the first. -/
def image? (map : CodeMap) (code : Nat) : Option (List Nat) :=
  (map.find? code).map fun range => range.image.map (· + (code - range.first))

end CodeMap
end Text
end Arazzo
