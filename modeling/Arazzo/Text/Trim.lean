import Arazzo.Text.Class

/-!
# Trimming and cutting

Operations on texts as lists of characters: trimming a class of characters from the ends, cutting
at a separator, and replacing one piece by another.
-/

namespace Arazzo
namespace Text

variable (p : Char → Bool)

def trimLeft (cs : List Char) : List Char := cs.dropWhile p

def trimRight (cs : List Char) : List Char := (cs.reverse.dropWhile p).reverse

/-- Drops the characters of the class from both ends. -/
def trim (cs : List Char) : List Char := trimRight p (trimLeft p cs)

/-- Drops blanks from both ends. -/
def strip (cs : List Char) : List Char := trim isBlank cs

/-- What follows `head`, if the text starts with it. -/
def after? : List Char → List Char → Option (List Char)
  | [], cs => some cs
  | _ :: _, [] => none
  | h :: head, c :: cs => if h = c then after? head cs else none

def startsWith (head cs : List Char) : Bool := (after? head cs).isSome

def endsWith (tail cs : List Char) : Bool := startsWith tail.reverse cs.reverse

theorem after?_eq_some_iff {head cs rest : List Char} :
    after? head cs = some rest ↔ cs = head ++ rest := by
  induction head generalizing cs with
  | nil => simp [after?, eq_comm]
  | cons h head ih =>
    cases cs with
    | nil => simp [after?]
    | cons c cs =>
      by_cases hc : h = c
      · simp [after?, hc, ih]
      · simp [after?, hc, Ne.symm hc]

/-- The pieces between the occurrences of one character. -/
def splitOnChar (sep : Char) : List Char → List (List Char)
  | [] => [[]]
  | c :: cs =>
    if c = sep then [] :: splitOnChar sep cs
    else match splitOnChar sep cs with
      | piece :: pieces => (c :: piece) :: pieces
      | [] => [[c]]

/-- The text before and after the first occurrence of a character. -/
def cutAt (sep : Char) : List Char → Option (List Char × List Char)
  | [] => none
  | c :: cs =>
    if c = sep then some ([], cs)
    else (cutAt sep cs).map fun (before, after) => (c :: before, after)

/-- Replaces every occurrence of a non-empty piece, from left to right and without overlap; `skip`
counts the characters of an occurrence that are still to be passed over. -/
def replaceFrom (piece new : List Char) : Nat → List Char → List Char
  | _, [] => []
  | skip + 1, _ :: cs => replaceFrom piece new skip cs
  | 0, c :: cs =>
    if startsWith piece (c :: cs) then new ++ replaceFrom piece new (piece.length - 1) cs
    else c :: replaceFrom piece new 0 cs

def replace (piece new cs : List Char) : List Char :=
  if piece.isEmpty then cs else replaceFrom piece new 0 cs

/-- Lower case of the ASCII letters; other characters stay. -/
def lowerAscii (cs : List Char) : List Char := cs.map Char.toLower

def lowerString (s : String) : String := String.ofList (lowerAscii s.toList)

def isAscii (cs : List Char) : Bool := cs.all fun c => c.toNat < 128

end Text
end Arazzo
