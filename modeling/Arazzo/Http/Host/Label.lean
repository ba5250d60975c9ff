import Arazzo.Error
import Arazzo.Http.Host.Direction
import Arazzo.Http.Host.Joining
import Arazzo.Text.Composition
import Arazzo.Text.Punycode
import Arazzo.Text.Trim

/-!
# Labels of host names

A label is composed, has no hyphen at its ends nor two at its third and fourth place, starts with no
mark, holds letters and signs that fit their context, and keeps one direction. In a URL a label beyond
ASCII is written in Punycode behind a mark of four characters.
-/

namespace Arazzo
namespace Host

open Text

/-- The code of the hyphen. -/
def hyphen : Nat := 45

/-- The most characters of a label that is checked, and of its written form. -/
def labelLimit : Nat := 254

def writtenLimit : Nat := 63

/-- Hyphens stand neither at an end of a label nor at its third and fourth place. -/
def hyphensFit (label : List Nat) : Bool :=
  label.head? ≠ some hyphen && label.getLast? ≠ some hyphen &&
    (label.drop 2).take 2 ≠ [hyphen, hyphen]

/-- Checks the characters of a label one after the other. -/
def checkCodes : List Nat → List Nat → Except NameFault Unit
  | _, [] => .ok ()
  | before, code :: after =>
    if letterCodes.contains code then checkCodes (code :: before) after
    else if isJoiner code then
      if joinerFits code before after then checkCodes (code :: before) after
      else .error .malformed
    else if needsContext code then
      if signFits code before after then checkCodes (code :: before) after else .error .context
    else .error .letter

def checkLabel (label : List Nat) : Except NameFault Unit := do
  if label.isEmpty || labelLimit < label.length then .error .malformed
  if !isComposed label || !hyphensFit label then .error .malformed
  if label.head?.any markCodes.contains then .error .malformed
  checkCodes [] label
  if directionsFit label then .ok () else .error .direction

/-- What marks a label that is written in Punycode. -/
def asciiMark : List Char := ['x', 'n', '-', '-']

/-- The characters that an ASCII label stands for. One in Punycode must be the written form of them. -/
def readLabel (label : List Char) : Except NameFault (List Nat) :=
  match after? asciiMark (lowerAscii label) with
  | some [] => .error .malformed
  | some digits =>
    if digits.getLast? = some '-' then .error .malformed
    else match Punycode.read? digits with
      | some codes => do
        checkLabel codes
        if Punycode.write codes = digits then .ok codes else .error .malformed
      | none => .error .malformed
  | none => do
    let codes := (lowerAscii label).map Char.toNat
    checkLabel codes
    .ok codes

/-- The written form of a label. -/
def writeLabel (label : List Char) : Except NameFault (List Char) := do
  let written ←
    if isAscii label then do
      let _ ← readLabel label
      .ok label
    else do
      let codes := label.map Char.toNat
      checkLabel codes
      .ok (asciiMark ++ Punycode.write codes)
  if written.length ≤ writtenLimit then .ok written else .error .malformed

end Host
end Arazzo
