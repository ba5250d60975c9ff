import Arazzo.Error
import Arazzo.Text.Trim

/-!
# Located characters

A YAML text as a list of characters with their lines and columns. The four ways to end a line, which
are a carriage return, a line feed, both together and the next-line character, all become a line feed;
the separators of lines and paragraphs end a line too and stay themselves. One more character stands
for the end of the text.
-/

namespace Arazzo
namespace Yaml

/-- Whether a text may hold a character. -/
def isAllowed (c : Char) : Bool :=
  c = '\t' || c = '\n' || c = '\r' || c = '\x85' ||
    Text.inRanges [(0x20, 0x7E), (0xA0, 0xD7FF), (0xE000, 0xFFFD), (0x10000, 0x10FFFF)] (Text.codeOf c)

structure Spot where
  char : Char
  line : Nat
  column : Nat
deriving DecidableEq, Repr

namespace Spot

/-- Stands for the end of the text, in which it cannot occur. -/
def endMark : Char := '\x00'

def byteOrderMark : Char := '\uFEFF'

/-- Lays out a text from a line and a column on. A byte order mark takes no column. -/
def locate (line column : Nat) : List Char → List Spot
  | [] => [⟨endMark, line, column⟩]
  | '\r' :: '\n' :: cs => ⟨'\n', line, column⟩ :: locate (line + 1) 0 cs
  | c :: cs =>
    if c = '\r' ∨ c = '\n' ∨ c = '\x85' then ⟨'\n', line, column⟩ :: locate (line + 1) 0 cs
    else if c = '\u2028' ∨ c = '\u2029' then ⟨c, line, column⟩ :: locate (line + 1) 0 cs
    else ⟨c, line, column⟩ :: locate line (if c = byteOrderMark then column else column + 1) cs

/-- A text without the byte order mark that it may start with. -/
def ofText (cs : List Char) : List Spot :=
  locate 0 0 (if cs.head? = some byteOrderMark then cs.drop 1 else cs)

end Spot

open Spot

def isBreak (c : Char) : Bool := c = '\n' || c = '\u2028' || c = '\u2029'

/-- Whether a line ends in front of a character. -/
def isLineEnd (c : Char) : Bool := isBreak c || c = endMark

def isSpace (c : Char) : Bool := c = ' ' || c = '\t'

/-- Whether a character separates words. -/
def isGap (c : Char) : Bool := isLineEnd c || isSpace c

/-- Whether a name may hold a character. -/
def isNameChar (c : Char) : Bool := c.isAlphanum || c = '-' || c = '_'

/-- The marks of a flow collection: the comma and the brackets. -/
def isFlowMark (c : Char) : Bool :=
  c = ',' || c = '[' || c = ']' || c = '\x7b' || c = '\x7d'

def peek (spots : List Spot) : Char := (spots.head?.map Spot.char).getD endMark

def peekAt (n : Nat) (spots : List Spot) : Char := peek (spots.drop n)

def columnOf (spots : List Spot) : Nat := (spots.head?.map Spot.column).getD 0

/-- The characters of the longest beginning that a class contains, and the rest. -/
def takeRun (p : Char → Bool) : List Spot → List Char × List Spot
  | [] => ([], [])
  | s :: rest =>
    if p s.char then
      let (cs, rest) := takeRun p rest
      (s.char :: cs, rest)
    else ([], s :: rest)

def skipRun (p : Char → Bool) (spots : List Spot) : List Spot := spots.dropWhile fun s => p s.char

/-- Whether three equal marks with a gap behind them stand here. -/
def atMarks (mark : Char) (spots : List Spot) : Bool :=
  peek spots = mark && peekAt 1 spots = mark && peekAt 2 spots = mark && isGap (peekAt 3 spots)

/-- Whether the marks that part documents stand here. -/
def atSeparator (spots : List Spot) : Bool := atMarks '-' spots || atMarks '.' spots

/-- Passes the spaces and the comment up to the end of the line and the break behind it. -/
def finishLine (spots : List Spot) : Except Refusal (List Spot) :=
  let spots := skipRun (· = ' ') spots
  let spots := if peek spots = '#' then skipRun (!isLineEnd ·) spots else spots
  if isBreak (peek spots) then .ok (spots.drop 1)
  else if peek spots = endMark then .ok spots
  else .error .malformed

end Yaml
end Arazzo
