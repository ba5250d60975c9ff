import Arazzo.Expression.Literal
import Arazzo.Text.Trim

/-!
# Quotes and parentheses

A scan goes through a text and knows at each point whether it is between quotation marks and how
many parentheses are open. On it rest the division of a text at separators that stand outside both,
and the test whether one pair of parentheses encloses a whole text.
-/

namespace Arazzo

structure Scan where
  quote : Option Char
  depth : Int
deriving DecidableEq, Repr

namespace Scan

def start : Scan := ⟨none, 0⟩

def step (scan : Scan) (c : Char) : Scan :=
  match scan.quote with
  | some q => if c = q then { scan with quote := none } else scan
  | none =>
    if Literal.isQuote c then { scan with quote := some c }
    else if c = '(' then { scan with depth := scan.depth + 1 }
    else if c = ')' then { scan with depth := scan.depth - 1 }
    else scan

/-- Whether a character opens or closes something outside quotation marks. -/
def isDelimiter (c : Char) : Bool := Literal.isQuote c || c = '(' || c = ')'

/-- Whether a separator may begin with a character here. -/
def mayDivide (scan : Scan) (c : Char) : Bool :=
  scan.quote.isNone && scan.depth == 0 && !isDelimiter c

/-- Puts a character in front of the first segment. -/
def pushFirst (c : Char) : List (List Char) → List (List Char)
  | segment :: rest => (c :: segment) :: rest
  | [] => [[c]]

/-- The segments between separators outside quotes and parentheses; `skip` counts the characters of
a separator that are still to be passed over. -/
def segments (separator : List Char) : Nat → Scan → List Char → List (List Char)
  | _, _, [] => [[]]
  | skip + 1, scan, _ :: cs => segments separator skip scan cs
  | 0, scan, c :: cs =>
    if scan.mayDivide c && Text.startsWith separator (c :: cs) then
      [] :: segments separator (separator.length - 1) scan cs
    else pushFirst c (segments separator 0 (scan.step c) cs)

/-- The segments of a text, blanks at their ends dropped. -/
def split (separator cs : List Char) : List (List Char) :=
  (segments separator 0 start cs).map Text.strip

/-- Whether the parentheses close at the end of the text and not before. -/
def closesAtEnd : Scan → List Char → Bool
  | scan, [] => scan.depth == 0
  | scan, c :: cs =>
    let next := scan.step c
    if scan.quote.isNone && c = ')' && next.depth == 0 && !cs.isEmpty then false
    else closesAtEnd next cs

/-- Whether one pair of parentheses encloses the whole text. -/
def isWrapped (cs : List Char) : Bool :=
  cs.head? == some '(' && cs.getLast? == some ')' && closesAtEnd start cs

/-- What stands between the first and the last character. -/
def inner (cs : List Char) : List Char := (cs.drop 1).dropLast

end Scan
end Arazzo
