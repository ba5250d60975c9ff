import Arazzo.Document.Value
import Arazzo.Number.Numeral
import Arazzo.Text.Encoding

/-!
# Reading JSON

One value with blanks around it. Besides the standard grammar the words for not-a-number and the
infinities are read. A numeral with a point or an exponent is a floating-point value; an integer has
at most 4300 digits. Of equal keys the last one wins.
-/

namespace Arazzo
namespace Json

open Text

def isSpace (c : Char) : Bool := c = ' ' || c = '\t' || c = '\n' || c = '\r'

def skipSpace (cs : List Char) : List Char := cs.dropWhile isSpace

/-- A value of four hexadecimal digits. -/
def hex4? (a b c d : Char) : Option Nat := do
  some ((((← hexDigit? a) * 16 + (← hexDigit? b)) * 16 + (← hexDigit? c)) * 16 + (← hexDigit? d))

/-- The character that a one-letter escape stands for. -/
def escaped? (c : Char) : Option Char :=
  if c = '\x22' ∨ c = '\\' ∨ c = '/' then some c
  else if c = 'b' then some '\x08'
  else if c = 'f' then some '\x0C'
  else if c = 'n' then some '\n'
  else if c = 'r' then some '\r'
  else if c = 't' then some '\t'
  else none

/-- The code points and escaped sixteen-bit units of a string behind its opening mark, and what
follows the closing one. -/
def readCodes : List Char → Option (List Nat × List Char)
  | [] => none
  | '\\' :: 'u' :: a :: b :: c :: d :: rest => do
    let unit ← hex4? a b c d
    let (codes, rest) ← readCodes rest
    some (unit :: codes, rest)
  | '\\' :: c :: rest => do
    let c ← escaped? c
    let (codes, rest) ← readCodes rest
    some (c.toNat :: codes, rest)
  | c :: rest =>
    if c = '\x22' then some ([], rest)
    else if c = '\\' ∨ c.toNat < 0x20 then none
    else do
      let (codes, rest) ← readCodes rest
      some (c.toNat :: codes, rest)

/-- The text of a string behind its opening mark, surrogate pairs joined, and what follows the closing
one. -/
def readString (cs : List Char) : Option (String × List Char) :=
  (readCodes cs).map fun (codes, rest) => (String.ofList (joinUnits codes), rest)

/-- The ASCII digits that a text starts with, and the rest. -/
def takeDigits (cs : List Char) : List Nat × List Char :=
  ((cs.takeWhile Char.isDigit).map fun c => c.toNat - '0'.toNat, cs.dropWhile Char.isDigit)

/-- The digits of an integer part: a zero alone, or digits that do not start with a zero. -/
def readIntegerPart : List Char → Option (List Nat × List Char)
  | '0' :: rest => some ([0], rest)
  | cs => match takeDigits cs with
    | ([], _) => none
    | found => some found

/-- A point with digits behind it; nothing is taken if they are missing. -/
def readFraction (cs : List Char) : Option (List Nat) × List Char :=
  match cs with
  | '.' :: rest => match takeDigits rest with
    | ([], _) => (none, cs)
    | (ds, rest) => (some ds, rest)
  | _ => (none, cs)

/-- An exponent; nothing is taken if its digits are missing. -/
def readExponent (cs : List Char) : Option Int × List Char :=
  match cs with
  | c :: rest =>
    if c = 'e' ∨ c = 'E' then
      let (negative, body) := Numeral.sign rest
      match takeDigits body with
      | ([], _) => (none, cs)
      | (ds, rest) => (some (Numeral.signed negative (Numeral.valueOf 10 ds)), rest)
    else (none, cs)
  | [] => (none, cs)

/-- A numeral, without its sign. -/
def readMagnitude (negative : Bool) (cs : List Char) : Option (Value × List Char) := do
  let (whole, rest) ← readIntegerPart cs
  let (fraction, rest) := readFraction rest
  let (exponent, rest) := readExponent rest
  match fraction, exponent with
  | none, none =>
    if whole.length > Numeral.digitLimit then none
    else some (.int (Numeral.signed negative (Numeral.valueOf 10 whole)), rest)
  | _, _ =>
    let ds := fraction.getD []
    some (.float (Numeral.decimalValue negative (whole ++ ds)
      (exponent.getD 0 - (ds.length : Int))), rest)

/-- The words of the grammar and their values. -/
def words : List (List Char × Value) :=
  [("null".toList, .null), ("true".toList, .bool true), ("false".toList, .bool false),
   ("NaN".toList, .float (.nan 0)), ("Infinity".toList, .float (.infinity false)),
   ("-Infinity".toList, .float (.infinity true))]

def readWord (cs : List Char) : Option (Value × List Char) :=
  words.findSome? fun (word, value) => (after? word cs).map fun rest => (value, rest)

def readScalar (cs : List Char) : Option (Value × List Char) :=
  match readWord cs with
  | some found => some found
  | none => match cs with
    | '-' :: rest => readMagnitude true rest
    | _ => readMagnitude false cs

mutual

/-- A value at the start of a text and what follows it. -/
def readValue : Nat → List Char → Option (Value × List Char)
  | 0, _ => none
  | _ + 1, '\x22' :: rest => do
    let (s, rest) ← readString rest
    some (.text s, rest)
  | fuel + 1, '[' :: rest => match skipSpace rest with
    | ']' :: rest => some (.list [], rest)
    | rest => do
      let (items, rest) ← readItems fuel rest
      some (.list items, rest)
  | fuel + 1, '\x7b' :: rest => match skipSpace rest with
    | '\x7d' :: rest => some (.map [], rest)
    | rest => do
      let (pairs, rest) ← readEntries fuel rest
      some (.map (Entries.ofPairs pairs), rest)
  | _ + 1, cs => readScalar cs

/-- The items of a list up to its closing bracket. -/
def readItems : Nat → List Char → Option (List Value × List Char)
  | 0, _ => none
  | fuel + 1, cs => do
    let (item, rest) ← readValue fuel cs
    match skipSpace rest with
    | ']' :: rest => some ([item], rest)
    | ',' :: rest => do
      let (items, rest) ← readItems fuel (skipSpace rest)
      some (item :: items, rest)
    | _ => none

/-- The entries of a mapping up to its closing brace. -/
def readEntries : Nat → List Char → Option (List (Scalar × Value) × List Char)
  | 0, _ => none
  | fuel + 1, '\x22' :: rest => do
    let (key, rest) ← readString rest
    match skipSpace rest with
    | ':' :: rest => do
      let (value, rest) ← readValue fuel (skipSpace rest)
      match skipSpace rest with
      | '\x7d' :: rest => some ([(.text key, value)], rest)
      | ',' :: rest => do
        let (entries, rest) ← readEntries fuel (skipSpace rest)
        some ((.text key, value) :: entries, rest)
      | _ => none
    | _ => none
  | _ + 1, _ => none

end

/-- The value that a text denotes. Reading consumes a character with every step, so the length
bounds the depth. -/
def read? (cs : List Char) : Option Value := do
  let (value, rest) ← readValue (cs.length + 1) (skipSpace cs)
  if (skipSpace rest).isEmpty then some value else none

/-- The value that the bytes of a text in one of the Unicode encodings denote. -/
def readBytes? (bytes : List UInt8) : Option Value := (readUnicode? bytes).bind read?

end Json
end Arazzo
