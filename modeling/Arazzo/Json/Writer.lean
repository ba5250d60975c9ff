import Arazzo.Document.Display
import Arazzo.Error

/-!
# Writing JSON

A style says how items and keys are separated, whether characters beyond ASCII are escaped, whether
nested values stand on lines of their own, and what becomes of a value that JSON has no form for.
Keys other than texts are written as the text of their value.
-/

namespace Arazzo
namespace Json

open Text

structure Style where
  itemSeparator : List Char
  keySeparator : List Char
  /-- Escape every character that is not printable ASCII. -/
  ascii : Bool
  /-- Columns of one level of nesting, if nested values stand on lines of their own. -/
  indent : Option Nat
  /-- Write the plain text of a value without a JSON form. -/
  plainOthers : Bool

/-- One line with a blank after each separator. -/
def Style.spaced : Style := ⟨[',', ' '], [':', ' '], true, none, false⟩

/-- One line without blanks, characters as they are. -/
def Style.compact : Style := ⟨[','], [':'], false, none, false⟩

/-- One line, with the plain text of a value that has no JSON form. -/
def Style.lenient : Style := { Style.spaced with plainOthers := true }

/-- Two columns for each level, with the plain text of a value that has no JSON form. -/
def Style.report : Style := { Style.lenient with itemSeparator := [','], indent := some 2 }

def unitEscape (u : Nat) : List Char := '\\' :: 'u' :: hex 4 u

/-- The two surrogates of a character beyond the first plane, as escapes. -/
def wideEscape (n : Nat) : List Char :=
  unitEscape (0xD800 + (n - 0x10000) / 1024) ++ unitEscape (0xDC00 + (n - 0x10000) % 1024)

def writeChar (ascii : Bool) (c : Char) : List Char :=
  if c = '\x22' ∨ c = '\\' then ['\\', c]
  else if c = '\n' then ['\\', 'n']
  else if c = '\r' then ['\\', 'r']
  else if c = '\t' then ['\\', 't']
  else if c = '\x0C' then ['\\', 'f']
  else if c = '\x08' then ['\\', 'b']
  else if c.toNat < 0x20 then unitEscape c.toNat
  else if isLent c then unitEscape (codeOf c)
  else if ascii ∧ 0x7F ≤ c.toNat then
    if c.toNat < 0x10000 then unitEscape c.toNat else wideEscape c.toNat
  else [c]

def writeText (ascii : Bool) (cs : List Char) : List Char :=
  '\x22' :: cs.flatMap (writeChar ascii) ++ ['\x22']

def writeFloat : Binary64 → List Char
  | .nan _ => "NaN".toList
  | .infinity false => "Infinity".toList
  | .infinity true => "-Infinity".toList
  | x => x.text.toList

/-- The text of an integer. -/
def writeInteger (i : Int) : Except Defect (List Char) :=
  if (Scalar.int i).isLong then .error .numberTooLong else .ok (toString i).toList

/-- The text of a key. -/
def keyText : Scalar → Except Defect (List Char)
  | .text s => .ok s.toList
  | .null => .ok "null".toList
  | .bool true => .ok "true".toList
  | .bool false => .ok "false".toList
  | .int i => writeInteger i
  | .float x => .ok (writeFloat x)
  | _ => .error .noJsonForm

/-- What stands for a value without a JSON form. -/
def writeOther (style : Style) (v : Value) : Except Defect (List Char) :=
  if !style.plainOthers then .error .noJsonForm
  else if v.hasLong then .error .numberTooLong
  else .ok (writeText style.ascii v.plain.toList)

def writeScalar (style : Style) : Scalar → Except Defect (List Char)
  | .null => .ok "null".toList
  | .bool true => .ok "true".toList
  | .bool false => .ok "false".toList
  | .int i => writeInteger i
  | .float x => .ok (writeFloat x)
  | .text s => .ok (writeText style.ascii s.toList)
  | .steps => .error .circularValue
  | s => writeOther style (.scalar s)

/-- The line break in front of an item at a depth. -/
def lineBreak (style : Style) (depth : Nat) : List Char :=
  match style.indent with
  | some columns => '\n' :: List.replicate (columns * depth) ' '
  | none => []

/-- Puts separators between written items and brackets around them. -/
def enclose (style : Style) (depth : Nat) (opening closing : Char) : List (List Char) → List Char
  | [] => [opening, closing]
  | item :: items =>
    let start := lineBreak style (depth + 1)
    opening :: (start ++ item ++ items.flatMap fun next => style.itemSeparator ++ start ++ next) ++
      lineBreak style depth ++ [closing]

mutual

/-- The JSON text of a value at a depth of nesting. -/
def writeAt (style : Style) (depth : Nat) : Value → Except Defect (List Char)
  | .scalar s => writeScalar style s
  | .list items => (writeItems style (depth + 1) items).map (enclose style depth '[' ']')
  | .tuple items => (writeItems style (depth + 1) items).map (enclose style depth '[' ']')
  | .set members => writeOther style (.set members)
  | .map entries =>
    (writeEntries style (depth + 1) entries).map (enclose style depth '\x7b' '\x7d')

def writeItems (style : Style) (depth : Nat) : List Value → Except Defect (List (List Char))
  | [] => .ok []
  | v :: rest => do
    let item ← writeAt style depth v
    let items ← writeItems style depth rest
    .ok (item :: items)

def writeEntries (style : Style) (depth : Nat) :
    List (Scalar × Value) → Except Defect (List (List Char))
  | [] => .ok []
  | (k, v) :: rest => do
    let key ← keyText k
    let item ← writeAt style depth v
    let items ← writeEntries style depth rest
    .ok ((writeText style.ascii key ++ style.keySeparator ++ item) :: items)

end

/-- The JSON text of a value, if each of its parts has one. -/
def write (style : Style) (v : Value) : Except Defect String :=
  (writeAt style 0 v).map String.ofList

end Json
end Arazzo
