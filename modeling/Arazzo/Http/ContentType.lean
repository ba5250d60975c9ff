import Arazzo.Error
import Arazzo.Http.Form
import Arazzo.Text.Charset.Names

/-!
# Content types

A content type has parameters, and one of them names the charset of a body. The value of a parameter may be
split into numbered parts, and parts may be escaped and tell the charset that they are written in. A
body whose charset is not named, or not known, reads as UTF-8.
-/

namespace Arazzo
namespace ContentType

open Text

/-- The pieces between semicolons. A semicolon between quotation marks is part of its piece, and so is
the rest if such a mark has no partner. -/
def pieces (isQuoted : Bool) (previous : Char) : List Char → List (List Char)
  | [] => [[]]
  | c :: cs =>
    if c = ';' ∧ !isQuoted then [] :: pieces false ' ' cs
    else
      let isMark := c = '\x22' && previous != '\\'
      match pieces (isQuoted != isMark) c cs with
      | piece :: rest => (c :: piece) :: rest
      | [] => [[c]]

/-- A value without the quotation marks or angle brackets around it. -/
def unwrap (cs : List Char) : List Char :=
  let inner := (cs.drop 1).dropLast
  if 1 < cs.length ∧ cs.head? = some '\x22' ∧ cs.getLast? = some '\x22' then
    replace ['\\', '\x22'] ['\x22'] (replace ['\\', '\\'] ['\\'] inner)
  else if 1 < cs.length ∧ cs.head? = some '<' ∧ cs.getLast? = some '>' then inner
  else cs

/-- The name and the value of a piece. Only a name with a value is written in small letters. -/
def entry (piece : List Char) : List Char × List Char :=
  match cutAt '=' piece with
  | some (name, value) => (lowerAscii (strip name), unwrap (strip value))
  | none => (strip piece, [])

/-- A part of a value: its number, if it is one of several, and whether it is escaped. -/
structure Part where
  number : Option Nat
  text : List Char
  isEscaped : Bool

inductive Value where
  | plain (text : List Char)
  /-- Characters that stand for bytes in a charset, ASCII if none is named. -/
  | bytes (charset : Option (List Char)) (text : List Char)

def isWordChar (c : Char) : Bool := c.isAlphanum || c = '_'

/-- The name of the whole and the number in the name of a part, as in `name*`, `name*0` and `name*0*`. -/
def partName? (name : List Char) : Option (List Char × List Char × Bool) :=
  let named (whole number : List Char) (isEscaped : Bool) :=
    if !whole.isEmpty && whole.all isWordChar && number.all Char.isDigit then
      some (whole, number, isEscaped)
    else none
  match splitOnChar '*' name with
  | [whole, []] => named whole [] true
  | [whole, number] => named whole number false
  | [whole, number, []] => if number.isEmpty then none else named whole number true
  | _ => none

/-- The part that an entry gives to a whole. -/
def part? (entry : List Char × List Char) : Option (Except Defect (List Char × Part)) :=
  (partName? entry.1).map fun (whole, number, isEscaped) =>
    if Numeral.digitLimit < number.length then .error (.literalTooLong number.length)
    else
      let n := if number.isEmpty then none
        else some (Numeral.valueOf 10 (number.filterMap asciiDigit?))
      .ok (whole, ⟨n, entry.2, isEscaped⟩)

/-- Whether a part comes before another or is like it. -/
def Part.isBefore (a b : Part) : Bool :=
  let m := a.number.getD 0
  let n := b.number.getD 0
  let s := String.ofList a.text
  let t := String.ofList b.text
  m < n || (m = n && (s < t || (s = t && (!a.isEscaped || b.isEscaped))))

def Part.unescaped (part : Part) : List Char :=
  if part.isEscaped then readLatin1 (Form.unescapeBytes part.text) else part.text

/-- The value of the parts of one whole. Numbered parts do not go with one that has no number. -/
def Value.ofParts (parts : List Part) : Except Defect Value :=
  if parts.any (·.number.isNone) && parts.any (·.number.isSome) then .error .wrongKind
  else
    let text := (parts.mergeSort Part.isBefore).flatMap Part.unescaped
    if parts.any Part.isEscaped then
      match (cutAt '\x27' text).bind fun (charset, rest) =>
        (cutAt '\x27' rest).map fun (_, rest) => (charset, rest) with
      | some (charset, rest) => .ok (.bytes (if charset.isEmpty then none else some charset) rest)
      | none => .ok (.bytes none text)
    else .ok (.plain text)

/-- The parameters of a content type: whole ones in their order, and then those that have parts. What
stands in front is an entry without parts. -/
def parameters (contentType : List Char) : Except Defect (List (List Char × Value)) := do
  let entries := (pieces false ' ' contentType).map entry
  let others := entries.drop 1
  let whole := entries.take 1 ++ others.filter fun e => (part? e).isNone
  let parts ← (others.filterMap part?).mapM id
  let joined ← (parts.map Prod.fst).eraseDups.mapM fun name => do
    let value ← Value.ofParts ((parts.filter fun p => p.1 = name).map Prod.snd)
    .ok (name, value)
  .ok (whole.map (fun e => (e.1, .plain e.2)) ++ joined)

/-- The charset with a name, which must not hold a null character. -/
def named (name : List Char) : Except Defect (Option Charset) :=
  if name.contains '\x00' then .error (.unreadableText .unusableName) else .ok (Charset.named? name)

/-- The text of a value; bytes that cannot be read stand for themselves. -/
def Value.text : Value → Except Defect (List Char)
  | .plain text => .ok text
  | .bytes charset text => do
    let charset? ← named (charset.getD "us-ascii".toList)
    let bytes := text.map fun c => UInt8.ofNat c.toNat
    match charset? with
    | none => .ok text
    | some charset => match charset.decode? bytes with
      | .ok decoded => .ok (decoded.getD text)
      | .error fault => .error (.unreadableText fault)

/-- The charset that a content type names. -/
def charset (contentType : Option String) : Except Defect Charset :=
  match contentType with
  | none => .ok .utf8
  | some text => do
    match (← parameters text.toList).find? fun p => lowerAscii p.1 = "charset".toList with
    | none => .ok .utf8
    | some (_, value) =>
      let name ← value.text
      if isAscii name then .ok ((← named (lowerAscii name)).getD .utf8) else .ok .utf8

end ContentType
end Arazzo
