import Arazzo.Error
import Arazzo.Text.Base64
import Arazzo.Yaml.Tag

/-!
# The meaning of scalars

The scalar that a text is by its tag: truth values by their words, integers in four bases and in base
sixty, decimals, bytes in base 64, dates and instants.
-/

namespace Arazzo
namespace Yaml

open Text

def unbuildable {α : Type} : Except Refusal α := .error (.defect .unbuildableScalar)

def built {α : Type} : Option α → Except Refusal α
  | some a => .ok a
  | none => unbuildable

def truthValues : List (String × Bool) :=
  [("yes", true), ("no", false), ("true", true), ("false", false), ("on", true), ("off", false)]

def boolOf (text : String) : Except Refusal Scalar :=
  match truthValues.lookup (lowerString text) with
  | some b => .ok (.bool b)
  | none => .error (.defect .unknownTruthWord)

def withoutUnderscores (text : String) : List Char := text.toList.filter (· ≠ '_')

/-- The value of digits in base sixty, the first weighing most. -/
def sixtieths (ds : List Int) : Int := ds.foldl (fun n d => n * 60 + d) 0

def decimalInteger (cs : List Char) : Except Refusal Int := built (Numeral.integer? cs).toOption

/-- The magnitude of an integer: in base two, sixteen or eight by its first characters, in base sixty
if it has colons, else in base ten. -/
def magnitude (cs : List Char) : Except Refusal Int :=
  match cs with
  | [] => .error (.defect .emptyNumeral)
  | ['0'] => .ok 0
  | '0' :: 'b' :: rest => built (Numeral.integerIn? 2 rest)
  | '0' :: 'x' :: rest => built (Numeral.integerIn? 16 rest)
  | '0' :: _ => built (Numeral.integerIn? 8 cs)
  | _ =>
    if cs.contains ':' then do
      .ok (sixtieths (← (splitOnChar ':' cs).mapM decimalInteger))
    else decimalInteger cs

def intOf (text : String) : Except Refusal Scalar := do
  let (negative, body) := Numeral.sign (withoutUnderscores text)
  let n ← magnitude body
  .ok (.int (if negative then -n else n))

/-- The sum of the parts of a decimal in base sixty, from the last part on, behind a sum so far. A
weight that no floating-point number comes near is too large. -/
def sixtiethSum (sum : Binary64) (weight : Int) : List Binary64 → Except Refusal Binary64
  | [] => .ok sum
  | part :: parts =>
    let factor := Binary64.ofInt weight
    if factor.isFinite then sixtiethSum (sum.add (part.mul factor)) (weight * 60) parts
    else .error (.defect .numberTooLarge)

/-- The payload of not-a-number where its own word stands. -/
def wordPayload : Nat := 1

/-- The value of a decimal; not-a-number gets a payload unless its own word stands there. -/
def floatOf (payload : Nat) (text : String) : Except Refusal Scalar := do
  let cs := lowerAscii (withoutUnderscores text)
  if cs.isEmpty then .error (.defect .emptyNumeral)
  let (negative, body) := Numeral.sign cs
  if body = ".nan".toList then return .float (.nan wordPayload)
  let x ←
    if body = ".inf".toList then .ok (.infinity false)
    else if body.contains ':' then do
      let parts ← (splitOnChar ':' body).mapM fun part => built (Numeral.float? part)
      sixtiethSum (.zero false) 1 parts.reverse
    else built (Numeral.float? body)
  match x with
  | .nan _ => .ok (.float (.nan payload))
  | x => .ok (.float (if negative then x.neg else x))

def binaryOf (text : String) : Except Refusal Scalar :=
  let cs := text.toList
  match if isAscii cs then readLooseBase64? cs else none with
  | some bytes => .ok (.bytes bytes)
  | none => .error .malformed

def timestampOf (text : String) : Except Refusal Scalar :=
  match Timestamp.read? (Tag.withoutFinalBreak text.toList) with
  | none => .error (.defect .malformedTimestamp)
  | some t => match t.scalar? with
    | some s => .ok s
    | none => .error (.defect .dateOutOfRange)

/-- The scalar that a text is by a tag. -/
def scalarOf (payload : Nat) (tag : Tag) (text : String) : Except Refusal Scalar :=
  match tag with
  | .null => .ok .null
  | .bool => boolOf text
  | .int => intOf text
  | .float => floatOf payload text
  | .binary => binaryOf text
  | .timestamp => timestampOf text
  | .text => .ok (.text text)
  | _ => .error .malformed

end Yaml
end Arazzo
