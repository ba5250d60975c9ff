import Arazzo.Text.Encoding
import Arazzo.Yaml.Spot

/-!
# Tokens

What a YAML text consists of, and the readers of those tokens that are words of their own: anchors and
aliases, tags and directives. The last token of a text is its end or the refusal that stopped the
reading.
-/

namespace Arazzo
namespace Yaml

open Spot

/-- A line in front of a document that is about its form. -/
inductive Directive where
  | version (major : Nat)
  | handle (name replaced : String)
  | other
deriving DecidableEq, Repr

inductive Token where
  | directive (d : Directive)
  | documentStart
  | documentEnd
  | finish
  | fault (r : Refusal)
  /-- A list or mapping starts whose parts stand in one column. -/
  | indentList
  | indentMap
  | dedent
  | listOpen
  | listClose
  | mapOpen
  | mapClose
  | comma
  | dash
  | key
  | colon
  | alias (name : String)
  | anchor (name : String)
  | tag (handle : Option String) (suffix : String)
  | scalar (text : String) (plain : Bool)
deriving DecidableEq, Repr

/-! ## Anchors and aliases -/

/-- Whether an anchor or alias may end in front of a character. -/
def endsAnchor (c : Char) : Bool :=
  isGap c || c = '?' || c = ':' || c = ',' || c = ']' || c = '\x7d' || c = '%' || c = '@' ||
    c = '\x60'

/-- The name behind the mark of an anchor or alias. -/
def readName (make : String → Token) (spots : List Spot) : Except Refusal (Token × List Spot) :=
  let (cs, rest) := takeRun isNameChar spots
  if cs.isEmpty || !endsAnchor (peek rest) then .error .malformed
  else .ok (make (String.ofList cs), rest)

/-! ## Tags -/

/-- The characters of a URI, the percent sign of its escapes among them. -/
def isUriChar (c : Char) : Bool :=
  c.isAlphanum || "-;/?:@&=+$,_.!~*'()[]%".toList.contains c

/-- The bytes of a URI, its escapes undone. -/
def uriBytes : List Char → Option (List UInt8)
  | [] => some []
  | '%' :: a :: b :: rest => do
    let n := (← Text.hexDigit? a) * 16 + (← Text.hexDigit? b)
    return UInt8.ofNat n :: (← uriBytes rest)
  | c :: rest => if c = '%' then none else (uriBytes rest).map (UInt8.ofNat c.toNat :: ·)

def uri (spots : List Spot) : Except Refusal (List Char × List Spot) :=
  let (cs, rest) := takeRun isUriChar spots
  if cs.isEmpty then .error .malformed
  else match (uriBytes cs).bind Text.readUtf8? with
    | some cs => .ok (cs, rest)
    | none => .error .malformed

/-- A word between exclamation marks, or one mark alone in front of a blank. -/
def tagHandle (spots : List Spot) : Except Refusal (List Char × List Spot) :=
  if peek spots ≠ '!' then .error .malformed
  else if peekAt 1 spots = ' ' then .ok (['!'], spots.drop 1)
  else
    let (cs, rest) := takeRun isNameChar (spots.drop 1)
    if peek rest = '!' then .ok ('!' :: cs ++ ['!'], rest.drop 1) else .error .malformed

def endsWord (c : Char) : Bool := isLineEnd c || c = ' '

/-- A whole tag between angle brackets, a mark alone, or a suffix behind a handle. -/
def tagParts (spots : List Spot) : Except Refusal (Option String × String × List Spot) := do
  let next := peekAt 1 spots
  if next = '<' then
    let (cs, rest) ← uri (spots.drop 2)
    if peek rest = '>' then .ok (none, String.ofList cs, rest.drop 1) else .error .malformed
  else if isGap next then .ok (none, "!", spots.drop 1)
  else
    let (word, _) := takeRun (!endsWord ·) (spots.drop 1)
    let (handle, rest) ←
      if word.contains '!' then tagHandle spots else .ok (['!'], spots.drop 1)
    let (cs, rest) ← uri rest
    .ok (some (String.ofList handle), String.ofList cs, rest)

def readTag (spots : List Spot) : Except Refusal (Token × List Spot) := do
  let (handle, suffix, rest) ← tagParts spots
  if endsWord (peek rest) then .ok (.tag handle suffix, rest) else .error .malformed

/-! ## Directives -/

/-- An ASCII numeral. -/
def versionNumber (spots : List Spot) : Except Refusal (Nat × List Spot) :=
  let (cs, rest) := takeRun Char.isDigit spots
  if cs.isEmpty then .error .malformed
  else if cs.length > 4300 then .error (.defect .unbuildableScalar)
  else .ok ((cs.filterMap Text.asciiDigit?).foldl (fun n d => n * 10 + d) 0, rest)

def version (spots : List Spot) : Except Refusal (Directive × List Spot) := do
  let (major, rest) ← versionNumber (skipRun (· = ' ') spots)
  if peek rest ≠ '.' then .error .malformed
  let (_, rest) ← versionNumber (rest.drop 1)
  if endsWord (peek rest) then .ok (.version major, rest) else .error .malformed

def handleDirective (spots : List Spot) : Except Refusal (Directive × List Spot) := do
  let (name, rest) ← tagHandle (skipRun (· = ' ') spots)
  if peek rest ≠ ' ' then .error .malformed
  let (replaced, rest) ← uri (skipRun (· = ' ') rest)
  if endsWord (peek rest) then
    .ok (.handle (String.ofList name) (String.ofList replaced), rest)
  else .error .malformed

/-- The directive behind a percent sign, with the rest of its line. -/
def readDirective (spots : List Spot) : Except Refusal (Token × List Spot) := do
  let (name, rest) := takeRun isNameChar spots
  if name.isEmpty || !endsWord (peek rest) then .error .malformed
  let (d, rest) ←
    if name = "YAML".toList then version rest
    else if name = "TAG".toList then handleDirective rest
    else .ok (.other, skipRun (!isLineEnd ·) rest)
  .ok (.directive d, ← finishLine rest)

end Yaml
end Arazzo
