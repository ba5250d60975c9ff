import Arazzo.Text.Encoding
import Arazzo.Text.Quoted
import Arazzo.Text.Trim

/-!
# Percent coding and form data

A byte is escaped as a percent sign and two hexadecimal digits. Form data joins names and values by
equals signs and pairs by ampersands; in a name or a value letters, digits and `_.-~` stand for
themselves, a blank becomes a plus sign and every other character its escaped bytes. Reading undoes
this: pairs without an equals sign have an empty value, empty pairs are passed over, and bytes that
are no UTF-8 read as replacement characters.
-/

namespace Arazzo
namespace Form

open Text

/-- A byte as a percent sign and two capital hexadecimal digits. -/
def escapeByte (b : UInt8) : List Char := '%' :: hexUpper 2 b.toNat

/-- The escaped bytes of a character. -/
def escapeChar (c : Char) : List Char := (utf8Char c).flatMap escapeByte

/-- Escapes the characters outside a class. -/
def escape (safe : Char → Bool) (cs : List Char) : List Char :=
  cs.flatMap fun c => if safe c then [c] else escapeChar c

/-- The bytes of a text with escapes. -/
def unescapeBytes : List Char → List UInt8
  | [] => []
  | '%' :: a :: b :: rest => match hexDigit? a, hexDigit? b with
    | some x, some y => UInt8.ofNat (x * 16 + y) :: unescapeBytes rest
    | _, _ => utf8Char '%' ++ unescapeBytes (a :: b :: rest)
  | c :: rest => utf8Char c ++ unescapeBytes rest

def unescape (cs : List Char) : List Char := readUtf8 (unescapeBytes cs)

def isUnreserved (c : Char) : Bool :=
  c.isAlphanum || c = '-' || c = '.' || c = '_' || c = '~'

/-- A name or a value in form data. -/
def encodeText (cs : List Char) : List Char :=
  cs.flatMap fun c => if c = ' ' then ['+'] else if isUnreserved c then [c] else escapeChar c

def decodeText (cs : List Char) : List Char :=
  unescape (cs.map fun c => if c = '+' then ' ' else c)

def encodePair (pair : List Char × List Char) : List Char :=
  encodeText pair.1 ++ '=' :: encodeText pair.2

def encode : List (List Char × List Char) → List Char
  | [] => []
  | [pair] => encodePair pair
  | pair :: rest => encodePair pair ++ '&' :: encode rest

def decodePair (cs : List Char) : List Char × List Char :=
  match cutAt '=' cs with
  | some (name, value) => (decodeText name, decodeText value)
  | none => (decodeText cs, [])

def decode (cs : List Char) : List (List Char × List Char) :=
  ((splitOnChar '&' cs).filter fun piece => !piece.isEmpty).map decodePair

/-- The form data of named texts. -/
def encodeStrings (pairs : List (String × String)) : String :=
  String.ofList (encode (pairs.map fun (name, value) => (name.toList, value.toList)))

def decodeStrings (s : String) : List (String × String) :=
  (decode s.toList).map fun (name, value) => (String.ofList name, String.ofList value)

end Form
end Arazzo
