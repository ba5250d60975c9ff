import Arazzo.Yaml.Timestamp

/-!
# Tags

What kind of value a node is. A tag may be written in front of the node. The kind of a plain text
without one follows from its form: truth values, integers in four bases and in base sixty, decimals,
null, dates, the two signs that stand in the place of keys, and for the rest text.
-/

namespace Arazzo
namespace Yaml

open Text

inductive Tag where
  | null
  | bool
  | int
  | float
  | binary
  | timestamp
  | orderedMap
  | pairs
  | set
  | text
  | list
  | map
  /-- Marks a key whose value is a mapping, or a list of them, to be taken over. -/
  | merge
  /-- Marks the key of the value that a mapping has as a scalar. -/
  | default
  | unknown
deriving DecidableEq, Repr

namespace Tag

/-- The names of the tags behind their common beginning. -/
def names : List (String × Tag) :=
  [("null", .null), ("bool", .bool), ("int", .int), ("float", .float), ("binary", .binary),
   ("timestamp", .timestamp), ("omap", .orderedMap), ("pairs", .pairs), ("set", .set),
   ("str", .text), ("seq", .list), ("map", .map), ("merge", .merge), ("value", .default)]

/-- What the short handle stands for. -/
def space : String := "tag:yaml.org,2002:"

def ofUri (uri : String) : Tag :=
  match after? space.toList uri.toList with
  | some name => (names.lookup (String.ofList name)).getD .unknown
  | none => .unknown

/-! ## Plain text -/

def truthWords : List String :=
  ["yes", "Yes", "YES", "no", "No", "NO", "true", "True", "TRUE", "false", "False", "FALSE",
   "on", "On", "ON", "off", "Off", "OFF"]

def nullWords : List String := ["~", "null", "Null", "NULL", ""]

def infinityWords : List String := [".inf", ".Inf", ".INF"]

def nanWords : List String := [".nan", ".NaN", ".NAN"]

def isIn (words : List String) (cs : List Char) : Bool := words.any fun w => w.toList = cs

/-- Digits of a class and underscores. -/
def isGrouped (p : Char → Bool) (cs : List Char) : Bool := cs.all fun c => p c || c = '_'

/-- Digits and underscores that start with a digit of a class. -/
def isNumeral (first : Char → Bool) : List Char → Bool
  | [] => false
  | c :: cs => first c && isGrouped Char.isDigit cs

/-- A number below sixty. -/
def isSixtieth : List Char → Bool
  | [c] => c.isDigit
  | [a, b] => a.isDigit && a < '6' && b.isDigit
  | _ => false

def isBinaryDigit (c : Char) : Bool := c = '0' || c = '1'

def isOctalDigit (c : Char) : Bool := c.isDigit && c < '8'

def isHexDigit (c : Char) : Bool := (hexDigit? c).isSome

def isNonZero (c : Char) : Bool := c.isDigit && c ≠ '0'

/-- An integer without its sign. -/
def isMagnitude (cs : List Char) : Bool :=
  match cs with
  | '0' :: 'b' :: ds => !ds.isEmpty && isGrouped isBinaryDigit ds
  | '0' :: 'x' :: ds => !ds.isEmpty && isGrouped isHexDigit ds
  | '0' :: ds => isGrouped isOctalDigit ds
  | _ => match splitOnChar ':' cs with
    | head :: parts => isNumeral isNonZero head && parts.all isSixtieth
    | [] => false

def isInteger (cs : List Char) : Bool := isMagnitude (Numeral.sign cs).2

/-- An exponent with its sign, or nothing. -/
def isExponent : List Char → Bool
  | [] => true
  | e :: sign :: ds =>
    (e = 'e' || e = 'E') && (sign = '+' || sign = '-') && !ds.isEmpty && ds.all Char.isDigit
  | _ => false

/-- Digits and underscores with an exponent behind them. -/
def isFraction (cs : List Char) : Bool :=
  isExponent (cs.dropWhile fun c => c.isDigit || c = '_')

/-- A decimal: it has a point, and if it has an exponent that has a sign. In base sixty it has no
exponent, and without digits in front of the point it has no sign. -/
def isDecimal (cs : List Char) : Bool :=
  let (_, body) := Numeral.sign cs
  match cs with
  | '.' :: c :: rest => (c.isDigit && isFraction rest) || isIn infinityWords cs || isIn nanWords cs
  | _ => isIn infinityWords body || match cutAt '.' body with
    | some (whole, fraction) => match splitOnChar ':' whole with
      | [ds] => isNumeral Char.isDigit ds && isFraction fraction
      | head :: parts =>
        isNumeral Char.isDigit head && parts.all isSixtieth && isGrouped Char.isDigit fraction
      | [] => false
    | none => false

/-- A text without the line feed that it may end with. -/
def withoutFinalBreak (cs : List Char) : List Char :=
  if cs.getLast? = some '\n' then cs.dropLast else cs

/-- The kind of an untagged plain text. -/
def ofPlain (text : String) : Tag :=
  let cs := withoutFinalBreak text.toList
  if isIn truthWords cs then .bool
  else if isDecimal cs then .float
  else if isInteger cs then .int
  else if cs = ['<', '<'] then .merge
  else if isIn nullWords cs then .null
  else if Timestamp.recognises cs then .timestamp
  else if cs = ['='] then .default
  else if cs = ['!'] ∨ cs = ['&'] ∨ cs = ['*'] then .unknown
  else .text

end Tag
end Yaml
end Arazzo
