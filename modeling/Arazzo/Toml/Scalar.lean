import Arazzo.Document.Value
import Arazzo.Error
import Arazzo.Number.Numeral
import Arazzo.Toml.Text

/-!
# Scalars in TOML

Truth values, numbers, dates and times at the start of a text. Single underscores may stand between
digits. An integer in base ten has at most 4300 digits.
-/

namespace Arazzo
namespace Toml

open Text

/-- The digits of a class that a text starts with, and the rest. An underscore belongs to them if a
digit is on each side of it. -/
def digits (p : Char → Bool) : List Char → List Char × List Char
  | [] => ([], [])
  | [c] => if p c then ([c], []) else ([], [c])
  | c :: '_' :: d :: cs =>
    if p c then
      if p d then
        let (ds, rest) := digits p (d :: cs)
        (c :: ds, rest)
      else ([c], '_' :: d :: cs)
    else ([], c :: '_' :: d :: cs)
  | c :: cs =>
    if p c then
      let (ds, rest) := digits p cs
      (c :: ds, rest)
    else ([], c :: cs)

def valueIn (base : Nat) (ds : List Char) : Nat := Numeral.valueOf base (ds.filterMap hexDigit?)

/-- The bases that a letter behind a zero marks. -/
def bases : List (Char × Nat × (Char → Bool)) :=
  [('x', 16, fun c => (hexDigit? c).isSome), ('b', 2, fun c => c = '0' || c = '1'),
   ('o', 8, fun c => c.isDigit && c < '8')]

/-- An integer in a base that is not ten. -/
def based? (cs : List Char) : Option (Scalar × List Char) :=
  match cs with
  | '0' :: letter :: rest => do
    let (base, p) ← bases.lookup letter
    match digits p rest with
    | ([], _) => none
    | (ds, rest) => some (.int (valueIn base ds), rest)
  | _ => none

/-- Digits behind a mark, nothing if they are missing. -/
def part (mark : Char → Bool) (signed : Bool) (cs : List Char) :
    Option (Bool × List Char × List Char) :=
  match cs with
  | c :: rest =>
    if mark c then
      let (negative, body) := if signed then Numeral.sign rest else (false, rest)
      match digits Char.isDigit body with
      | ([], _) => none
      | (ds, rest) => some (negative, ds, rest)
    else none
  | [] => none

/-- The digits in front of a point: a zero alone, or digits that do not start with a zero. -/
def whole? (cs : List Char) : Option (List Char × List Char) :=
  match cs with
  | '0' :: rest => some (['0'], rest)
  | _ => match digits Char.isDigit cs with
    | ([], _) => none
    | found => some found

/-- A number in base ten: an integer, or a decimal if it has a fraction or an exponent. -/
def decimal? (cs : List Char) : Option (Except Refusal Scalar × List Char) := do
  let (negative, body) := Numeral.sign cs
  let (whole, rest) ← whole? body
  let fraction := part (· = '.') false rest
  let rest := (fraction.map fun f => f.2.2).getD rest
  let exponent := part (fun c => c = 'e' || c = 'E') true rest
  let rest := (exponent.map fun e => e.2.2).getD rest
  if fraction.isNone && exponent.isNone then
    if whole.length > Numeral.digitLimit then some (.error (.defect .unbuildableScalar), rest)
    else some (.ok (.int (Numeral.signed negative (valueIn 10 whole))), rest)
  else
    let places := (fraction.map fun f => f.2.1).getD []
    let power := (exponent.map fun e => Numeral.signed e.1 (valueIn 10 e.2.1)).getD 0
    let ds := (whole ++ places).filterMap asciiDigit?
    some (.ok (.float (Numeral.decimalValue negative ds (power - places.length))), rest)

/-- Exactly so many digits, their value at least and at most so much. -/
def field? (count least most : Nat) (cs : List Char) : Option (Nat × List Char) :=
  let ds := (cs.take count).filterMap asciiDigit?
  let n := Numeral.valueOf 10 ds
  if ds.length = count ∧ least ≤ n ∧ n ≤ most then some (n, cs.drop count) else none

def mark? (c : Char) (cs : List Char) : Option (List Char) := after? [c] cs

/-- The microseconds of a fraction, of which six digits count. -/
def fraction (cs : List Char) : Nat × List Char :=
  match cs with
  | '.' :: rest =>
    let ds := (rest.takeWhile Char.isDigit).filterMap asciiDigit?
    let kept := ds.take 6
    if ds.isEmpty then (0, cs)
    else (Numeral.valueOf 10 (kept ++ List.replicate (6 - kept.length) 0), rest.drop ds.length)
  | _ => (0, cs)

def time? (cs : List Char) : Option (TimeOfDay × List Char) := do
  let (hour, rest) ← field? 2 0 23 cs
  let (minute, rest) ← field? 2 0 59 (← mark? ':' rest)
  let (second, rest) ← field? 2 0 59 (← mark? ':' rest)
  let (microsecond, rest) := fraction rest
  some (⟨hour, minute, second, microsecond⟩, rest)

/-- An offset from universal time with its sign. -/
def signedOffset? (negative : Bool) (cs : List Char) : Option (Int × List Char) := do
  let (hours, rest) ← field? 2 0 23 cs
  let (minutes, rest) ← field? 2 0 59 (← mark? ':' rest)
  some (Numeral.signed negative (hours * 3600 + minutes * 60), rest)

def offset (cs : List Char) : Option Int × List Char :=
  let found : Option (Int × List Char) := match cs with
    | c :: rest =>
      if c = 'Z' ∨ c = 'z' then some (0, rest)
      else if c = '+' ∨ c = '-' then signedOffset? (c = '-') rest
      else none
    | [] => none
  match found with
  | some (seconds, rest) => (some seconds, rest)
  | none => (none, cs)

def date? (cs : List Char) : Option (Date × List Char) := do
  let (year, rest) ← field? 4 0 9999 cs
  let (month, rest) ← field? 2 1 12 (← mark? '-' rest)
  let (day, rest) ← field? 2 1 31 (← mark? '-' rest)
  some (⟨year, month, day⟩, rest)

/-- The time behind a date. -/
def timeAfter? (cs : List Char) : Option (TimeOfDay × List Char) :=
  match cs with
  | c :: rest => if c = 'T' ∨ c = 't' ∨ c = ' ' then time? rest else none
  | [] => none

/-- A date, with a time behind it or without; the date must exist. -/
def dated? (cs : List Char) : Option (Except Refusal Scalar × List Char) := do
  let (date, rest) ← date? cs
  let (scalar, rest) := match timeAfter? rest with
    | some (time, rest) =>
      let (seconds, rest) := offset rest
      (Scalar.dateTime ⟨date, time, seconds⟩, rest)
    | none => (Scalar.date date, rest)
  some (if date.isValid then .ok scalar else .error .malformed, rest)

/-- The words and their values. -/
def words : List (String × Scalar) :=
  [("true", .bool true), ("false", .bool false), ("inf", .float (.infinity false)),
   ("+inf", .float (.infinity false)), ("-inf", .float (.infinity true)), ("nan", .float (.nan 0)),
   ("+nan", .float (.nan 0)), ("-nan", .float (.nan 0))]

def word? (cs : List Char) : Option (Scalar × List Char) :=
  words.findSome? fun (word, s) => (after? word.toList cs).map fun rest => (s, rest)

/-- The scalar that is not a text at the start of a text, and what follows it. -/
def scalar (cs : List Char) : Except Refusal (Scalar × List Char) :=
  match dated? cs with
  | some (.ok s, rest) => .ok (s, rest)
  | some (.error r, _) => .error r
  | none => match time? cs with
    | some (time, rest) => .ok (.time time, rest)
    | none => match based? cs with
      | some found => .ok found
      | none => match decimal? cs with
        | some (.ok s, rest) => .ok (s, rest)
        | some (.error r, _) => .error r
        | none => match word? cs with
          | some found => .ok found
          | none => .error .malformed

end Toml
end Arazzo
