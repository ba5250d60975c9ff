import Arazzo.Number.Binary64
import Arazzo.Text.Trim

/-!
# Numerals

Reading integers and decimals from text. The digits may be those of any script. An integer numeral
may carry a sign, blanks around it and single underscores between its digits; one of more than 4300
digits is refused.
-/

namespace Arazzo
namespace Numeral

open Text

/-- The most digits that an integer numeral may have. -/
def digitLimit : Nat := 4300

/-- The value of digits in front of an accumulated one. -/
def valueOf (base : Nat) (digits : List Nat) : Nat := digits.foldl (fun n d => n * base + d) 0

/-- The digits that a text starts with, and the rest. -/
def takeDigits : List Char → List Nat × List Char
  | [] => ([], [])
  | c :: cs =>
    match digit? c with
    | some d =>
      let (ds, rest) := takeDigits cs
      (d :: ds, rest)
    | none => ([], c :: cs)

/-- A non-empty text of digits only. -/
def digits? (cs : List Char) : Option (List Nat) :=
  match takeDigits cs with
  | ([], _) => none
  | (ds, []) => some ds
  | _ => none

/-- Digits with single underscores between them. -/
def groupedDigits? : List Char → Option (List Nat)
  | [] => none
  | [c] => (digit? c).map ([·])
  | c :: '_' :: cs => do
    let d ← digit? c
    return d :: (← groupedDigits? cs)
  | c :: cs => do
    let d ← digit? c
    return d :: (← groupedDigits? cs)

/-- Removes one sign; the Boolean says whether it was a minus. -/
def sign : List Char → Bool × List Char
  | '-' :: cs => (true, cs)
  | '+' :: cs => (false, cs)
  | cs => (false, cs)

def signed (negative : Bool) (n : Nat) : Int := if negative then -(n : Int) else n

/-- Why an integer numeral was refused. -/
inductive IntegerFault where
  | malformed
  | tooLong
deriving DecidableEq, Repr

/-- An integer numeral with its sign, blanks and underscores. -/
def integer? (cs : List Char) : Except IntegerFault Int :=
  let (negative, body) := sign (strip cs)
  match groupedDigits? body with
  | none => .error .malformed
  | some ds =>
    if ds.length > digitLimit then .error .tooLong
    else .ok (signed negative (valueOf 10 ds))

/-- The two kinds of number that a literal denotes. -/
inductive Shape where
  | integer (negative : Bool) (digits : List Nat)
  | decimal (negative : Bool) (digits : List Nat) (exponent : Int)
deriving DecidableEq, Repr

/-- The exponent part of a literal: nothing, or `e`, a sign and digits up to the end. -/
def exponent? : List Char → Option (Option Int)
  | [] => some none
  | c :: cs =>
    if c = 'e' ∨ c = 'E' then
      let (negative, body) := sign cs
      (digits? body).map fun ds => some (signed negative (valueOf 10 ds))
    else none

/-- The literal grammar: an optional minus, digits with an optional point or a point before digits,
and an optional exponent. One line feed may stand behind it. -/
def shape? (cs : List Char) : Option Shape :=
  let cs := match cs.reverse with
    | '\n' :: rest => rest.reverse
    | _ => cs
  let (negative, body) := match cs with
    | '-' :: rest => (true, rest)
    | _ => (false, cs)
  match takeDigits body with
  | ([], '.' :: rest) =>
    match takeDigits rest with
    | ([], _) => none
    | (fraction, rest) =>
      (exponent? rest).map fun e =>
        .decimal negative fraction (e.getD 0 - (fraction.length : Int))
  | ([], _) => none
  | (ds, '.' :: rest) =>
    let (fraction, rest) := takeDigits rest
    (exponent? rest).map fun e =>
      .decimal negative (ds ++ fraction) (e.getD 0 - (fraction.length : Int))
  | (ds, rest) =>
    (exponent? rest).map fun e => match e with
      | none => .integer negative ds
      | some e => .decimal negative ds e

def decimalValue (negative : Bool) (digits : List Nat) (exponent : Int) : Binary64 :=
  Binary64.ofDecimal negative (valueOf 10 digits) exponent

/-! ## Decimals -/

/-- The words for the values that have no digits. -/
def special? (cs : List Char) : Option Binary64 :=
  let (negative, body) := sign cs
  let word := String.ofList (lowerAscii body)
  if word = "inf" ∨ word = "infinity" then some (.infinity negative)
  else if word = "nan" then some (.nan 0)
  else none

/-- A decimal: a sign, digits, a point and digits of which one may be missing, and an exponent. -/
def decimal? (cs : List Char) : Option Binary64 :=
  let (negative, body) := sign cs
  let (whole, rest) := takeDigits body
  let (fraction, rest) := match rest with
    | '.' :: rest => takeDigits rest
    | _ => ([], rest)
  if whole.isEmpty && fraction.isEmpty then none
  else (exponent? rest).map fun e =>
    decimalValue negative (whole ++ fraction) (e.getD 0 - (fraction.length : Int))

/-- A decimal or a word for a special value, with blanks around it. -/
def float? (cs : List Char) : Option Binary64 :=
  let cs := strip cs
  (special? cs).or (decimal? cs)

/-! ## Other bases -/

/-- The value of a digit of a base up to sixteen. -/
def digitIn? (base : Nat) (c : Char) : Option Nat :=
  ((digit? c).or (hexDigit? c)).filter (· < base)

/-- The letter that may follow a zero in front of the digits of a base. -/
def baseLetters : List (Nat × List Char) :=
  [(2, ['b', 'B']), (8, ['o', 'O']), (16, ['x', 'X'])]

def withoutBase (base : Nat) (cs : List Char) : List Char :=
  match cs with
  | '0' :: c :: rest => if ((baseLetters.lookup base).getD []).contains c then rest else cs
  | _ => cs

/-- An integer in a base that is a power of two, with blanks around it, a sign and the mark of the
base. -/
def integerIn? (base : Nat) (cs : List Char) : Option Int :=
  let (negative, body) := sign (strip cs)
  match (withoutBase base body).mapM (digitIn? base) with
  | none => none
  | some [] => none
  | some ds => some (signed negative (valueOf base ds))

end Numeral
end Arazzo
