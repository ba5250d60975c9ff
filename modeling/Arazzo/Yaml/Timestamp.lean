import Arazzo.Document.Value
import Arazzo.Number.Numeral

/-!
# Time stamps

A date, or a date and a time of day with a fraction of a second and an offset from universal time, as
YAML texts write them. A month, a day and an hour may have one digit; a date without a time is
recognised in an untagged text only if its month and day have two.
-/

namespace Arazzo
namespace Yaml

/-- The numbers that a time stamp is written with; they need not be in range. -/
structure Timestamp where
  date : Date
  time : Option (TimeOfDay × Option Int)
deriving DecidableEq, Repr

namespace Timestamp

/-- Between `least` and `most` ASCII digits, as many as there are, and the rest. -/
def digits? (least most : Nat) (cs : List Char) : Option (Nat × List Char) :=
  let ds := (cs.take most).takeWhile Char.isDigit
  if ds.length < least then none
  else some (Numeral.valueOf 10 (ds.filterMap Text.asciiDigit?), cs.drop ds.length)

/-- What follows a character, if the text starts with it. -/
def after? (c : Char) (cs : List Char) : Option (List Char) := Text.after? [c] cs

/-- Digits behind a character. -/
def digitsAfter? (c : Char) (least most : Nat) (cs : List Char) : Option (Nat × List Char) :=
  (after? c cs).bind (digits? least most)

def isSpace (c : Char) : Bool := c = ' ' || c = '\t'

/-- The microseconds that the first six digits of a fraction stand for. -/
def microseconds (ds : List Char) : Nat :=
  let kept := (ds.take 6).filterMap Text.asciiDigit?
  Numeral.valueOf 10 (kept ++ List.replicate (6 - kept.length) 0)

/-- A fraction, which may be a point alone. -/
def fraction (cs : List Char) : Nat × List Char :=
  match cs with
  | '.' :: rest => (microseconds (rest.takeWhile Char.isDigit), rest.dropWhile Char.isDigit)
  | _ => (0, cs)

/-- The seconds of an offset up to the end of the text. -/
def offset? (cs : List Char) : Option (Option Int) :=
  match cs with
  | [] => some none
  | _ => match cs.dropWhile isSpace with
    | ['Z'] => some (some 0)
    | sign :: rest =>
      if sign = '+' ∨ sign = '-' then do
        let (hours, rest) ← digits? 1 2 rest
        let minutes ← match rest with
          | [] => some 0
          | _ => match digitsAfter? ':' 2 2 rest with
            | some (minutes, []) => some minutes
            | _ => none
        some (some (Numeral.signed (sign = '-') (hours * 3600 + minutes * 60)))
      else none
    | [] => none

/-- The time of day behind a letter or blanks. -/
def timeOf? (cs : List Char) : Option (TimeOfDay × Option Int) := do
  let cs ← match cs with
    | 'T' :: rest => some rest
    | 't' :: rest => some rest
    | c :: rest => if isSpace c then some (rest.dropWhile isSpace) else none
    | [] => none
  let (hour, rest) ← digits? 1 2 cs
  let (minute, rest) ← digitsAfter? ':' 2 2 rest
  let (second, rest) ← digitsAfter? ':' 2 2 rest
  let (microsecond, rest) := fraction rest
  some (⟨hour, minute, second, microsecond⟩, ← offset? rest)

/-- The time stamp that a text is. -/
def read? (cs : List Char) : Option Timestamp := do
  let (year, rest) ← digits? 4 4 cs
  let (month, rest) ← digitsAfter? '-' 1 2 rest
  let (day, rest) ← digitsAfter? '-' 1 2 rest
  match rest with
  | [] => some ⟨⟨year, month, day⟩, none⟩
  | _ => some ⟨⟨year, month, day⟩, some (← timeOf? rest)⟩

/-- Whether an untagged text is a time stamp. -/
def recognises (cs : List Char) : Bool :=
  match read? cs with
  | some t => t.time.isSome || cs.length = 10
  | none => false

/-- The date or instant, if all its parts are in range; an offset is less than a day. -/
def scalar? (t : Timestamp) : Option Scalar :=
  if !t.date.isValid then none
  else match t.time with
    | none => some (.date t.date)
    | some (time, offset) =>
      if time.isValid && (offset.getD 0).natAbs < 86400 then
        some (.dateTime ⟨t.date, time, offset⟩)
      else none

end Timestamp
end Yaml
end Arazzo
