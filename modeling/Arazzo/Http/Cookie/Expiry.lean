import Arazzo.Document.Calendar
import Arazzo.Number.Numeral

/-!
# Expiry dates

The date in the `expires` attribute of a cookie: an optional name of the day, then day, month and year
with blanks, hyphens or slashes between them, an optional clock and an optional zone. The month is a
name or a number, and a year below 1000 is the year nearest to the present that ends like it. Instants
are counted in seconds since midnight of day 0 of universal time.
-/

namespace Arazzo

/-- What a date comes to. A month without a meaning in the form that servers should use, and a year of
thousands of digits, are worse than a date that is not understood. -/
inductive Expiry where
  | known (seconds : Int)
  | unknown
  | impossible
deriving DecidableEq, Repr

namespace Expiry

open Text

def isGap (c : Char) : Bool := c = ' ' || ('\t' ≤ c && c ≤ '\r')

def isWordChar (c : Char) : Bool := c.isAlphanum || c = '_'

def dayNames : List String := ["sun", "mon", "tue", "wed", "thu", "fri", "sat"]

def monthNames : List String :=
  ["jan", "feb", "mar", "apr", "may", "jun", "jul", "aug", "sep", "oct", "nov", "dec"]

def monthByName? (word : List Char) : Option Nat :=
  (monthNames.findIdx? fun name => name.toList = lowerAscii word).map (· + 1)

/-- The number of a month by its name or its number. -/
def month? (word : List Char) : Option Nat :=
  (monthByName? word).or
    ((Numeral.integer? word).toOption.bind fun n => if 1 ≤ n ∧ n ≤ 12 then some n.toNat else none)

/-- A clock and a day, which may lie beyond the end of its month. -/
structure Moment where
  year : Nat
  month : Nat
  day : Nat
  hour : Nat
  minute : Nat
  second : Nat
deriving DecidableEq, Repr

/-- The instant of a moment from 1970 on; leap seconds and the midnight at the end of a day count. -/
def Moment.seconds? (m : Moment) : Option Int :=
  if 1970 ≤ m.year ∧ 1 ≤ m.month ∧ m.month ≤ 12 ∧ 1 ≤ m.day ∧ m.day ≤ 31 ∧ m.hour ≤ 24 ∧
      m.minute ≤ 59 ∧ m.second ≤ 61 then
    some ((((⟨m.year, m.month, 1⟩ : Date).ordinal + m.day - 1) * 86400 + m.hour * 3600 +
      m.minute * 60 + m.second : Nat) : Int)
  else none

/-! ## The usual form -/

/-- The usual form: `W` and `J` stand for the first letters of days and months, `a` for a small letter
and `0` for a digit. -/
def usualForm : String := "Waa, 00 Jaa 0000 00:00:00 GMT"

def fitsForm (form c : Char) : Bool :=
  if form = '0' then c.isDigit
  else if form = 'a' then c.isLower
  else if form = 'W' then "SMTWF".toList.contains c
  else if form = 'J' then "JFMASOND".toList.contains c
  else c = form

def isUsual (cs : List Char) : Bool :=
  cs.length = usualForm.length && (usualForm.toList.zip cs).all fun (form, c) => fitsForm form c

/-- The number that some characters from a place on denote. -/
def numberAt (cs : List Char) (place length : Nat) : Nat :=
  Numeral.valueOf 10 (((cs.drop place).take length).filterMap asciiDigit?)

/-- What a date in the usual form comes to. -/
def ofUsual (cs : List Char) : Expiry :=
  match monthByName? ((cs.drop 8).take 3) with
  | none => .impossible
  | some month =>
    let moment : Moment := ⟨numberAt cs 12 4, month, numberAt cs 5 2, numberAt cs 17 2,
      numberAt cs 20 2, numberAt cs 23 2⟩
    match moment.seconds? with
    | some seconds => .known seconds
    | none => .unknown

/-! ## Other forms -/

/-- The number in front of a text, with at least and at most so many digits. -/
def number? (least most : Nat) (cs : List Char) : Option (Nat × List Char) :=
  let ds := (cs.take most).takeWhile Char.isDigit
  if ds.length < least then none
  else some (Numeral.valueOf 10 (ds.filterMap asciiDigit?), cs.drop ds.length)

/-- Passes the name of a day with the comma and the blanks behind it. -/
def dropDayName (cs : List Char) : List Char :=
  if dayNames.any fun name => startsWith name.toList (lowerAscii cs) then
    let rest := cs.dropWhile Char.isAlpha
    ((after? [','] rest).getD rest).dropWhile isGap
  else cs

/-- Passes blanks, or a mark of a class in their place; one of them has to be there. -/
def passGap? (isMark : Char → Bool) (cs : List Char) : Option (List Char) :=
  match cs with
  | c :: rest =>
    if isMark c then some rest else if isGap c then some (rest.dropWhile isGap) else none
  | [] => none

def isDateMark (c : Char) : Bool := c = '-' || c = '/'

/-- Hour, minute and second, which may be missing. -/
def clock? (cs : List Char) : Option ((Nat × Nat × Nat) × List Char) := do
  let (hour, rest) ← number? 1 2 (← passGap? (· = ':') cs)
  let (minute, rest) ← number? 2 2 (← after? [':'] rest)
  match (after? [':'] rest).bind (number? 2 2) with
  | some (second, rest) => some ((hour, minute, second), rest)
  | none => some ((hour, minute, 0), rest)

/-- A zone in front of a text: a sign and two to four digits, or a word that does not name a half of
the day. -/
def takeZone (cs : List Char) : Option (List Char) × List Char :=
  let body := match cs with
    | c :: rest => if c = '+' ∨ c = '-' then rest else cs
    | [] => []
  let digits := (body.take 4).takeWhile Char.isDigit
  let letters := cs.takeWhile Char.isAlpha
  if 2 ≤ digits.length then
    let zone := cs.take (cs.length - body.length + digits.length)
    (some zone, cs.drop zone.length)
  else if letters.isEmpty || ["am", "pm"].contains (String.ofList (lowerAscii letters)) then (none, cs)
  else (some letters, cs.drop letters.length)

/-- Passes a word in parentheses. -/
def passRemark (cs : List Char) : List Char :=
  match cs with
  | '(' :: rest =>
    match rest.span isWordChar with
    | (_ :: _, ')' :: rest) => rest.dropWhile isGap
    | _ => cs
  | _ => cs

/-- The zone at the end of a date, if nothing else is there. -/
def zone? (cs : List Char) : Option (Option (List Char)) :=
  let (zone, rest) := takeZone (cs.dropWhile isGap)
  if (passRemark (rest.dropWhile isGap)).isEmpty then some zone else none

/-- Seconds east of universal time. -/
def offset? (zone : List Char) : Option Int :=
  if ["GMT", "UTC", "UT", "Z"].contains (String.ofList (zone.map Char.toUpper)) then some 0
  else
    let (negative, body) := Numeral.sign zone
    match body.mapM asciiDigit? with
    | some ds =>
      let n := Numeral.valueOf 10 ds
      let seconds := if ds.length ≤ 2 then n * 3600 else n / 100 * 3600 + n % 100 * 60
      some (Numeral.signed negative seconds)
    | none => none

/-- The year that a number stands for at an instant. -/
def fullYear (now : Int) (year : Nat) : Nat :=
  let current := (Date.ofOrdinal (now / 86400).toNat).year
  let place := current % 100
  let near := year + (current - place)
  if 1000 ≤ year then year
  else if 50 < (place : Int) - year then near + 100
  else if 50 < (year : Int) - place then near - 100
  else near

/-- The parts of a date in any form. -/
structure Loose where
  day : Nat
  month : List Char
  year : List Char
  clock : Nat × Nat × Nat
  zone : Option (List Char)

def Loose.read? (cs : List Char) : Option Loose := do
  let (day, rest) ← number? 1 2 (dropDayName (trimLeft isBlank cs))
  let (month, rest) := (← passGap? isDateMark rest).span isWordChar
  let (year, rest) := (← passGap? isDateMark rest).span Char.isDigit
  if month.isEmpty || year.isEmpty then none
  let (clock, rest) := (clock? rest).getD ((0, 0, 0), rest)
  some ⟨day, month, year, clock, ← zone? rest⟩

/-- The instant of a date. -/
def Loose.seconds? (now : Int) (date : Loose) : Option Int := do
  let year := Numeral.valueOf 10 (date.year.filterMap asciiDigit?)
  if 9999 < year then none
  let (hour, minute, second) := date.clock
  let seconds ←
    Moment.seconds? ⟨fullYear now year, ← month? date.month, date.day, hour, minute, second⟩
  some (seconds - (← offset? (date.zone.getD ['Z'])))

/-- What a date comes to at an instant. -/
def read (now : Int) (cs : List Char) : Expiry :=
  if isUsual cs then ofUsual cs
  else match Loose.read? cs with
    | none => .unknown
    | some date =>
      if date.year.length > Numeral.digitLimit then .impossible
      else match date.seconds? now with
        | some seconds => .known seconds
        | none => .unknown

end Expiry
end Arazzo
