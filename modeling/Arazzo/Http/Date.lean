import Arazzo.Document.Calendar
import Arazzo.Number.Numeral
import Arazzo.Text.Case
import Arazzo.Text.Trim

/-!
# Dates in headers

A date is written as an optional day name, day, month name, year, time and zone, separated by blanks.
The reader is lenient: day and month may change places, hyphens may join the date, the zone may be
missing, stand on the time, or trade places with the year, and a year of two digits belongs to 1969
up to 2068.
-/

namespace Arazzo

/-- The numbers of a date as they were read; a part may be out of range. -/
structure DateFields where
  year : Int
  month : Nat
  day : Int
  hour : Int
  minute : Int
  second : Int
  /-- Seconds east of universal time. -/
  offset : Option Int
deriving DecidableEq, Repr

namespace DateFields

open Text

def dayNames : List String := ["mon", "tue", "wed", "thu", "fri", "sat", "sun"]

def monthNames : List String :=
  ["jan", "feb", "mar", "apr", "may", "jun", "jul", "aug", "sep", "oct", "nov", "dec",
   "january", "february", "march", "april", "may", "june", "july", "august", "september",
   "october", "november", "december"]

/-- The number of a month by its name. -/
def month? (word : List Char) : Option Nat :=
  (monthNames.findIdx? fun name => name.toList = lowerAscii word).map fun i => i % 12 + 1

/-- Zones by name, with hours and minutes as one decimal number. -/
def zones : List (String × Int) :=
  [("UT", 0), ("UTC", 0), ("GMT", 0), ("Z", 0), ("AST", -400), ("ADT", -300), ("EST", -500),
   ("EDT", -400), ("CST", -600), ("CDT", -500), ("MST", -700), ("MDT", -600), ("PST", -800),
   ("PDT", -700)]

/-- The words between blanks. -/
def words (cs : List Char) : List (List Char) :=
  let step (c : Char) (acc : List Char × List (List Char)) : List Char × List (List Char) :=
    if isBlank c then ([], if acc.1.isEmpty then acc.2 else acc.1 :: acc.2) else (c :: acc.1, acc.2)
  let (first, rest) := cs.foldr step ([], [])
  if first.isEmpty then rest else first :: rest

/-- What follows the last comma. -/
def afterComma (word : List Char) : List Char :=
  if word.contains ',' then (word.reverse.takeWhile (· ≠ ',')).reverse else word

/-- The words without the name of the day. -/
def dropDayName : List (List Char) → List (List Char)
  | [] => []
  | word :: rest =>
    if word.getLast? = some ',' ∨ dayNames.any (fun name => name.toList = lowerAscii word) then rest
    else afterComma word :: rest

/-- Takes apart a date joined by hyphens. -/
def splitHyphens : List (List Char) → List (List Char)
  | [date, time, zone] => match splitOnChar '-' date with
    | [a, b, c] => [a, b, c, time, zone]
    | _ => [date, time, zone]
  | ws => ws

/-- Cuts a sign with what follows it off a time. -/
def splitZone (time : List Char) : List Char × List Char :=
  let sign := if time.contains '+' then '+' else '-'
  match time.findIdx? (· = sign) with
  | some (i + 1) => (time.take (i + 1), time.drop (i + 1))
  | _ => (time, [])

def dropComma (word : List Char) : List Char :=
  if word.getLast? = some ',' then word.dropLast else word

/-- Hour, minute and second. -/
def clock? (word : List Char) : Option (List Char × List Char × List Char) :=
  match splitOnChar ':' word with
  | [h, m] => some (h, m, ['0'])
  | [h, m, s] => some (h, m, s)
  | [_] => match splitOnChar '.' word with
    | [h, m] => some (h, m, ['0'])
    | [h, m, s] => some (h, m, s)
    | _ => none
  | _ => none

def integer? (word : List Char) : Option Int := (Numeral.integer? word).toOption

/-- Seconds east of universal time; a zone that is not understood has none. -/
def offset? (zone : List Char) : Option Int :=
  let zone := upper zone
  let minutes (n : Int) : Int :=
    let size := n.natAbs
    let seconds : Int := (size / 100) * 3600 + (size % 100) * 60
    if n < 0 then -seconds else seconds
  match zones.lookup (String.ofList zone) with
  | some n => some (minutes n)
  | none => match integer? zone with
    | some n => if n = 0 ∧ zone.head? = some '-' then none else some (minutes n)
    | none => none

/-- The year of a number that may have two digits. -/
def fullYear (year : Int) : Int :=
  if year < 100 then if year > 68 then year + 1900 else year + 2000 else year

/-- The numbers of a date given by day, month, year, time and zone. -/
def ofWords (day month year time zone : List Char) : Option DateFields := do
  if day.isEmpty ∨ month.isEmpty ∨ year.isEmpty then none
  let (month, day) ← match month? month with
    | some m => some (m, day)
    | none => (month? day).map fun m => (m, month)
  let day := dropComma day
  let (year, time) := match year.findIdx? (· = ':') with
    | some (_ + 1) => (time, year)
    | _ => (year, time)
  let year := dropComma year
  let first ← year.head?
  let (year, zone) := if isDigit first || isLooseDigit first then (year, zone) else (zone, year)
  let (hour, minute, second) ← clock? (dropComma time)
  some {
    year := fullYear (← integer? year)
    month := month
    day := ← integer? day
    hour := ← integer? hour
    minute := ← integer? minute
    second := ← integer? second
    offset := offset? zone }

/-- The numbers of a date. -/
def read? (cs : List Char) : Option DateFields :=
  let ws := splitHyphens (dropDayName (words cs))
  match ws with
  | [day, month, year, last] =>
    let (time, zone) := splitZone last
    ofWords day month year time zone
  | day :: month :: year :: time :: zone :: _ => ofWords day month year time zone
  | _ => none

/-- The largest size of a number that a part of a date may have. -/
def partLimit : Int := 2147483648

/-- Whether the offset, if there is one, is less than a day. -/
def hasZone (d : DateFields) : Bool :=
  d.offset.all fun offset => -86400 < offset && offset < 86400

/-- Whether a part is too large to be the part of any date. An offset is judged first: one that no
zone has spoils the date, however large the other parts are. -/
def isOversized (d : DateFields) : Bool :=
  if d.hasZone then
    [d.year, d.day, d.hour, d.minute, d.second].any fun n => partLimit ≤ n || n < -partLimit
  else d.offset.any fun offset => 86400 * 1000000000 ≤ offset || offset < -86400 * 999999999

/-- The instant, if every part is in range. -/
def toDateTime? (d : DateFields) : Option DateTime :=
  if d.year < 1 ∨ d.day < 1 ∨ d.hour < 0 ∨ d.minute < 0 ∨ d.second < 0 then none
  else
    let date : Date := ⟨d.year.toNat, d.month, d.day.toNat⟩
    let time : TimeOfDay := ⟨d.hour.toNat, d.minute.toNat, d.second.toNat, 0⟩
    if date.isValid && time.isValid && d.hasZone then some ⟨date, time, d.offset⟩ else none

end DateFields
end Arazzo
