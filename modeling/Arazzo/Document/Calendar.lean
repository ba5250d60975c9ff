/-!
# Calendar

Dates of the Gregorian calendar from year 1 to 9999, times of day to the microsecond, and instants
with or without an offset from universal time. A date is valid when its month and day exist.
-/

namespace Arazzo

structure Date where
  year : Nat
  month : Nat
  day : Nat
deriving DecidableEq, Repr, Inhabited

structure TimeOfDay where
  hour : Nat
  minute : Nat
  second : Nat
  microsecond : Nat
deriving DecidableEq, Repr, Inhabited

/-- A date and time; the offset from universal time is in seconds, east positive. -/
structure DateTime where
  date : Date
  time : TimeOfDay
  offset : Option Int
deriving DecidableEq, Repr, Inhabited

/-- A number in decimal digits, at least `width` of them. -/
def padded (width n : Nat) : String :=
  let digits := Nat.toDigits 10 n
  String.ofList (List.replicate (width - digits.length) '0' ++ digits)

namespace Date

def isLeap (year : Nat) : Bool := year % 4 == 0 && (year % 100 != 0 || year % 400 == 0)

def daysInMonth (year month : Nat) : Nat :=
  if month = 2 then if isLeap year then 29 else 28
  else if month = 4 ∨ month = 6 ∨ month = 9 ∨ month = 11 then 30
  else 31

def isValid (d : Date) : Bool :=
  1 ≤ d.year && d.year ≤ 9999 && 1 ≤ d.month && d.month ≤ 12 && 1 ≤ d.day &&
    d.day ≤ daysInMonth d.year d.month

/-- The number of days before the first of a month. -/
def daysBeforeMonth (year month : Nat) : Nat :=
  (List.range (month - 1)).foldl (fun days m => days + daysInMonth year (m + 1)) 0

/-- The number of the day, the first of January of year 1 being day 1. -/
def ordinal (d : Date) : Nat :=
  let y := d.year - 1
  y * 365 + y / 4 - y / 100 + y / 400 + daysBeforeMonth d.year d.month + d.day

/-- The date with a number, by cycles of 400, 100, 4 years and one year. -/
def ofOrdinal (n : Nat) : Date :=
  let day := n - 1
  let era := day % 146097
  let century := min 3 (era / 36524)
  let rest := era - century * 36524
  let year := min 3 (rest % 1461 / 365)
  let dayOfYear := rest % 1461 - year * 365
  let y := day / 146097 * 400 + century * 100 + rest / 1461 * 4 + year + 1
  let month := ((List.range 12).filter fun m => daysBeforeMonth y (m + 1) ≤ dayOfYear).length
  ⟨y, month, dayOfYear - daysBeforeMonth y month + 1⟩

/-- The date as year, month and day with hyphens. -/
def text (d : Date) : String := padded 4 d.year ++ "-" ++ padded 2 d.month ++ "-" ++ padded 2 d.day

end Date

namespace TimeOfDay

def isValid (t : TimeOfDay) : Bool :=
  t.hour < 24 && t.minute < 60 && t.second < 60 && t.microsecond < 1000000

def microseconds (t : TimeOfDay) : Nat :=
  ((t.hour * 60 + t.minute) * 60 + t.second) * 1000000 + t.microsecond

/-- The time so many microseconds after midnight. -/
def ofMicroseconds (n : Nat) : TimeOfDay :=
  let seconds := n / 1000000
  ⟨seconds / 3600, seconds / 60 % 60, seconds % 60, n % 1000000⟩

/-- Hours, minutes and seconds with colons, and six more digits unless they are all zero. -/
def text (t : TimeOfDay) : String :=
  padded 2 t.hour ++ ":" ++ padded 2 t.minute ++ ":" ++ padded 2 t.second ++
    if t.microsecond = 0 then "" else "." ++ padded 6 t.microsecond

end TimeOfDay

namespace DateTime

/-- Microseconds since midnight of day 0, by the clock that the text shows. -/
def localMicroseconds (d : DateTime) : Int :=
  (d.date.ordinal : Int) * 86400000000 + d.time.microseconds

/-- Microseconds since midnight of day 0 of universal time, an absent offset counting as zero. -/
def microseconds (d : DateTime) : Int := d.localMicroseconds - d.offset.getD 0 * 1000000

/-- The number of the first of January 1970. -/
def unixDay : Nat := 719163

/-- The instant so many microseconds after the start of 1970, by a clock without an offset. -/
def ofUnixMicroseconds (n : Nat) : DateTime :=
  ⟨.ofOrdinal (unixDay + n / 86400000000), .ofMicroseconds (n % 86400000000), none⟩

/-- The order of two instants; there is none between one with an offset and one without. -/
def order? (a b : DateTime) : Option Ordering :=
  if a.offset.isSome = b.offset.isSome then some (compare a.microseconds b.microseconds) else none

/-- A sign, hours and minutes, and seconds unless they are zero. -/
def offsetText (offset : Int) : String :=
  let n := offset.natAbs
  (if offset < 0 then "-" else "+") ++ padded 2 (n / 3600) ++ ":" ++ padded 2 (n / 60 % 60) ++
    if n % 60 = 0 then "" else ":" ++ padded 2 (n % 60)

/-- Date, separator, time and offset. -/
def textWith (separator : String) (d : DateTime) : String :=
  d.date.text ++ separator ++ d.time.text ++ (d.offset.map offsetText).getD ""

def text (d : DateTime) : String := d.textWith "T"

end DateTime
end Arazzo
