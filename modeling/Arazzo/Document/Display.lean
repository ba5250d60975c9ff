import Arazzo.Document.Value
import Arazzo.Number.Numeral
import Arazzo.Number.Shortest
import Arazzo.Text.Quoted

/-!
# Display of document values

A value inside a message shows its kind: texts are quoted, dates and times name their parts. On its
own a text, a date or a time stands as it is, and every other value as inside a message. Integers with
too many digits are not displayed.
-/

namespace Arazzo

/-- Joins texts with a separator between them. -/
def joined (separator : String) : List String → String
  | [] => ""
  | [s] => s
  | s :: rest => s ++ separator ++ joined separator rest

namespace TimeOfDay

/-- Hour and minute, and the smaller parts down to the last one that is not zero. -/
def parts (t : TimeOfDay) : List Nat :=
  if t.microsecond ≠ 0 then [t.hour, t.minute, t.second, t.microsecond]
  else if t.second ≠ 0 then [t.hour, t.minute, t.second]
  else [t.hour, t.minute]

end TimeOfDay

def numberList (ns : List Nat) : String := joined ", " (ns.map toString)

/-- An offset as days and seconds, the seconds never negative. -/
def offsetDisplay (offset : Int) : String :=
  if offset = 0 then "datetime.timezone.utc"
  else
    let parts := if offset < 0 then "days=-1, seconds=" ++ toString (offset + 86400)
      else "seconds=" ++ toString offset
    "datetime.timezone(datetime.timedelta(" ++ parts ++ "))"

def Scalar.display : Scalar → String
  | .null => "None"
  | .bool true => "True"
  | .bool false => "False"
  | .int i => toString i
  | .float x => x.text
  | .text s => Text.displayString s
  | .date d => "datetime.date(" ++ numberList [d.year, d.month, d.day] ++ ")"
  | .time t => "datetime.time(" ++ numberList t.parts ++ ")"
  | .dateTime d =>
    "datetime.datetime(" ++ numberList ([d.date.year, d.date.month, d.date.day] ++ d.time.parts) ++
      (match d.offset with
        | some offset => ", tzinfo=" ++ offsetDisplay offset
        | none => "") ++ ")"
  | .bytes bs => Text.displayBytes bs
  | .steps => "\x7b...\x7d"

/-- The least natural number with more digits than are displayed. -/
def longNumber : Nat := Nat.pow 10 Numeral.digitLimit

/-- Whether a scalar is an integer with more digits than are displayed. -/
def Scalar.isLong : Scalar → Bool
  | .int i => longNumber ≤ i.natAbs
  | _ => false

namespace Value

mutual

/-- Whether a value holds an integer with more digits than are displayed. -/
def hasLong : Value → Bool
  | .scalar s => s.isLong
  | .list items => anyLong items
  | .tuple items => anyLong items
  | .set members => members.any Scalar.isLong
  | .map entries => anyLongEntry entries

def anyLong : List Value → Bool
  | [] => false
  | v :: rest => hasLong v || anyLong rest

def anyLongEntry : List (Scalar × Value) → Bool
  | [] => false
  | (k, v) :: rest => k.isLong || hasLong v || anyLongEntry rest

end

mutual

/-- A value as it stands inside a message. -/
def display : Value → String
  | .scalar s => s.display
  | .list items => "[" ++ joined ", " (displayItems items) ++ "]"
  | .tuple [item] => "(" ++ display item ++ ",)"
  | .tuple items => "(" ++ joined ", " (displayItems items) ++ ")"
  | .set [] => "set()"
  | .set members => "\x7b" ++ joined ", " (members.map Scalar.display) ++ "\x7d"
  | .map entries => "\x7b" ++ joined ", " (displayEntries entries) ++ "\x7d"

def displayItems : List Value → List String
  | [] => []
  | v :: rest => display v :: displayItems rest

def displayEntries : List (Scalar × Value) → List String
  | [] => []
  | (k, v) :: rest => (k.display ++ ": " ++ display v) :: displayEntries rest

end

/-- A value on its own. -/
def plain : Value → String
  | .text s => s
  | .scalar (.date d) => d.text
  | .scalar (.time t) => t.text
  | .scalar (.dateTime d) => d.textWith " "
  | v => v.display

end Value
end Arazzo
