import Arazzo.Document.Value
import Arazzo.Number.Numeral
import Arazzo.Error

/-!
# Literals

An operand without a dollar sign denotes a value by itself: a quoted text, a word for a truth value
or null, a number, or else its own text.
-/

namespace Arazzo
namespace Literal

open Text

/-- The number that a text in the literal grammar denotes, if it is in the grammar. -/
def number? (cs : List Char) : Except Defect (Option Value) :=
  match Numeral.shape? cs with
  | none => .ok none
  | some (.integer negative digits) =>
    if digits.length > Numeral.digitLimit then .error (.literalTooLong digits.length)
    else .ok (some (.int (Numeral.signed negative (Numeral.valueOf 10 digits))))
  | some (.decimal negative digits exponent) =>
    .ok (some (.float (Numeral.decimalValue negative digits exponent)))

def isQuote (c : Char) : Bool := c = '\x22' || c = '\x27'

theorem eq_of_isQuote {c : Char} (h : isQuote c = true) : c = '\x22' ∨ c = '\x27' := by
  simpa [isQuote] using h

/-- What stands between two equal quotation marks at the ends of a text. -/
def unquote? : List Char → Option (List Char)
  | q :: rest =>
    if isQuote q ∧ rest.getLast? = some q then some rest.dropLast else none
  | [] => none

/-- The value that an operand denotes by itself. -/
def value (s : String) : Except Defect Value :=
  match unquote? s.toList with
  | some inner => .ok (.text (String.ofList inner))
  | none =>
    if s = "true" then .ok (.bool true)
    else if s = "false" then .ok (.bool false)
    else if s = "null" then .ok .null
    else (number? s.toList).map fun n => n.getD (.text s)

end Literal
end Arazzo
