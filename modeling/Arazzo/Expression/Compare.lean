import Arazzo.Document.Order
import Arazzo.Expression.Literal

/-!
# Comparison

Six operators on values. When a number meets a text that denotes a number, the text counts as that
number. Values without an order satisfy none of the four ordering operators.
-/

namespace Arazzo

inductive Operator where
  | equal
  | unequal
  | atLeast
  | atMost
  | above
  | below
deriving DecidableEq, Repr

namespace Operator

def symbol : Operator → String
  | .equal => "=="
  | .unequal => "!="
  | .atLeast => ">="
  | .atMost => "<="
  | .above => ">"
  | .below => "<"

def all : List Operator := [.equal, .unequal, .atLeast, .atMost, .above, .below]

def ofSymbol? (s : String) : Option Operator := all.find? fun op => op.symbol = s

/-- Whether two values stand in the relation. -/
def holds (op : Operator) (left right : Value) : Bool :=
  match op with
  | .equal => left.equal right
  | .unequal => !left.equal right
  | .atLeast => match left.order? right with
    | some o => o.isGE
    | none => false
  | .atMost => match left.order? right with
    | some o => o.isLE
    | none => false
  | .above => left.order? right == some .gt
  | .below => left.order? right == some .lt

end Operator

namespace Comparison

/-- The number that a text next to a number stands for, else the value itself. -/
def numberFor (value other : Value) : Except Defect Value :=
  match value, other with
  | .text s, .scalar n =>
    if n.isNumber then (Literal.number? (Text.strip s.toList)).map fun v => v.getD value
    else .ok value
  | _, _ => .ok value

/-- Both values, a text next to a number replaced by the number it denotes. -/
def coerce (left right : Value) : Except Defect (Value × Value) := do
  .ok (← numberFor left right, ← numberFor right left)

def compare (left : Value) (op : Operator) (right : Value) : Except Defect Bool :=
  (coerce left right).map fun (l, r) => op.holds l r

/-- Compares by the text of an operator. -/
def compareBy (left : Value) (operator : String) (right : Value) : Except Defect Bool := do
  let (l, r) ← coerce left right
  match Operator.ofSymbol? operator with
  | some op => .ok (op.holds l r)
  | none => .error (.unknownOperator operator)

end Comparison
end Arazzo
