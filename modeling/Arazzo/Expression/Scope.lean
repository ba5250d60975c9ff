import Arazzo.Expression.Condition
import Arazzo.Expression.Path.Reader

/-!
# Expressions in a scope

A scope is the document that references are looked up in, together with the place that errors are
reported for. An operand that starts with a dollar sign is a reference: the rest is a path, and its
value is the first one that the path selects, or null. A value that is recorded keeps its scalars
`steps`; to be used, it has the mapping of steps in their place.
-/

namespace Arazzo

structure Scope where
  document : Document
  site : Site

namespace Scope

def expressionFault (scope : Scope) (text : String) (cause : ExpressionCause) : Fault :=
  .failure (.expression text cause scope.site)

/-- The first value that the path behind the first character selects. -/
def find (scope : Scope) (expression : String) : Except Fault Value :=
  match Path.read? (expression.toList.drop 1) with
  | none => .error (scope.expressionFault expression .invalidPath)
  | some path => match path.first scope.document with
    | .ok v => .ok v
    | .error d => .error (.defect d)

/-- The value of a reference. -/
def query (scope : Scope) (expression : String) : Except Fault Value :=
  (scope.find expression).map (Value.unfold (.map scope.document.steps))

/-- What an operand denotes, given what the references do. -/
def denoted (reference : String → Except Fault Value) (s : String) : Except Fault Value :=
  if s.toList.head? = some '$' then reference s
  else match Literal.value s with
    | .ok v => .ok v
    | .error d => .error (.defect d)

/-- The value of an operand. -/
def operand (scope : Scope) (s : String) : Except Fault Value := denoted scope.query s

/-- The value of an operand as it is recorded. -/
def recorded (scope : Scope) (s : String) : Except Fault Value := denoted scope.find s

/-- The value of an operand that may be a value already. -/
def value (scope : Scope) : Value → Except Fault Value
  | .text s => scope.operand s
  | v => .ok v

mutual

/-- A tree with each of its texts replaced by the value that it denotes. -/
def resolve (scope : Scope) : Value → Except Fault Value
  | .scalar s => scope.value (.scalar s)
  | .list items => (resolveItems scope items).map .list
  | .map entries => (resolveEntries scope entries).map .map
  | v => .ok v

def resolveItems (scope : Scope) : List Value → Except Fault (List Value)
  | [] => .ok []
  | v :: rest => do
    let item ← resolve scope v
    let items ← resolveItems scope rest
    .ok (item :: items)

def resolveEntries (scope : Scope) :
    List (Scalar × Value) → Except Fault (List (Scalar × Value))
  | [] => .ok []
  | (k, v) :: rest => do
    let item ← resolve scope v
    let items ← resolveEntries scope rest
    .ok ((k, item) :: items)

end

def reader (scope : Scope) : Condition.Reader := ⟨scope.operand, scope.expressionFault⟩

/-- The verdict on the condition that a text denotes. -/
def judge (scope : Scope) (condition : String) : Verdict :=
  (Condition.read condition.toList).evaluate scope.reader

end Scope
end Arazzo
