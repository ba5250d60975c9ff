import Arazzo.Expression.Compare
import Arazzo.Expression.Scan

/-!
# Conditions

A condition is a conjunction of disjunctions of parts. A part is a comparison, a condition in
parentheses, or the negation of either or of a single operand. Reading a text always gives a
condition: what is malformed becomes a part of its own, and its error arises only when evaluation
reaches it. Evaluation goes from left to right, stops as soon as the outcome is certain, and reports
every comparison that did not hold.
-/

namespace Arazzo

inductive Condition where
  | comparison (text : String) (left : String) (op : Operator) (right : String)
  /-- True when the operand's value does not count as true. -/
  | falsity (operand : String)
  | negation (inner : Condition)
  | malformed (text : String) (cause : ExpressionCause)
  | all (conditions : List Condition)
  | any (conditions : List Condition)

/-- A comparison that did not hold. -/
structure FailedComparison where
  left : Value
  op : Operator
  right : Value
  text : String

/-- The outcome of an evaluation and the comparisons that did not hold on the way to it. -/
structure Verdict where
  failed : List FailedComparison
  outcome : Except Fault Bool

namespace Verdict

def ofBool (b : Bool) : Verdict := ⟨[], .ok b⟩

def fault (f : Fault) : Verdict := ⟨[], .error f⟩

/-- Goes on with a second verdict if the first one has a given outcome. -/
def continueOn (wanted : Bool) (first second : Verdict) : Verdict :=
  match first.outcome with
  | .ok b => if b = wanted then ⟨first.failed ++ second.failed, second.outcome⟩ else first
  | .error _ => first

def and (first second : Verdict) : Verdict := continueOn true first second

def or (first second : Verdict) : Verdict := continueOn false first second

def not (verdict : Verdict) : Verdict := { verdict with outcome := verdict.outcome.map (!·) }

end Verdict

namespace Condition

open Text

/-- The characters of an operand that is not quoted. -/
def isTokenChar (c : Char) : Bool :=
  !(isBlank c || c = '=' || c = '!' || c = '<' || c = '>' || c = '&' || c = '|' || c = '(' || c = ')')

/-- A quoted operand at the start of a text. -/
def quotedOperand? : List Char → Option (List Char × List Char)
  | q :: rest =>
    if Literal.isQuote q then (cutAt q rest).map fun (inside, rest) => (q :: inside ++ [q], rest)
    else none
  | [] => none

/-- An unquoted operand at the start of a text. -/
def tokenOperand? (cs : List Char) : Option (List Char × List Char) :=
  match cs.takeWhile isTokenChar with
  | [] => none
  | token => some (token, cs.dropWhile isTokenChar)

/-- The ways to take an operand from the start of a text, the preferred one first. -/
def operands (cs : List Char) : List (List Char × List Char) :=
  (quotedOperand? cs).toList ++ (tokenOperand? cs).toList

/-- An operator at the start of a text. -/
def operator? (cs : List Char) : Option (Operator × List Char) :=
  Operator.all.findSome? fun op => (after? op.symbol.toList cs).map fun rest => (op, rest)

/-- An operand that fills a text up to blanks. -/
def loneOperand? (cs : List Char) : Option (List Char) :=
  (operands (trimLeft isBlank cs)).findSome? fun (operand, rest) =>
    if (trimLeft isBlank rest).isEmpty then some operand else none

/-- A comparison that fills a text up to blanks. -/
def comparison? (cs : List Char) : Option (List Char × Operator × List Char) :=
  (operands (trimLeft isBlank cs)).findSome? fun (left, rest) => do
    let (op, rest) ← operator? (trimLeft isBlank rest)
    let right ← loneOperand? rest
    some (left, op, right)

/-- The comparison that a text denotes, else what is wrong with the text. -/
def ofComparison (cs : List Char) : Condition :=
  match comparison? cs with
  | some (left, op, right) =>
    .comparison (String.ofList cs) (String.ofList left) op (String.ofList right)
  | none => .malformed (String.ofList cs) .notAComparison

/-- What stands behind an exclamation mark that negates. -/
def negated? : List Char → Option (List Char)
  | '!' :: '=' :: _ => none
  | '!' :: rest => some (strip rest)
  | _ => none

/-- The condition that a text denotes, parentheses being opened at most `fuel` times. -/
def readWithin : Nat → List Char → Condition
  | 0, cs => .malformed (String.ofList cs) .emptyCondition
  | fuel + 1, cs =>
    let part (cs part : List Char) : Condition :=
      if part.isEmpty then .malformed (String.ofList cs) .missingOperand
      else if Scan.isWrapped part then readWithin fuel (Scan.inner part)
      else match negated? part with
        | some rest =>
          if Scan.isWrapped rest then .negation (readWithin fuel (Scan.inner rest))
          else match comparison? rest, loneOperand? rest with
            | some _, _ => .negation (ofComparison rest)
            | none, some _ => .falsity (String.ofList rest)
            | none, none => .malformed (String.ofList part) .invalidNegation
        | none => ofComparison part
    if (strip cs).isEmpty then .malformed (String.ofList cs) .emptyCondition
    else .all ((Scan.split ['&', '&'] cs).map fun group =>
      .any ((Scan.split ['|', '|'] group).map (part cs)))

/-- The condition that a text denotes. Every pair of parentheses takes two characters, so the
length bounds their number. -/
def read (cs : List Char) : Condition := readWithin (cs.length + 1) cs

/-- What a condition needs to know of its surroundings: the value of an operand, and the error for
a malformed part. -/
structure Reader where
  value : String → Except Fault Value
  malformed : String → ExpressionCause → Fault

/-- The verdict on a comparison of two operands. -/
def compareOperands (reader : Reader) (text left : String) (op : Operator) (right : String) :
    Verdict :=
  match reader.value left with
  | .error f => .fault f
  | .ok l => match reader.value right with
    | .error f => .fault f
    | .ok r => match Comparison.compare l op r with
      | .error d => .fault (.defect d)
      | .ok true => .ofBool true
      | .ok false => ⟨[⟨l, op, r, text⟩], .ok false⟩

mutual

def evaluate (reader : Reader) : Condition → Verdict
  | .comparison text left op right => compareOperands reader text left op right
  | .falsity operand => match reader.value operand with
    | .ok v => .ofBool (!v.truthy)
    | .error f => .fault f
  | .negation inner => (evaluate reader inner).not
  | .malformed text cause => .fault (reader.malformed text cause)
  | .all conditions => evaluateAll reader conditions
  | .any conditions => evaluateAny reader conditions

def evaluateAll (reader : Reader) : List Condition → Verdict
  | [] => .ofBool true
  | c :: rest => (evaluate reader c).and (evaluateAll reader rest)

def evaluateAny (reader : Reader) : List Condition → Verdict
  | [] => .ofBool false
  | c :: rest => (evaluate reader c).or (evaluateAny reader rest)

end

end Condition
end Arazzo
