import Arazzo.Document.Display

/-!
# Issues of a document

What is wrong with a document that does not fit the workflow schema: the place, as the keys, indexes
and alternatives on the way to it, and the problem found there.
-/

namespace Arazzo

/-- One step on the way to a place in a document. -/
inductive Place where
  | name (s : String)
  | index (i : Int)
deriving DecidableEq, Repr

inductive Problem where
  | missing
  | notText
  | undecodableText
  | notInteger
  | notIntegerText
  | integerTooLarge
  | fractional
  | notFinite
  | notNumber
  | notNumberText
  | notList
  | notMapping
  | notRecord (record : String)
  | keyNotText
  | notAmong (allowed : List String)
  | duplicateStep (step workflow : String)
deriving DecidableEq, Repr

namespace Problem

/-- Alternatives between apostrophes, `or` before the last one. -/
def choice : List String → String
  | [] => ""
  | [s] => "'" ++ s ++ "'"
  | [s, t] => "'" ++ s ++ "' or '" ++ t ++ "'"
  | s :: rest => "'" ++ s ++ "', " ++ choice rest

/-- The name of the kind of problem. -/
def kind : Problem → String
  | .missing => "missing"
  | .notText => "string_type"
  | .undecodableText => "string_unicode"
  | .notInteger => "int_type"
  | .notIntegerText => "int_parsing"
  | .integerTooLarge => "int_parsing_size"
  | .fractional => "int_from_float"
  | .notFinite => "finite_number"
  | .notNumber => "float_type"
  | .notNumberText => "float_parsing"
  | .notList => "list_type"
  | .notMapping => "dict_type"
  | .notRecord _ => "model_type"
  | .keyNotText => "invalid_key"
  | .notAmong _ => "literal_error"
  | .duplicateStep .. => "value_error"

def message : Problem → String
  | .missing => "Field required"
  | .notText => "Input should be a valid string"
  | .undecodableText =>
    "Input should be a valid string, unable to parse raw data as a unicode string"
  | .notInteger => "Input should be a valid integer"
  | .notIntegerText => "Input should be a valid integer, unable to parse string as an integer"
  | .integerTooLarge => "Unable to parse input string as an integer, exceeded maximum size"
  | .fractional => "Input should be a valid integer, got a number with a fractional part"
  | .notFinite => "Input should be a finite number"
  | .notNumber => "Input should be a valid number"
  | .notNumberText => "Input should be a valid number, unable to parse string as a number"
  | .notList => "Input should be a valid list"
  | .notMapping => "Input should be a valid dictionary"
  | .notRecord record => "Input should be a valid dictionary or instance of " ++ record
  | .keyNotText => "Keys should be strings"
  | .notAmong allowed => "Input should be " ++ choice allowed
  | .duplicateStep step workflow =>
    "Value error, Duplicate step id '" ++ step ++ "' in workflow '" ++ workflow ++ "'"

end Problem

structure Issue where
  path : List Place
  problem : Problem
deriving DecidableEq, Repr

/-- The same issue, seen from one step further out. -/
def Issue.under (place : Place) (issue : Issue) : Issue := ⟨place :: issue.path, issue.problem⟩

end Arazzo
