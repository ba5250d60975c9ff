import Arazzo.Schema.Issue
import Arazzo.Text.Charset.Reading

/-!
# Errors

Two kinds of error end the work on a document. A failure is foreseen: malformed or unsupported
input, an unknown name, a transport that gives up. It knows its cause and where it arose, and its
text follows from both. A defect is an input that no rule provides for.
-/

namespace Arazzo

/-- The workflow and the step that an error arose in, as far as they are known. -/
structure Site where
  workflow : Option String
  step : Option String
deriving DecidableEq, Repr, Inhabited

/-- Why a document could not be loaded. -/
inductive LoadingCause where
  | invalidJson
  | invalidYaml
  | unreadableFile
  | unfetchable
  | externalReference (reference : String)
  | unresolvableReference (reference : String)
  | notAWorkflowDocument
  | notAnApiDocument
  | invalidWorkflowDocument (issues : List Issue)
  | described (message : String)
deriving DecidableEq, Repr

/-- A feature of workflow documents that is not supported. -/
inductive Feature where
  | stepWithoutOperationId
  | dependencies
  | workflowActions
  | parameterReference
  | parameterLocation (location : String)
  | bodyReplacements
  | xmlBody
  | formText
  | formNotAMapping
  | jsonText
  | jsonNotAContainer
  | contentType (name : String)
  | criterionType (name : String)
  | actionReference (list : String)
  | actionWorkflow (list : String)
  | retryOfAnotherStep
  | sourceType (source type : String)
  | described (message : String)
deriving DecidableEq, Repr

/-- Why an expression has no value. -/
inductive ExpressionCause where
  | invalidPath
  | emptyCondition
  | missingOperand
  | invalidNegation
  | notAComparison
  | described (message : String)
deriving DecidableEq, Repr

/-- Why a step could not be executed, apart from the causes with a kind of their own. -/
inductive ExecutionCause where
  | invalidUrl (url reason : String)
  | described (message : String)
deriving DecidableEq, Repr

inductive Failure where
  | general (message : String) (workflow : Option String)
  | loading (cause : LoadingCause) (workflow file : Option String)
  | execution (cause : ExecutionCause) (site : Site)
  | unsupported (feature : Feature) (site : Site)
  | unknownOperation (operation : String) (site : Site)
  | missingServer (site : Site)
  | unknownStep (step : String) (workflow : Option String)
  | transport (message : String) (site : Site)
  | expression (text : String) (cause : ExpressionCause) (site : Site)
deriving DecidableEq, Repr

namespace LoadingCause

def message : LoadingCause → String
  | .invalidJson => "Invalid JSON"
  | .invalidYaml => "Invalid YAML"
  | .unreadableFile => "Unable to read file"
  | .unfetchable => "Unable to fetch document"
  | .externalReference reference => "External references are not supported: " ++ reference
  | .unresolvableReference reference => "Unresolvable reference: " ++ reference
  | .notAWorkflowDocument => "Workflow document must be an object"
  | .notAnApiDocument => "API document must be an object"
  | .invalidWorkflowDocument _ => "Invalid workflow document"
  | .described message => message

end LoadingCause

namespace Feature

def message : Feature → String
  | .stepWithoutOperationId =>
    "operationId is required. operationPath and workflowId steps are not supported"
  | .dependencies => "dependsOn is not supported"
  | .workflowActions =>
    "Workflow-level successActions and failureActions are not supported. " ++
      "Use onSuccess and onFailure on the steps instead"
  | .parameterReference => "References are not supported in parameters"
  | .parameterLocation location => "'" ++ location ++ "' parameter location is not supported"
  | .bodyReplacements => "Replacements are not supported in request bodies"
  | .xmlBody => "application/xml request body content type is not supported"
  | .formText =>
    "application/x-www-form-urlencoded request body should be an object. " ++
      "String form data is not supported"
  | .formNotAMapping => "application/x-www-form-urlencoded request body should be an object"
  | .jsonText =>
    "application/json request body should be an object. JSON templates are not supported"
  | .jsonNotAContainer => "application/json request body should be an object"
  | .contentType name => "Content type '" ++ name ++ "' is not supported"
  | .criterionType name =>
    "Criterion type '" ++ name ++ "' is not supported. Use a simple condition instead"
  | .actionReference list => "References are not supported in " ++ list
  | .actionWorkflow list => "Workflow references are not supported in " ++ list
  | .retryOfAnotherStep => "stepId is not supported in retry failure actions"
  | .sourceType source type =>
    "Source description '" ++ source ++ "' of type '" ++ type ++ "' is not supported"
  | .described message => message

end Feature

namespace ExpressionCause

def message : ExpressionCause → String
  | .invalidPath => "Invalid path"
  | .emptyCondition => "Empty condition"
  | .missingOperand => "Missing operand"
  | .invalidNegation => "Invalid negation"
  | .notAComparison => "Expected exactly one comparison operator (==, !=, >=, <=, >, <)"
  | .described message => message

end ExpressionCause

namespace ExecutionCause

def message : ExecutionCause → String
  | .invalidUrl url reason => "Invalid request URL '" ++ url ++ "': " ++ reason
  | .described message => message

end ExecutionCause

namespace Failure

/-- The message, without the place it arose in. -/
def message : Failure → String
  | .general message _ => message
  | .loading cause _ _ => cause.message
  | .execution cause _ => cause.message
  | .unsupported feature _ => feature.message
  | .unknownOperation operation _ =>
    "Operation '" ++ operation ++ "' not found in any of the API documents"
  | .missingServer _ => "API document must declare at least one server URL"
  | .unknownStep step _ => "Step '" ++ step ++ "' not found"
  | .transport message _ => message
  | .expression text cause _ => "Expression '" ++ text ++ "': " ++ cause.message

/-- The parts of a text that are known and not empty. -/
def known (describe : String → String) : Option String → List String
  | some s => if s = "" then [] else [describe s]
  | none => []

def bracketed (workflow : Option String) (message : String) : String :=
  String.join (known (fun w => "[" ++ w ++ "] ") workflow) ++ message

def describeWorkflow (w : String) : String := "workflow '" ++ w ++ "'"

def located (site : Site) (message : String) : String :=
  joined ": " (known describeWorkflow site.workflow ++
    known (fun s => "step '" ++ s ++ "'") site.step ++ [message])

/-- The message behind the place it arose in. -/
def text (failure : Failure) : String :=
  match failure with
  | .general message workflow => bracketed workflow message
  | .loading cause workflow file =>
    joined ": " (known id file ++ known describeWorkflow workflow ++ [cause.message])
  | .unknownStep _ workflow => bracketed workflow failure.message
  | .expression _ _ site => bracketed site.workflow failure.message
  | .execution _ site => located site failure.message
  | .unsupported _ site => located site failure.message
  | .unknownOperation _ site => located site failure.message
  | .missingServer site => located site failure.message
  | .transport _ site => located site failure.message

end Failure

/-- Why an international host name has no other form: its structure is wrong, or a letter, a sign in its
context, or the directions of its letters. -/
inductive NameFault where
  | malformed
  | letter
  | context
  | direction
deriving DecidableEq, Repr

/-- An input that no rule provides for. -/
inductive Defect where
  /-- Two selections of a path are to be intersected. -/
  | pathIntersection
  /-- The parent of the root is asked for. -/
  | parentOfRoot
  /-- An integer literal has more digits than are read. -/
  | literalTooLong (digits : Nat)
  /-- A comparison is asked for by a text that names no operator. -/
  | unknownOperator (text : String)
  /-- A pointer into a list has a digit without a decimal value. -/
  | pointerDigit
  /-- A text holds a character that the format it is sent or printed in has no form for. -/
  | unencodableText
  /-- A value has no JSON form. -/
  | noJsonForm
  /-- A number exceeds the range it is needed in. -/
  | numberTooLarge
  /-- An integer has more digits than are written. -/
  | numberTooLong
  /-- A value that should be a mapping is something else. -/
  | notAMapping
  /-- A value of one kind stands where another kind is needed. -/
  | wrongKind
  /-- A mapping lacks a key that it needs. -/
  | missingKey
  /-- A scalar of a document cannot be built from its text. -/
  | unbuildableScalar
  /-- A word that should be a truth value is none. -/
  | unknownTruthWord
  /-- A numeral has no characters. -/
  | emptyNumeral
  /-- A text that should be a date is none. -/
  | malformedTimestamp
  /-- An escape names a code point beyond the last one. -/
  | characterTooLarge
  /-- A value contains itself. -/
  | endlessValue
  /-- A value that is written contains itself. -/
  | circularValue
  /-- A part of a date is out of range. -/
  | dateOutOfRange
  /-- A file is not UTF-8 text. -/
  | undecodableFile
  /-- A URL that a redirect or a document names is malformed. -/
  | invalidUrl
  /-- A URL has no scheme where cookies need one. -/
  | urlWithoutScheme
  /-- A host that is written in Punycode stands for no name. -/
  | unreadableHost (fault : NameFault)
  /-- Bytes have no text in the charset that is named for them. -/
  | unreadableText (fault : Text.CharsetFault)
  /-- A path holds a character that no path can hold. -/
  | unusablePath
  /-- The body of a request is asked for that has not been read. -/
  | unreadRequest
deriving DecidableEq, Repr

/-- What a defect of a comparison says. -/
def Defect.message? : Defect → Option String
  | .literalTooLong digits => some ("Exceeds the limit (4300 digits) for integer string " ++
      "conversion: value has " ++ toString digits ++
      " digits; use sys.set_int_max_str_digits() to increase the limit")
  | .unknownOperator text => some ("Unsupported operator: " ++ text)
  | _ => none

/-- Why a text has no value: it is malformed, or no rule provides for it. -/
inductive Refusal where
  | malformed
  | defect (d : Defect)
deriving DecidableEq, Repr

inductive Fault where
  | failure (f : Failure)
  | defect (d : Defect)
deriving DecidableEq, Repr

end Arazzo
