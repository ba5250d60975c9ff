import Arazzo.Document.Value

/-!
# Workflow documents

The parts of a workflow document after it has been checked: workflows of steps, their parameters,
bodies, criteria and actions. Every record keeps the keys that the schema does not know.
-/

namespace Arazzo

/-- Keys and values beyond the fields of a record. -/
abbrev Extra := List (String × Value)

structure Info where
  title : String
  version : String
  summary : Option String
  description : Option String
  extra : Extra

inductive SourceType where
  | openapi
  | arazzo
deriving DecidableEq, Repr

def SourceType.name : SourceType → String
  | .openapi => "openapi"
  | .arazzo => "arazzo"

/-- An API document that a workflow document refers to. -/
structure Source where
  name : String
  url : String
  type : SourceType
  extra : Extra

/-- A reference to a shared component. -/
structure Reusable where
  reference : String
  value : Value
  extra : Extra

inductive Location where
  | path
  | query
  | header
  | cookie
  | body
deriving DecidableEq, Repr

def Location.name : Location → String
  | .path => "path"
  | .query => "query"
  | .header => "header"
  | .cookie => "cookie"
  | .body => "body"

def Location.all : List Location := [.path, .query, .header, .cookie, .body]

structure Parameter where
  name : String
  location : Location
  value : Value
  extra : Extra

/-- A part of a document that may be given by a reference. -/
inductive OrReference (α : Type) where
  | given (a : α)
  | reference (r : Reusable)

/-- The kind of a criterion: a name, or an object that describes it. -/
inductive CriterionType where
  | named (name : String)
  | detailed (details : List (String × Value))

structure Criterion where
  condition : String
  context : Option String
  type : Option CriterionType
  extra : Extra

structure RequestBody where
  contentType : String
  payload : Value
  replacements : Option (List (List (String × Value)))
  extra : Extra

/-- What an action does when it is chosen. -/
inductive ActionKind where
  | finish
  | goto
  | retry
deriving DecidableEq, Repr

def ActionKind.name : ActionKind → String
  | .finish => "end"
  | .goto => "goto"
  | .retry => "retry"

/-- What may follow an attempt of a step; only actions after a failure retry. -/
structure Action where
  name : String
  kind : ActionKind
  workflowId : Option String
  stepId : Option String
  retryAfter : Option Binary64
  retryLimit : Option Int
  criteria : Option (List Criterion)
  extra : Extra

abbrev Parameters := List (OrReference Parameter)

abbrev Actions := List (OrReference Action)

/-- A call of one operation and what follows its success and its failure. -/
structure Step where
  stepId : String
  description : Option String
  operationId : Option String
  operationPath : Option String
  workflowId : Option String
  parameters : Option Parameters
  requestBody : Option RequestBody
  successCriteria : Option (List Criterion)
  onSuccess : Option Actions
  onFailure : Option Actions
  outputs : Option (List (String × String))
  extra : Extra

structure Workflow where
  workflowId : String
  summary : Option String
  description : Option String
  inputs : Option (List (String × Value))
  dependsOn : Option (List String)
  steps : List Step
  successActions : Option Actions
  failureActions : Option Actions
  outputs : Option (List (String × String))
  parameters : Option Parameters
  extra : Extra

namespace Workflow

/-- The position of a step. -/
def stepIndex? (workflow : Workflow) (stepId : String) : Option Nat :=
  workflow.steps.findIdx? fun step => step.stepId == stepId

end Workflow

structure WorkflowDocument where
  arazzo : String
  info : Info
  sources : List Source
  workflows : List Workflow
  components : Option (List (String × Value))
  extra : Extra

/-- The first workflow with an identifier. -/
def WorkflowDocument.workflow? (document : WorkflowDocument) (workflowId : String) :
    Option Workflow :=
  document.workflows.find? fun workflow => workflow.workflowId == workflowId

end Arazzo
