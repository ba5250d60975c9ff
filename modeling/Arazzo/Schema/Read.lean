import Arazzo.Schema.Check
import Arazzo.Schema.Model

/-!
# Checking workflow documents

The check of each part of a workflow document. Fields may be given under their own key or under its
form with underscores. A part that may be a reference is tried as both, and what fits better is taken.
The step identifiers of a workflow must differ.
-/

namespace Arazzo
namespace Check

open Checked

/-- The fields of a record are gathered by `also`, so the list of fields and the order of the
arguments agree. -/
def gather {α : Type} (make : α) : Checked α := .ok make

def info : Value → Checked Info := record "Info" fun e =>
  let fields := ["title", "version", "summary", "description"].map Field.plain
  ((((gather Info.mk).also (required e (.plain "title") text)).also
    (required e (.plain "version") text)).also (possible e (.plain "summary") text)).also
    (possible e (.plain "description") text) |>.also (leftover e fields)

def source : Value → Checked Source := record "SourceDescription" fun e =>
  let fields := ["name", "url", "type"].map Field.plain
  (gather Source.mk).also (required e (.plain "name") text)
    |>.also (required e (.plain "url") text)
    |>.also (withDefault e (.plain "type") .openapi
      (among [("openapi", .openapi), ("arazzo", .arazzo)]))
    |>.also (leftover e fields)

def referenceField : Field := .plain "reference"

def valueField : Field := .plain "value"

def reusable : Value → Checked Reusable := record "Reusable" fun e =>
  (gather Reusable.mk).also (required e referenceField text)
    |>.also (withDefault e valueField .null anything)
    |>.also (leftover e [referenceField, valueField])

def nameField : Field := .plain "name"

def locationField : Field := ⟨"in", "in_"⟩

def parameter : Value → Checked Parameter := record "Parameter" fun e =>
  (gather Parameter.mk).also (required e nameField text)
    |>.also (required e locationField (among (Location.all.map fun l => (l.name, l))))
    |>.also (withDefault e valueField .null anything)
    |>.also (leftover e [nameField, locationField, valueField])

/-- Whether a mapping that fits both fits a reference better than a part with a name and the given
fields. -/
def isReference (fields : List Field) : Value → Bool
  | .map e => fit e nameField fields < fit e referenceField [valueField]
  | _ => false

/-- A part of a kind, or a reference to one. -/
def orReference {α : Type} (kind : String) (fields : List Field) (check : Value → Checked α)
    (v : Value) : Checked (OrReference α) :=
  let part := ((check v).under (.name kind)).map .given
  let reference := ((reusable v).under (.name "Reusable")).map .reference
  match part, reference with
  | .ok _, .ok _ => if isReference fields v then reference else part
  | _, _ => orElse part reference

def criterionType (v : Value) : Checked CriterionType :=
  orElse (((text v).under (.name "str")).map .named)
    (((mapping anything v).under (.name "dict[str,any]")).map .detailed)

def criterion : Value → Checked Criterion := record "Criterion" fun e =>
  let fields := ["condition", "context", "type"].map Field.plain
  (gather Criterion.mk).also (required e (.plain "condition") text)
    |>.also (possible e (.plain "context") text)
    |>.also (possible e (.plain "type") criterionType)
    |>.also (leftover e fields)

def requestBody : Value → Checked RequestBody := record "RequestBody" fun e =>
  let contentType : Field := ⟨"contentType", "content_type"⟩
  (gather RequestBody.mk).also (required e contentType text)
    |>.also (withDefault e (.plain "payload") .null anything)
    |>.also (possible e (.plain "replacements") (list (mapping anything)))
    |>.also (leftover e [contentType, .plain "payload", .plain "replacements"])

def workflowIdField : Field := ⟨"workflowId", "workflow_id"⟩

def stepIdField : Field := ⟨"stepId", "step_id"⟩

/-- The kinds of action that a list allows. -/
def kinds (allowed : List ActionKind) : Value → Checked ActionKind :=
  among (allowed.map fun kind => (kind.name, kind))

def typeField : Field := .plain "type"

def criteriaField : Field := .plain "criteria"

/-- The fields of an action behind its name. -/
def successFields : List Field := [typeField, workflowIdField, stepIdField, criteriaField]

def successAction : Value → Checked Action := record "SuccessAction" fun e =>
  (gather fun name kind workflow step criteria extra =>
      Action.mk name kind workflow step none none criteria extra)
    |>.also (required e nameField text)
    |>.also (required e typeField (kinds [.finish, .goto]))
    |>.also (possible e workflowIdField text)
    |>.also (possible e stepIdField text)
    |>.also (possible e criteriaField (list criterion))
    |>.also (leftover e (nameField :: successFields))

def retryAfterField : Field := ⟨"retryAfter", "retry_after"⟩

def retryLimitField : Field := ⟨"retryLimit", "retry_limit"⟩

/-- The fields of an action after a failure, behind its name. -/
def failureFields : List Field := retryAfterField :: retryLimitField :: successFields

def failureAction : Value → Checked Action := record "FailureAction" fun e =>
  (gather Action.mk).also (required e nameField text)
    |>.also (required e typeField (kinds [.finish, .goto, .retry]))
    |>.also (possible e workflowIdField text)
    |>.also (possible e stepIdField text)
    |>.also (possible e retryAfterField number)
    |>.also (possible e retryLimitField integer)
    |>.also (possible e criteriaField (list criterion))
    |>.also (leftover e (nameField :: failureFields))

def parameters : Value → Checked Parameters :=
  list (orReference "Parameter" [locationField, valueField] parameter)

def successActions : Value → Checked Actions :=
  list (orReference "SuccessAction" successFields successAction)

def failureActions : Value → Checked Actions :=
  list (orReference "FailureAction" failureFields failureAction)

def step : Value → Checked Step := record "Step" fun e =>
  let operationId : Field := ⟨"operationId", "operation_id"⟩
  let operationPath : Field := ⟨"operationPath", "operation_path"⟩
  let body : Field := ⟨"requestBody", "request_body"⟩
  let criteria : Field := ⟨"successCriteria", "success_criteria"⟩
  let onSuccess : Field := ⟨"onSuccess", "on_success"⟩
  let onFailure : Field := ⟨"onFailure", "on_failure"⟩
  (gather Step.mk).also (required e stepIdField text)
    |>.also (possible e (.plain "description") text)
    |>.also (possible e operationId text)
    |>.also (possible e operationPath text)
    |>.also (possible e workflowIdField text)
    |>.also (possible e (.plain "parameters") parameters)
    |>.also (possible e body requestBody)
    |>.also (possible e criteria (list criterion))
    |>.also (possible e onSuccess successActions)
    |>.also (possible e onFailure failureActions)
    |>.also (possible e (.plain "outputs") (mapping text))
    |>.also (leftover e [stepIdField, .plain "description", operationId, operationPath,
      workflowIdField, .plain "parameters", body, criteria, onSuccess, onFailure,
      .plain "outputs"])

/-- The first identifier that occurred before. -/
def firstRepeated? (seen : List String) : List String → Option String
  | [] => none
  | s :: rest => if seen.contains s then some s else firstRepeated? (s :: seen) rest

/-- Refuses a workflow in which two steps have one identifier. -/
def distinctSteps (workflow : Workflow) : Checked Workflow :=
  match firstRepeated? [] (workflow.steps.map Step.stepId) with
  | some step => issue (.duplicateStep step workflow.workflowId)
  | none => .ok workflow

def workflowFields : Entries → Checked Workflow := fun e =>
  let dependsOn : Field := ⟨"dependsOn", "depends_on"⟩
  let onSuccess : Field := ⟨"successActions", "success_actions"⟩
  let onFailure : Field := ⟨"failureActions", "failure_actions"⟩
  (gather Workflow.mk).also (required e workflowIdField text)
    |>.also (possible e (.plain "summary") text)
    |>.also (possible e (.plain "description") text)
    |>.also (possible e (.plain "inputs") (mapping anything))
    |>.also (possible e dependsOn (list text))
    |>.also (required e (.plain "steps") (list step))
    |>.also (possible e onSuccess successActions)
    |>.also (possible e onFailure failureActions)
    |>.also (possible e (.plain "outputs") (mapping text))
    |>.also (possible e (.plain "parameters") parameters)
    |>.also (leftover e [workflowIdField, .plain "summary", .plain "description", .plain "inputs",
      dependsOn, .plain "steps", onSuccess, onFailure, .plain "outputs", .plain "parameters"])

def workflow : Value → Checked Workflow := record "Workflow" fun e =>
  workflowFields e >>= distinctSteps

def document : Value → Checked WorkflowDocument := record "ArazzoDocument" fun e =>
  let sources : Field := ⟨"sourceDescriptions", "source_descriptions"⟩
  (gather WorkflowDocument.mk).also (required e (.plain "arazzo") text)
    |>.also (required e (.plain "info") info)
    |>.also (required e sources (list source))
    |>.also (required e (.plain "workflows") (list workflow))
    |>.also (possible e (.plain "components") (mapping anything))
    |>.also (leftover e [.plain "arazzo", .plain "info", sources, .plain "workflows",
      .plain "components"])

end Check
end Arazzo
