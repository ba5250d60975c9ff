import Arazzo.Document.Display
import Arazzo.Schema.Model

/-!
# Results

The result of one attempt of a step, and the result of a whole workflow: a success with outputs, a
failure with a reason, or an error with a message.
-/

namespace Arazzo

structure StepResult where
  stepId : String
  success : Bool
  outputs : Entries
  nextAction : Option ActionKind
  nextStepId : Option String
  retryAfter : Option Value
  retryLimit : Option Int
  statusCode : Option Int
  durationMs : Binary64

namespace StepResult

/-- An attempt without a decision on what follows. -/
def ofAttempt (stepId : String) (success : Bool) (outputs : Entries) (statusCode : Option Int) :
    StepResult :=
  ⟨stepId, success, outputs, none, none, none, none, statusCode, .zero false⟩

def optional (o : Option String) : Value := Value.ofOption (o.map .text)

def optionalInt (o : Option Int) : Value := Value.ofOption (o.map .int)

/-- The result as a document. -/
def toEntries (r : StepResult) : Entries := Entries.ofTexts
  [("step_id", .text r.stepId), ("success", .bool r.success),
   ("status_code", optionalInt r.statusCode), ("duration_ms", .float (r.durationMs.roundPlaces 2)),
   ("outputs", .map r.outputs), ("next_action", optional (r.nextAction.map ActionKind.name)),
   ("next_step_id", optional r.nextStepId), ("retry_after", Value.ofOption r.retryAfter),
   ("retry_limit", optionalInt r.retryLimit)]

end StepResult

inductive Status where
  | success
  | failure
  | error
deriving DecidableEq, Repr

def Status.name : Status → String
  | .success => "success"
  | .failure => "failure"
  | .error => "error"

structure WorkflowResult where
  workflowId : String
  status : Status
  reason : Option String
  errorMessage : Option String
  outputs : Entries
  stepResults : List StepResult
  startTime : DateTime
  endTime : Option DateTime

namespace WorkflowResult

def success (workflowId : String) (outputs : Entries) (now : DateTime) : WorkflowResult :=
  ⟨workflowId, .success, none, none, outputs, [], now, none⟩

def failure (workflowId reason : String) (now : DateTime) : WorkflowResult :=
  ⟨workflowId, .failure, some reason, none, [], [], now, none⟩

def error (workflowId message : String) (now : DateTime) : WorkflowResult :=
  ⟨workflowId, .error, none, some message, [], [], now, none⟩

def isSuccess (r : WorkflowResult) : Bool := r.status == .success

def isFailure (r : WorkflowResult) : Bool := r.status == .failure

def isError (r : WorkflowResult) : Bool := r.status == .error

/-- Seconds from start to end; zero while there is no end. -/
def durationSeconds (r : WorkflowResult) : Binary64 :=
  match r.endTime with
  | some endTime =>
    let distance := endTime.microseconds - r.startTime.microseconds
    .ofRatio (distance < 0) distance.natAbs 1000000
  | none => .zero false

/-- The result as a document. -/
def toEntries (r : WorkflowResult) : Entries := Entries.ofTexts
  [("workflow_id", .text r.workflowId), ("status", .text r.status.name),
   ("reason", StepResult.optional r.reason),
   ("error_message", StepResult.optional r.errorMessage), ("outputs", .map r.outputs),
   ("start_time", .text (r.startTime.text ++ "Z")),
   ("end_time", StepResult.optional (r.endTime.map fun t => t.text ++ "Z")),
   ("duration_seconds", .float (r.durationSeconds.roundPlaces 2)),
   ("step_results", .list (r.stepResults.map fun s => .map s.toEntries))]

end WorkflowResult
end Arazzo
