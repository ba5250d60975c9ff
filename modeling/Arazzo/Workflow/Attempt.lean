import Arazzo.Http.RetryAfter
import Arazzo.Workflow.Call
import Arazzo.Workflow.Criteria
import Arazzo.Workflow.Result

/-!
# An attempt of a step

An attempt builds the request of a step from the context before it, sends it, and judges the exchange
in the context that remembers it: outputs first, then the success criteria, then the actions of the
outcome. The first action in the list that decides is the one that counts.
-/

namespace Arazzo

/-- A way to wait: the defect that keeps from a delay, if one does. -/
abbrev Sleep := Binary64 → Option Defect

/-- The system counts nanoseconds in 63 bits. -/
def Sleep.ofSystem : Sleep := fun delay =>
  let nanoseconds := delay.mul (.ofInt 1000000000)
  match nanoseconds.toInt? with
  | some n => if n < 0x8000000000000000 then none else some .numberTooLarge
  | none => if nanoseconds.isFinite then none else some .numberTooLarge

/-- Everything around an attempt that stays the same through a run. -/
structure Surroundings where
  documents : ApiDocuments
  server : Server
  client : Client
  sleep : Sleep
  workflow : Option String

/-- The time at which the last response of a session is judged. -/
def Surroundings.judgedAt (around : Surroundings) (session : Session) : DateTime :=
  around.client.clock .judged session.sent.length

/-- What an attempt leaves behind. -/
structure Attempt where
  result : StepResult
  context : Context

/-- What follows an attempt. -/
structure Decision where
  action : Option ActionKind
  stepId : Option String
  retryAfter : Option Binary64
  retryLimit : Option Int
deriving DecidableEq, Repr

namespace Decision

/-- No action decides. -/
def none : Decision := ⟨.none, .none, .none, .none⟩

def finish : Decision := ⟨some .finish, .none, .none, .none⟩

def goto (stepId : String) : Decision := ⟨some .goto, some stepId, .none, .none⟩

def retry (after : Option Binary64) (limit : Option Int) : Decision :=
  ⟨some .retry, .none, after, limit⟩

end Decision

namespace Attempt

/-- Texts that are missing or empty name nothing. -/
def named? : Option String → Option String
  | some s => if s = "" then none else some s
  | none => none

/-- Whether the criteria of an action hold; without criteria they do. -/
def guardHolds (scope : Scope) (site : Site) (action : Action) : Except Fault Bool :=
  (Criterion.judgeAll scope site.step (action.criteria.getD [])).outcome

/-- The decision of an action whose guard holds, if it makes one. -/
def decisionOf (site : Site) (asked : Except Defect (Option Binary64)) (action : Action) :
    Except Fault (Option Decision) :=
  match action.kind with
  | .finish => .ok (some .finish)
  | .goto => .ok ((named? action.stepId).map Decision.goto)
  | .retry =>
    if (named? action.stepId).isSome then
      .error (.failure (.unsupported .retryOfAnotherStep site))
    else match asked with
      | .ok after => .ok (some (.retry (after.or action.retryAfter) action.retryLimit))
      | .error d => .error (.defect d)

/-- The decision of the first action that makes one. `list` names the list of actions, and `asked` is
how long the server asks to wait. -/
def decide (scope : Scope) (site : Site) (list : String)
    (asked : Except Defect (Option Binary64)) : Actions → Except Fault Decision
  | [] => .ok .none
  | .reference _ :: _ => .error (.failure (.unsupported (.actionReference list) site))
  | .given action :: rest =>
    if (named? action.workflowId).isSome then
      .error (.failure (.unsupported (.actionWorkflow list) site))
    else match guardHolds scope site action with
      | .error f => .error f
      | .ok false => decide scope site list asked rest
      | .ok true => match decisionOf site asked action with
        | .error f => .error f
        | .ok (some decision) => .ok decision
        | .ok none => decide scope site list asked rest

/-- The values of named expressions, given what an expression denotes. -/
def outputs (value : String → Except Fault Value) : List (String × String) → Except Fault Entries
  | [] => .ok []
  | (name, expression) :: rest => do
    let v ← value expression
    let values ← outputs value rest
    .ok ((.text name, v) :: values)

/-- Judges the response to a step, at a time and in the context that remembers it. -/
def judge (around : Surroundings) (now : DateTime) (step : Step) (response : Response)
    (context : Context) : Except Fault Attempt := do
  let site : Site := ⟨around.workflow, some step.stepId⟩
  let scope := context.scope site
  let values ← outputs scope.recorded (step.outputs.getD [])
  let success ← (Criterion.judgeAll scope site.step (step.successCriteria.getD [])).outcome
  let asked := RetryAfter.ofHeaders? now response.headers
  let decision ←
    if success then decide scope site "onSuccess" asked (step.onSuccess.getD [])
    else decide scope site "onFailure" asked (step.onFailure.getD [])
  let result := StepResult.ofAttempt step.stepId success values (some response.status)
  .ok ⟨{ result with
    nextAction := decision.action
    nextStepId := decision.stepId
    retryAfter := decision.retryAfter.map .float
    retryLimit := decision.retryLimit }, context⟩

/-- Remembers an exchange of a step and judges it. -/
def conclude (around : Surroundings) (now : DateTime) (step : Step) (context : Context)
    (exchange : Exchange) : Except Fault Attempt := do
  let context ← (context.withExchange exchange).mapError Fault.defect
  judge around now step exchange.response context

/-- The call that a step makes. -/
def callOf (around : Surroundings) (step : Step) (shared : Parameters) : Except Fault Call :=
  let site : Site := ⟨around.workflow, some step.stepId⟩
  match named? step.operationId with
  | some id =>
    if (named? step.operationPath).isSome ∨ (named? step.workflowId).isSome then
      .error (.failure (.unsupported .stepWithoutOperationId site))
    else (Operation.named around.documents id site).map fun operation =>
      ⟨operation, step.parameters.getD [], shared, step.requestBody⟩
  | none => .error (.failure (.unsupported .stepWithoutOperationId site))

/-- The request that a step sends in a context. -/
def request (around : Surroundings) (step : Step) (shared : Parameters) (context : Context)
    (session : Session) : Except Fault Request := do
  let site : Site := ⟨around.workflow, some step.stepId⟩
  let call ← callOf around step shared
  call.request (context.scope site) site around.client session

/-- The fault that a step reports when its request has no response. -/
def transportFault (site : Site) : ClientFault → Fault
  | .failed message => .failure (.transport ("Request failed: " ++ message) site)
  | .defect d => .defect d

/-- Executes a step. Nothing is sent if its request cannot be built. -/
def execute (around : Surroundings) (step : Step) (shared : Parameters) (context : Context)
    (session : Session) : Except Fault Attempt × Session :=
  match request around step shared context session with
  | .error f => (.error f, session)
  | .ok request => match around.client.send around.server request session with
    | (.error fault, session) =>
      (.error (transportFault ⟨around.workflow, some step.stepId⟩ fault), session)
    | (.ok exchange, session) =>
      (conclude around (around.judgedAt session) step context exchange, session)

end Attempt
end Arazzo
