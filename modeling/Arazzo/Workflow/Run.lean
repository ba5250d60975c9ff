import Arazzo.Config
import Arazzo.Workflow.Attempt

/-!
# Running workflows

A run walks through the steps of a workflow from the first one. After each attempt it goes on to the
next step, to a named one, repeats the step, or stops. A run ends in success, failure or error; an
error is a fault that was foreseen. The number of attempts is bounded by a number given to the run.
-/

namespace Arazzo

/-- Where a run stands: the position of the step to attempt, the retries of the current visit and the
limit in force for them, and all that has happened so far. -/
structure Progress where
  index : Nat
  retries : Nat
  retryLimit : Option Int
  context : Context
  history : List StepResult
  delays : List Binary64
  session : Session

/-- Why a run stops. -/
inductive Stop where
  | success
  | failure (reason : String)
  | fault (f : Fault)

namespace Run

/-- The limit of a visit that declares none. -/
def defaultRetryLimit : Int := 1

def stepFailed (step : String) : String := "Step " ++ step ++ " failed"

def retriesExhausted (step : String) : String := stepFailed step ++ ": retry limit exceeded"

/-- The number of attempts that a visit may have, by the first retry action of the visit. -/
def limitOf (declared : Option Int) : Int :=
  match declared with
  | some n => if n = 0 then defaultRetryLimit else n
  | none => defaultRetryLimit

/-- The delay before a repetition. -/
def delayOf (retryAfter : Option Value) : Binary64 :=
  match retryAfter with
  | some (.float x) => x.positivePart
  | _ => .zero false

/-- The state behind an attempt, whatever follows it. -/
def record (progress : Progress) (attempt : Attempt) (session : Session) : Progress :=
  { progress with
    context := attempt.context.record attempt.result.stepId attempt.result.outputs
    history := progress.history ++ [attempt.result]
    session := session }

/-- Starts a visit of the step at a position. -/
def visit (progress : Progress) (index : Nat) : Progress :=
  { progress with index := index, retries := 0, retryLimit := none }

/-- What follows an attempt: a state to go on from, or the end of the run. -/
def next (sleep : Sleep) (workflow : Workflow) (progress : Progress) (result : StepResult) :
    Progress ⊕ Stop :=
  match result.nextAction with
  | none =>
    if result.success then .inl (visit progress (progress.index + 1))
    else .inr (.failure (stepFailed result.stepId))
  | some .finish =>
    .inr (if result.success then .success else .failure (stepFailed result.stepId))
  | some .goto =>
    let target := result.nextStepId.getD ""
    match workflow.stepIndex? target with
    | some index => .inl (visit progress index)
    | none => .inr (.fault (.failure (.unknownStep target (some workflow.workflowId))))
  | some .retry =>
    let limit := progress.retryLimit.getD (limitOf result.retryLimit)
    let retries := progress.retries + 1
    let delay := delayOf result.retryAfter
    if limit ≤ (retries : Int) then .inr (.failure (retriesExhausted result.stepId))
    else match sleep delay with
      | some d => .inr (.fault (.defect d))
      | none => .inl { progress with
          retries := retries
          retryLimit := some limit
          delays := progress.delays ++ [delay] }

/-- Attempts the step at the current position; past the last one the run succeeds. -/
def advance (around : Surroundings) (workflow : Workflow) (progress : Progress) :
    Progress × Option Stop :=
  match workflow.steps[progress.index]? with
  | none => (progress, some .success)
  | some step =>
    match Attempt.execute around step (workflow.parameters.getD []) progress.context
        progress.session with
    | (.error f, session) => ({ progress with session := session }, some (.fault f))
    | (.ok attempt, session) =>
      let progress := record progress attempt session
      match next around.sleep workflow progress attempt.result with
      | .inl progress => (progress, none)
      | .inr stop => (progress, some stop)

/-- Advances until the run stops; no stop if `fuel` advances do not suffice. -/
def loop (around : Surroundings) (workflow : Workflow) : Nat → Progress → Progress × Option Stop
  | 0, progress => (progress, none)
  | fuel + 1, progress =>
    match advance around workflow progress with
    | (progress, some stop) => (progress, some stop)
    | (progress, none) => loop around workflow fuel progress

/-- Refuses the features of workflows that are not supported. -/
def refusal? (workflow : Workflow) : Option Fault :=
  let site : Site := ⟨some workflow.workflowId, none⟩
  let listed {α : Type} (o : Option (List α)) : Bool := !(o.getD []).isEmpty
  if listed workflow.dependsOn then some (.failure (.unsupported .dependencies site))
  else if listed workflow.successActions || listed workflow.failureActions then
    some (.failure (.unsupported .workflowActions site))
  else none

/-- The result of a success: the outputs of the workflow, unless one of them has no value. -/
def succeed (workflow : Workflow) (context : Context) (made : DateTime) :
    Except Fault WorkflowResult :=
  let scope := context.scope ⟨some workflow.workflowId, none⟩
  (Attempt.outputs scope.operand (workflow.outputs.getD [])).map fun outputs =>
    .success workflow.workflowId outputs made

/-- The result that a stop leads to, made at one time and handed out at another; a defect has none. -/
def resultOf (workflow : Workflow) (made closed : DateTime) (progress : Progress) (stop : Stop) :
    Except Defect WorkflowResult :=
  let outcome : Except Fault WorkflowResult := match stop with
    | .success => succeed workflow progress.context made
    | .failure reason => .ok (.failure workflow.workflowId reason made)
    | .fault f => .error f
  let complete (r : WorkflowResult) : WorkflowResult :=
    { r with stepResults := progress.history, endTime := some closed }
  match outcome with
  | .ok r => .ok (complete r)
  | .error (.failure f) => .ok (complete (.error workflow.workflowId f.text made))
  | .error (.defect d) => .error d

/-- The state at the start of a run. -/
def start (inputs : Entries) (session : Session) : Progress :=
  ⟨0, 0, none, .start inputs, [], [], session⟩

/-- Walks through a workflow; a refused one stops before its first step. -/
def walk (around : Surroundings) (workflow : Workflow) (inputs : Entries) (session : Session)
    (fuel : Nat) : Progress × Option Stop :=
  match refusal? workflow with
  | some f => (start inputs session, some (.fault f))
  | none => loop around workflow fuel (start inputs session)

/-- What a run leaves behind: its result, the delays between repetitions, and the session. -/
structure Outcome where
  /-- Missing if the run was cut off. -/
  result : Option (Except Defect WorkflowResult)
  delays : List Binary64
  session : Session

/-- What runs share. -/
structure Environment where
  documents : ApiDocuments
  server : Server
  client : Client
  sleep : Sleep
  /-- Whether cookies outlive a run. -/
  keepsCookies : Bool

/-- What is around the attempts of a workflow. -/
def Environment.around (env : Environment) (workflow : Workflow) : Surroundings :=
  ⟨env.documents, env.server, env.client, env.sleep, some workflow.workflowId⟩

/-- The session that a run begins with. -/
def Environment.opening (env : Environment) (session : Session) : Session :=
  if env.keepsCookies then session else session.withoutCookies

/-- Runs a workflow with inputs, advancing at most `fuel` times. -/
def run (env : Environment) (workflow : Workflow) (inputs : Entries) (session : Session)
    (fuel : Nat) : Outcome :=
  let (progress, stop) :=
    walk (env.around workflow) workflow inputs (env.opening session) fuel
  let time (moment : Moment) : DateTime := env.client.clock moment progress.session.sent.length
  ⟨stop.map (resultOf workflow (time .made) (time .closed) progress), progress.delays,
    progress.session⟩

/-- Whether a workflow is among those asked for; an empty list asks for all. -/
def isSelected (ids : List String) (workflow : Workflow) : Bool :=
  ids.isEmpty || ids.contains workflow.workflowId

/-- The results of several runs in order; a run that was cut off or met a defect is the last one. -/
structure Series where
  results : List WorkflowResult
  stopped : Option Defect
  isComplete : Bool
  delays : List Binary64
  session : Session

/-- Runs workflows one after the other up to the first that does not succeed. -/
def runAll (env : Environment) (inputs : Named Entries) (fuel : Nat) :
    List Workflow → Session → Series
  | [], session => ⟨[], none, true, [], session⟩
  | workflow :: rest, session =>
    let outcome := run env workflow ((inputs.find? workflow.workflowId).getD []) session fuel
    match outcome.result with
    | none => ⟨[], none, false, outcome.delays, outcome.session⟩
    | some (.error d) => ⟨[], some d, true, outcome.delays, outcome.session⟩
    | some (.ok result) =>
      if result.isSuccess then
        let series := runAll env inputs fuel rest outcome.session
        { series with
          results := result :: series.results
          delays := outcome.delays ++ series.delays }
      else ⟨[result], none, true, outcome.delays, outcome.session⟩

/-- Runs the selected workflows of a document. -/
def runDocument (env : Environment) (document : WorkflowDocument) (inputs : Named Entries)
    (ids : List String) (session : Session) (fuel : Nat) : Series :=
  runAll env inputs fuel (document.workflows.filter (isSelected ids)) session

end Run
end Arazzo
