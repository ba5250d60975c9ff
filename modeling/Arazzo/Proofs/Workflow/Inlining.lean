import Arazzo.Proofs.Expression.Dotted
import Arazzo.Proofs.Workflow.Parameters
import Arazzo.Proofs.Workflow.Visit
import Arazzo.Proofs.Workflow.Walk

/-!
# Parameters moved into the steps

A workflow whose parameters are moved in front of those of each step runs as before: the same requests
go out, the same delays pass and the same result comes back. Where a parameter has no value both runs
end there, but they may report different parameters.
-/

namespace Arazzo

/-- The step with the parameters of its workflow in front of its own. -/
def Step.inheriting (shared : Parameters) (step : Step) : Step :=
  { step with parameters := some (shared ++ step.parameters.getD []) }

/-- The workflow with its parameters moved into its steps. -/
def Workflow.inlined (workflow : Workflow) : Workflow :=
  { workflow with
    parameters := none
    steps := workflow.steps.map (Step.inheriting (workflow.parameters.getD [])) }

theorem Workflow.stepIndex?_inlined (workflow : Workflow) (stepId : String) :
    workflow.inlined.stepIndex? stepId = workflow.stepIndex? stepId :=
  List.findIdx?_map

namespace ParameterValues

variable {scope : Scope} {site : Site}

theorem Usable.exists_add {item : OrReference Parameter} (h : Usable scope item)
    (values : ParameterValues) : ∃ result, add scope site values item = .ok result := by
  cases h with
  | @given p value hsupported hvalue =>
    have hput : ∃ result, put site values p.location p.name value = .ok result := by
      cases hlocation : p.location with
      | cookie => simp [hlocation, isSupported] at hsupported
      | body => simp [hlocation, isSupported] at hsupported
      | _ => exact ⟨_, rfl⟩
    obtain ⟨result, hput⟩ := hput
    exact ⟨result, add_given_ok_iff.mpr ⟨hsupported, value, hvalue, hput⟩⟩

theorem exists_ofParameters (site : Site) {parameters : Parameters}
    (h : ∀ item ∈ parameters, Usable scope item) :
    ∃ values, ofParameters scope site parameters = .ok values := by
  unfold ofParameters
  generalize empty = past
  induction parameters generalizing past with
  | nil => exact ⟨past, rfl⟩
  | cons item rest ih =>
    obtain ⟨hitem, hrest⟩ := List.forall_mem_cons.mp h
    obtain ⟨next, hadd⟩ := hitem.exists_add past
    rw [List.foldlM_cons, hadd]
    exact ih hrest next

end ParameterValues

/-- The call with all its parameters in one list. -/
def Call.inlined (call : Call) : Call :=
  { call with parameters := call.shared ++ call.parameters, shared := [] }

theorem Call.request_inlined {call : Call} {scope : Scope} (site : Site) (client : Client)
    (session : Session)
    (h : ∀ item ∈ call.parameters ++ call.shared, ParameterValues.Usable scope item) :
    call.inlined.request scope site client session = call.request scope site client session := by
  obtain ⟨hown, hshared⟩ := List.forall_mem_append.mp h
  obtain ⟨own, hown⟩ := ParameterValues.exists_ofParameters site hown
  obtain ⟨shared, hshared⟩ := ParameterValues.exists_ofParameters site hshared
  have hboth : ParameterValues.ofParameters scope site (call.shared ++ call.parameters) =
      .ok (.merge shared own) := by
    rw [ParameterValues.ofParameters_append, hshared, hown]
    rfl
  have hnone : ParameterValues.ofParameters scope site [] = .ok .empty := rfl
  rw [request_eq, request_eq, inlined, hboth, hnone, hown, hshared]
  show (call.bytes scope site >>= fun body => call.assemble site client session
    (ParameterValues.merge .empty (.merge shared own)) body) = _
  rw [ParameterValues.empty_merge hboth]
  rfl

namespace Attempt

/-- Every parameter of a step and of its workflow has a value. They are looked at once the operation of
the step is found. -/
def ParametersHold (around : Surroundings) (step : Step) (shared : Parameters)
    (context : Context) : Prop :=
  ∀ call, callOf around step shared = .ok call → ∀ item ∈ call.parameters ++ call.shared,
    ParameterValues.Usable (context.scope (siteOf around step)) item

variable {around : Surroundings} {step : Step} {shared : Parameters} {context : Context}

theorem callOf_inheriting (around : Surroundings) (step : Step) (shared : Parameters) :
    callOf around (step.inheriting shared) [] =
      (callOf around step shared).map Call.inlined := by
  have hid : (step.inheriting shared).operationId = step.operationId := rfl
  have hpath : (step.inheriting shared).operationPath = step.operationPath := rfl
  have hworkflow : (step.inheriting shared).workflowId = step.workflowId := rfl
  unfold callOf
  rw [hid, hpath, hworkflow]
  cases named? step.operationId with
  | none => rfl
  | some id =>
    dsimp only
    split_ifs
    · rfl
    · change Except.map _ (Operation.named around.documents id (siteOf around step)) =
        Except.map _ (Except.map _ (Operation.named around.documents id (siteOf around step)))
      cases Operation.named around.documents id (siteOf around step) <;> rfl

theorem request_inheriting (session : Session)
    (h : ParametersHold around step shared context) :
    request around (step.inheriting shared) [] context session =
      request around step shared context session := by
  unfold request
  rw [callOf_inheriting]
  cases hcall : callOf around step shared with
  | error f => rfl
  | ok call => exact Call.request_inlined _ _ session (h call hcall)

theorem execute_inheriting (session : Session) (h : ParametersHold around step shared context) :
    execute around (step.inheriting shared) [] context session =
      execute around step shared context session := by
  unfold execute
  rw [request_inheriting session h]
  rfl

end Attempt

namespace Run

variable {around : Surroundings} {workflow : Workflow}

theorem next_inlined (sleep : Sleep) (workflow : Workflow) (p : Progress) (r : StepResult) :
    next sleep workflow.inlined p r = next sleep workflow p r := by
  unfold next
  simp only [workflow.stepIndex?_inlined]
  rfl

theorem advance_inlined {p : Progress}
    (h : ∀ step, workflow.steps[p.index]? = some step →
      Attempt.ParametersHold around step (workflow.parameters.getD []) p.context) :
    advance around workflow.inlined p = advance around workflow p := by
  have hsteps : workflow.inlined.steps[p.index]? =
      workflow.steps[p.index]?.map (Step.inheriting (workflow.parameters.getD [])) :=
    List.getElem?_map
  have hnone : workflow.inlined.parameters.getD [] = [] := rfl
  unfold advance
  rw [hsteps, hnone]
  cases hstep : workflow.steps[p.index]? with
  | none => rfl
  | some step =>
    simp only [Option.map_some, Attempt.execute_inheriting p.session (h step hstep), next_inlined]

/-- A run comes to execute a step in a context. -/
def Executes (env : Environment) (workflow : Workflow) (inputs : Entries) (session : Session)
    (fuel : Nat) (step : Step) (context : Context) : Prop :=
  refusal? workflow = none ∧ ∃ trail p,
    Walked (env.around workflow) workflow (start inputs (env.opening session)) trail p ∧
    trail.length < fuel ∧ workflow.steps[p.index]? = some step ∧ p.context = context

/-- Moving the parameters of a workflow into its steps changes nothing about a run in which all
parameters of the steps that it executes have values: neither its result and its delays nor what it
sends. -/
theorem run_inlined {env : Environment} {workflow : Workflow} {inputs : Entries} {session : Session}
    {fuel : Nat}
    (h : ∀ step context, Executes env workflow inputs session fuel step context →
      Attempt.ParametersHold (env.around workflow) step (workflow.parameters.getD []) context) :
    run env workflow.inlined inputs session fuel = run env workflow inputs session fuel := by
  have haround : env.around workflow.inlined = env.around workflow := rfl
  have hwalk : walk (env.around workflow) workflow.inlined inputs (env.opening session) fuel =
      walk (env.around workflow) workflow inputs (env.opening session) fuel := by
    have hrefusal : refusal? workflow.inlined = refusal? workflow := rfl
    unfold walk
    rw [hrefusal]
    cases hnot : refusal? workflow with
    | some f => rfl
    | none =>
      refine loop_lockstep id fun trail p hwalked hlength => ?_
      exact advance_inlined fun step hstep =>
        h step p.context ⟨hnot, trail, p, hwalked, hlength, hstep, rfl⟩
  unfold run
  rw [haround, hwalk]
  rfl

end Run

namespace Polling

/-- A step that asks with what it was answered before, and for another page than the workflow. -/
def recalling : Step :=
  { step "first" (some 9) with
    parameters := some [.given ⟨"page", .query, .int 2, []⟩,
      .given ⟨"last", .query, .text "$steps.first.outputs.code", []⟩] }

def sharing : Workflow :=
  { workflow [recalling] with
    parameters := some [.given ⟨"q", .query, .text "$inputs.q", []⟩,
      .given ⟨"page", .query, .int 1, []⟩] }

theorem parametersHold_sharing (around : Surroundings) {step : Step} (hstep : step = recalling)
    (context : Context) :
    Attempt.ParametersHold around step (sharing.parameters.getD []) context := by
  intro call hcall item hitem
  obtain ⟨-, operation, -, -, -, rfl⟩ := Attempt.exists_operation_of_callOf hcall
  subst hstep
  have hsteps : Path.isIdentifier "steps" = true := by decide
  have hcode : ∀ s ∈ ["first", "outputs", "code"], Path.isIdentifier s = true := by decide
  have hinputs : Path.isIdentifier "inputs" = true := by decide
  have hq : ∀ s ∈ ["q"], Path.isIdentifier s = true := by decide
  simp only [recalling, sharing, Option.getD_some, List.cons_append, List.nil_append,
    List.mem_cons, List.not_mem_nil, or_false] at hitem
  rcases hitem with rfl | rfl | rfl | rfl
  · exact .given rfl rfl
  · exact .given rfl (Scope.operand_dotted _ hsteps hcode (by decide))
  · exact .given rfl (Scope.operand_dotted _ hinputs hq (by decide))
  · exact .given rfl rfl

end Polling

namespace Run

/-- The step is refused once; its repetition asks with the answer to the first request. -/
theorem run_inlined_sharing :
    (∀ step context, Executes (Polling.environment (· ≠ 0)) Polling.sharing
        [(.text "q", .text "7")] .start 9 step context →
      Attempt.ParametersHold ((Polling.environment (· ≠ 0)).around Polling.sharing) step
        (Polling.sharing.parameters.getD []) context) ∧
    run (Polling.environment (· ≠ 0)) Polling.sharing.inlined [(.text "q", .text "7")] .start 9 =
      run (Polling.environment (· ≠ 0)) Polling.sharing [(.text "q", .text "7")] .start 9 ∧
    (run (Polling.environment (· ≠ 0)) Polling.sharing [(.text "q", .text "7")] .start
      9).session.calls.map (·.url.query) = [some "q=7&page=2&last=", some "q=7&page=2&last=503"] := by
  have hhold : ∀ step context, Executes (Polling.environment (· ≠ 0)) Polling.sharing
      [(.text "q", .text "7")] .start 9 step context →
      Attempt.ParametersHold ((Polling.environment (· ≠ 0)).around Polling.sharing) step
        (Polling.sharing.parameters.getD []) context := by
    rintro step context ⟨-, trail, p, -, -, hstep, -⟩
    have hmem : step ∈ [Polling.recalling] := List.mem_of_getElem? hstep
    exact Polling.parametersHold_sharing _ (List.mem_singleton.mp hmem) context
  exact ⟨hhold, run_inlined hhold, by decide +kernel⟩

end Run
end Arazzo
