import Arazzo.Proofs.Workflow.Isolation
import Arazzo.Proofs.Workflow.Path

/-!
# Workflows in turn

The workflows of a document run one after the other, each in the session that the one before it has
left, up to the first one that does not succeed. So those that are run form a prefix of those that are
selected, all of them are run if all succeed, and no request is sent but theirs.
-/

namespace Arazzo
namespace Run

/-- Workflows run in turn to their results; each takes up the session of the one before it. -/
inductive RunsInTurn (env : Environment) (inputs : Named Entries) (fuel : Nat) :
    List Workflow → Session → List WorkflowResult → Session → Prop
  | nil (session : Session) : RunsInTurn env inputs fuel [] session [] session
  | cons {workflow : Workflow} {rest : List Workflow} {session closing : Session}
      {result : WorkflowResult} {results : List WorkflowResult} :
      (run env workflow ((inputs.find? workflow.workflowId).getD []) session fuel).result =
        some (.ok result) →
      RunsInTurn env inputs fuel rest
        (run env workflow ((inputs.find? workflow.workflowId).getD []) session fuel).session
        results closing →
      RunsInTurn env inputs fuel (workflow :: rest) session (result :: results) closing

/-- How far a series of workflows gets: to its end if all succeed, and else to the first one that does
not. -/
inductive GetsTo (workflows ran : List Workflow) (results : List WorkflowResult) : Prop
  | finish : ran = workflows → (∀ r ∈ results, r.isSuccess = true) → GetsTo workflows ran results
  | halt (front : List WorkflowResult) (last : WorkflowResult) : ran <+: workflows →
      results = front ++ [last] → (∀ r ∈ front, r.isSuccess = true) → last.isSuccess = false →
      GetsTo workflows ran results

variable {env : Environment} {inputs : Named Entries} {fuel : Nat} {workflow : Workflow}
  {workflows ran : List Workflow} {session closing : Session} {result : WorkflowResult}
  {results : List WorkflowResult}

theorem GetsTo.isPrefix (h : GetsTo workflows ran results) : ran <+: workflows := by
  cases h with
  | finish heq => exact heq ▸ List.prefix_rfl
  | halt _ _ hprefix => exact hprefix

theorem GetsTo.cons (h : GetsTo workflows ran results) (hsuccess : result.isSuccess = true) :
    GetsTo (workflow :: workflows) (workflow :: ran) (result :: results) := by
  cases h with
  | finish heq hall => exact .finish (by rw [heq]) (List.forall_mem_cons.mpr ⟨hsuccess, hall⟩)
  | halt front last hprefix hresults hfront hlast =>
    refine .halt (result :: front) last ?_ ?_ (List.forall_mem_cons.mpr ⟨hsuccess, hfront⟩) hlast
    · exact (List.prefix_cons_inj workflow).mpr hprefix
    · rw [hresults, List.cons_append]

/-- A series with neither a defect nor a run that was cut off has run the workflows in turn. -/
theorem exists_ran_of_runAll (hstopped : (runAll env inputs fuel workflows session).stopped = none)
    (hcomplete : (runAll env inputs fuel workflows session).isComplete = true) :
    ∃ ran, RunsInTurn env inputs fuel ran session
        (runAll env inputs fuel workflows session).results
        (runAll env inputs fuel workflows session).session ∧
      GetsTo workflows ran (runAll env inputs fuel workflows session).results := by
  induction workflows generalizing session with
  | nil => exact ⟨[], .nil session, .finish rfl (by simp [runAll])⟩
  | cons workflow rest ih =>
    simp only [runAll] at hstopped hcomplete ⊢
    cases hresult : (run env workflow ((inputs.find? workflow.workflowId).getD []) session
        fuel).result with
    | none => simp [hresult] at hcomplete
    | some outcome =>
      cases outcome with
      | error d => simp [hresult] at hstopped
      | ok result =>
        simp only [hresult] at hstopped hcomplete ⊢
        by_cases hsuccess : result.isSuccess = true
        · simp only [if_pos hsuccess] at hstopped hcomplete ⊢
          obtain ⟨ran, hruns, hgets⟩ := ih hstopped hcomplete
          exact ⟨workflow :: ran, .cons hresult hruns, hgets.cons hsuccess⟩
        · simp only [if_neg hsuccess]
          refine ⟨[workflow], .cons hresult (.nil _), ?_⟩
          refine .halt [] result ?_ rfl (by simp) (by simpa using hsuccess)
          exact List.cons_prefix_cons.mpr ⟨rfl, List.nil_prefix⟩

/-- If workflows run in turn to successes, the series has their results. -/
theorem RunsInTurn.results_runAll (h : RunsInTurn env inputs fuel workflows session results closing)
    (hall : ∀ r ∈ results, r.isSuccess = true) :
    (runAll env inputs fuel workflows session).results = results := by
  induction h with
  | nil => rfl
  | cons hresult _ ih =>
    obtain ⟨hsuccess, hrest⟩ := List.forall_mem_cons.mp hall
    simp only [runAll, hresult, if_pos hsuccess, ih hrest]

theorem workflowId_of_resultOf {made closed : DateTime} {p : Progress} {stop : Stop}
    (h : resultOf workflow made closed p stop = .ok result) :
    result.workflowId = workflow.workflowId := by
  cases stop with
  | success =>
    cases hsucceed : succeed workflow p.context made with
    | ok r =>
      simp only [resultOf, hsucceed] at h
      cases h
      obtain ⟨values, -, rfl⟩ := map_ok_iff.mp hsucceed
      rfl
    | error f =>
      cases f with
      | failure f =>
        simp only [resultOf, hsucceed] at h
        cases h
        rfl
      | defect d => simp [resultOf, hsucceed] at h
  | failure reason =>
    cases h
    rfl
  | fault f =>
    cases f with
    | failure f =>
      cases h
      rfl
    | defect d => cases h

theorem workflowId_of_run {entries : Entries}
    (h : (run env workflow entries session fuel).result = some (.ok result)) :
    result.workflowId = workflow.workflowId := by
  obtain ⟨stop, -, hresult⟩ := Option.map_eq_some_iff.mp h
  exact workflowId_of_resultOf hresult

/-- Each result names the workflow that it is of. -/
theorem RunsInTurn.map_workflowId (h : RunsInTurn env inputs fuel ran session results closing) :
    results.map WorkflowResult.workflowId = ran.map Workflow.workflowId := by
  induction h with
  | nil => rfl
  | cons hresult _ ih => rw [List.map_cons, List.map_cons, workflowId_of_run hresult, ih]

/-! ## The workflows of a document -/

/-- The workflows that are asked for: those with an identifier in a list, or all of them if there is no
list or nothing in it. -/
def selected : Option (List String) → List Workflow → List Workflow
  | none, workflows => workflows
  | some [], workflows => workflows
  | some ids, workflows => workflows.filter fun workflow => workflow.workflowId ∈ ids

/-- The requests that reach the server while workflows run in turn, workflow by workflow. -/
def sentInTurn (env : Environment) (inputs : Named Entries) (fuel : Nat) :
    List Workflow → Session → List (List Request)
  | [], _ => []
  | workflow :: rest, session =>
    let outcome := run env workflow ((inputs.find? workflow.workflowId).getD []) session fuel
    outcome.session.sent.drop session.sent.length ::
      sentInTurn env inputs fuel rest outcome.session

theorem filter_isSelected (ids : Option (List String)) (workflows : List Workflow) :
    workflows.filter (isSelected (ids.getD [])) = selected ids workflows := by
  have hall : ∀ workflow : Workflow, isSelected [] workflow = true := fun _ => rfl
  cases ids with
  | none => exact List.filter_eq_self.mpr fun workflow _ => hall workflow
  | some ids =>
    cases ids with
    | nil => exact List.filter_eq_self.mpr fun workflow _ => hall workflow
    | cons id ids =>
      refine List.filter_congr fun workflow _ => ?_
      simp only [Option.getD_some, isSelected, List.isEmpty_cons, Bool.false_or]
      exact List.contains_eq_mem _ _

theorem sent_prefix_run (env : Environment) (workflow : Workflow) (entries : Entries)
    (session : Session) (fuel : Nat) :
    session.sent <+: (run env workflow entries session fuel).session.sent := by
  have hloop : (env.opening session).sent <+:
      (loop (env.around workflow) workflow fuel
        (start entries (env.opening session))).1.session.sent :=
    sent_prefix_loop fuel (start entries (env.opening session))
  unfold run walk
  cases refusal? workflow with
  | some f => simp [start, opening_sent]
  | none => simpa [start, opening_sent] using hloop

/-- Whatever is sent is sent in one of the runs. -/
theorem RunsInTurn.sent_eq (h : RunsInTurn env inputs fuel ran session results closing) :
    closing.sent = session.sent ++ (sentInTurn env inputs fuel ran session).flatten := by
  induction h with
  | nil => simp [sentInTurn]
  | @cons workflow rest session closing result results _ _ ih =>
    obtain ⟨added, hadded⟩ := sent_prefix_run env workflow
      ((inputs.find? workflow.workflowId).getD []) session fuel
    rw [ih, sentInTurn, List.flatten_cons, ← List.append_assoc, ← hadded, List.drop_left]

theorem GetsTo.isSuccess_of_mem_dropLast (h : GetsTo workflows ran results) :
    ∀ r ∈ results.dropLast, r.isSuccess = true := by
  intro r hr
  cases h with
  | finish _ hall => exact hall r (List.dropLast_subset results hr)
  | halt front last _ hresults hfront _ =>
    rw [hresults, List.dropLast_concat] at hr
    exact hfront r hr

theorem GetsTo.eq_or_getLast? (h : GetsTo workflows ran results) : ran = workflows ∨
    ∃ last, results.getLast? = some last ∧ (last.status = .failure ∨ last.status = .error) := by
  cases h with
  | finish heq => exact .inl heq
  | halt front last _ hresults _ hlast =>
    refine .inr ⟨last, by rw [hresults, List.getLast?_concat], ?_⟩
    unfold WorkflowResult.isSuccess at hlast
    cases hstatus : last.status with
    | success => simp [hstatus] at hlast
    | failure => exact .inl rfl
    | error => exact .inr rfl

/-- A series that returns has the results of a prefix of the selected workflows, run in turn. All
results but the last one are successes, and only a failure or an error ends the series before its time.
The requests that it sends are those of the runs in the prefix. -/
theorem runDocument_in_turn {document : WorkflowDocument} {ids : Option (List String)}
    (hstopped : (runDocument env document inputs (ids.getD []) session fuel).stopped = none)
    (hcomplete : (runDocument env document inputs (ids.getD []) session fuel).isComplete = true) :
    let series := runDocument env document inputs (ids.getD []) session fuel
    ∃ ran, ran <+: selected ids document.workflows ∧
      RunsInTurn env inputs fuel ran session series.results series.session ∧
      (∀ r ∈ series.results.dropLast, r.isSuccess = true) ∧
      (ran = selected ids document.workflows ∨ ∃ last, series.results.getLast? = some last ∧
        (last.status = .failure ∨ last.status = .error)) ∧
      series.session.sent =
        session.sent ++ (sentInTurn env inputs fuel ran session).flatten := by
  intro series
  have hseries : series = runAll env inputs fuel (selected ids document.workflows) session := by
    rw [← filter_isSelected]
    rfl
  change series.stopped = none at hstopped
  change series.isComplete = true at hcomplete
  rw [hseries] at hstopped hcomplete ⊢
  obtain ⟨ran, hruns, hgets⟩ := exists_ran_of_runAll hstopped hcomplete
  exact ⟨ran, hgets.isPrefix, hruns, hgets.isSuccess_of_mem_dropLast, hgets.eq_or_getLast?,
    hruns.sent_eq⟩

end Run

namespace Polling

/-- A workflow with one step that asks once. -/
def once (id : String) : Workflow := { workflow [step "first" none] with workflowId := id }

/-- Four workflows, of which the first one comes again. -/
def repeating : WorkflowDocument :=
  ⟨"1.0.0", ⟨"", "", none, none, []⟩, [], [once "a", once "b", once "c", once "a"], none, []⟩

/-- All but the second one are asked for, and only the first request is answered. -/
def partly : Run.Series :=
  Run.runDocument (environment (· == 0)) repeating [] ((some ["a", "c"]).getD []) .start 9

end Polling

namespace Run

/-- The second workflow is passed over, the third one fails, and the last one is not run. -/
theorem runDocument_in_turn_partly :
    Polling.partly.stopped = none ∧ Polling.partly.isComplete = true ∧
    Polling.partly.results.map WorkflowResult.status = [.success, .failure] ∧
    Polling.partly.session.sent.length = 2 ∧
    ∃ ran, ran <+: selected (some ["a", "c"]) Polling.repeating.workflows ∧
      RunsInTurn (Polling.environment (· == 0)) [] 9 ran .start Polling.partly.results
        Polling.partly.session ∧
      ran.map Workflow.workflowId = ["a", "c"] := by
  have hpartly : (Polling.partly.stopped, Polling.partly.isComplete,
      Polling.partly.results.map WorkflowResult.status,
      Polling.partly.results.map WorkflowResult.workflowId,
      Polling.partly.session.sent.length) =
        (none, true, [.success, .failure], ["a", "c"], 2) := by decide +kernel
  simp only [Prod.mk.injEq] at hpartly
  obtain ⟨hstopped, hcomplete, hstatuses, hids, hsent⟩ := hpartly
  obtain ⟨ran, hprefix, hruns, -⟩ := runDocument_in_turn hstopped hcomplete
  exact ⟨hstopped, hcomplete, hstatuses, hsent, ran, hprefix, hruns,
    hruns.map_workflowId.symm.trans hids⟩

end Run
end Arazzo
