import Arazzo.Proofs.Workflow.Defects
import Arazzo.Proofs.Workflow.Path

/-!
# Runs that end without a result

A run whose loop ends has a result unless a defect has stopped it. The defect has arisen at the step
that the trail of the run leads to, while its request was built or sent, while the exchange was read or
judged, in a delay behind the trail that nothing can wait for, or in the outputs of the workflow at the
end of the trail.
-/

namespace Arazzo

/-! ## Attempts -/

namespace Attempt

variable {around : Surroundings} {step : Step} {shared : Parameters} {context : Context}
  {session : Session} {d : Defect}

/-- How a defect stops an attempt. -/
inductive BreaksDown (around : Surroundings) (step : Step) (shared : Parameters) (context : Context)
    (session : Session) (d : Defect) : Prop
  | building : request around step shared context session = .error (.defect d) → d.IsOfBuilding →
      BreaksDown around step shared context session d
  | sending {r : Request} : request around step shared context session = .ok r →
      (around.client.send around.server r session).1 = .error (.defect d) → d.IsOfSending →
      BreaksDown around step shared context session d
  | reading {r : Request} {exchange : Exchange} :
      request around step shared context session = .ok r →
      (around.client.send around.server r session).1 = .ok exchange →
      exchange.document = .error d → d.IsOfReading →
      BreaksDown around step shared context session d
  | judging {r : Request} {exchange : Exchange} {closing : Session} {snapshot : Snapshot} :
      request around step shared context session = .ok r →
      around.client.send around.server r session = (.ok exchange, closing) →
      Snapshot.ofExchange exchange = .ok snapshot →
      Misjudges around (around.judgedAt closing) step
        ({ context with snapshot := snapshot }.scope (siteOf around step)) exchange.response
        (.defect d) →
      d.IsOfJudging exchange.response → BreaksDown around step shared context session d

theorem conclude_defect_iff {now : DateTime} {exchange : Exchange} :
    conclude around now step context exchange = .error (.defect d) ↔
      exchange.document = .error d ∨
      ∃ snapshot, Snapshot.ofExchange exchange = .ok snapshot ∧
        Misjudges around now step ({ context with snapshot := snapshot }.scope (siteOf around step))
          exchange.response (.defect d) := by
  rw [conclude_eq, ← Snapshot.ofExchange_error_iff]
  cases Snapshot.ofExchange exchange with
  | error e => simp
  | ok snapshot => simp [judge_error_iff]

theorem execute_of_request {r : Request}
    (h : request around step shared context session = .ok r) :
    (execute around step shared context session).1 =
      match around.client.send around.server r session with
      | (.error fault, _) => .error (transportFault (siteOf around step) fault)
      | (.ok exchange, closing) =>
        conclude around (around.judgedAt closing) step context exchange := by
  rw [execute, h]
  dsimp only
  cases around.client.send around.server r session with
  | mk outcome closing => cases outcome <;> rfl

theorem execute_defect_iff (hdocuments : ∀ document ∈ around.documents, IsApiDocument document.2)
    (hserver : Client.IsSound around.server) :
    (execute around step shared context session).1 = .error (.defect d) ↔
      BreaksDown around step shared context session d := by
  constructor
  · intro h
    cases hrequest : request around step shared context session with
    | error f =>
      rw [execute, hrequest] at h
      cases h
      exact .building hrequest (request_errors hdocuments step shared context session _ hrequest)
    | ok r =>
      have herrors := Client.send_errors around.client hserver r session
      rw [execute_of_request hrequest] at h
      cases hsend : around.client.send around.server r session with
      | mk outcome closing =>
        rw [hsend] at h herrors
        cases outcome with
        | error fault =>
          cases fault with
          | failed message => cases h
          | defect e =>
            cases h
            exact .sending hrequest (congrArg Prod.fst hsend) (herrors _ rfl)
        | ok exchange =>
          rcases conclude_defect_iff.mp h with hdocument | ⟨snapshot, hsnapshot, hmisjudges⟩
          · exact .reading hrequest (congrArg Prod.fst hsend) hdocument
              (exchange.document_errors _ hdocument)
          · exact .judging hrequest hsend hsnapshot hmisjudges (misjudges_errors _ hmisjudges)
  · intro h
    cases h with
    | building hrequest => rw [execute, hrequest]
    | @sending r hrequest hsend =>
      have hsent : around.client.send around.server r session = (.error (.defect d), _) :=
        Prod.ext hsend rfl
      rw [execute_of_request hrequest, hsent]
      rfl
    | @reading r exchange hrequest hsend hdocument =>
      have hsent : around.client.send around.server r session = (.ok exchange, _) :=
        Prod.ext hsend rfl
      rw [execute_of_request hrequest, hsent]
      exact conclude_defect_iff.mpr (.inl hdocument)
    | judging hrequest hsend hsnapshot hmisjudges =>
      rw [execute_of_request hrequest, hsend]
      exact conclude_defect_iff.mpr (.inr ⟨_, hsnapshot, hmisjudges⟩)

end Attempt

/-! ## Runs -/

/-- How a defect stops a run behind a trail: at the step that the trail leads to, in the delay that is
due before it, or when the outputs of the workflow are evaluated at its end. -/
inductive BreaksDown (around : Surroundings) (workflow : Workflow) (inputs : Entries)
    (session : Session) (trail : List Stride) (d : Defect) : Prop
  | step {i : Nat} {step : Step} : GoesOn around.sleep workflow trail i →
      workflow.steps[i]? = some step →
      Attempt.BreaksDown around step (workflow.parameters.getD []) (contextAfter inputs trail)
        (sessionAfter session trail) d →
      BreaksDown around workflow inputs session trail d
  | sleeping {delay : Binary64} : IsDue trail delay → ¬ Exhausted (trail.map Stride.result) →
      around.sleep delay = some d → BreaksDown around workflow inputs session trail d
  | outputs : Completes around.sleep workflow trail →
      Run.outputsIn workflow (contextAfter inputs trail) = .error (.defect d) → d.IsOfEvaluation →
      BreaksDown around workflow inputs session trail d

namespace Run

variable {around : Surroundings} {workflow : Workflow} {inputs : Entries} {session : Session}
  {trail : List Stride} {p : Progress}

theorem resultOf_error_iff {made closed : DateTime} {stop : Stop} {d : Defect} :
    resultOf workflow made closed p stop = .error d ↔ stop = .fault (.defect d) ∨
      stop = .success ∧ outputsIn workflow p.context = .error (.defect d) := by
  cases stop with
  | success =>
    cases houtputs : outputsIn workflow p.context with
    | ok values =>
      simp only [outputsIn] at houtputs
      simp [resultOf, succeed, houtputs, Except.map]
    | error f =>
      simp only [outputsIn] at houtputs
      cases f <;> simp [resultOf, succeed, houtputs, Except.map]
  | failure reason => simp [resultOf]
  | fault f => cases f <;> simp [resultOf]

theorem Halted.breaksDown_iff {stop : Stop}
    (h : Halted around workflow (start inputs session) trail p stop)
    (hdocuments : ∀ document ∈ around.documents, IsApiDocument document.2)
    (hserver : Client.IsSound around.server) (made closed : DateTime) (d : Defect) :
    resultOf workflow made closed p stop = .error d ↔
      BreaksDown around workflow inputs session trail d := by
  rw [resultOf_error_iff, h.eq_iff, h.eq_iff, stopsWith_success_iff, h.context_eq]
  constructor
  · rintro (hstops | ⟨hcompletes, houtputs⟩)
    · cases hstops with
      | restless hdue hnot hsleep => exact .sleeping hdue hnot hsleep
      | broken hgoes hstep hexecute =>
        exact .step hgoes hstep ((Attempt.execute_defect_iff hdocuments hserver).mp hexecute)
    · exact .outputs hcompletes houtputs
        (Attempt.outputs_errors (Scope.operand_errors _) _ _ houtputs)
  · rintro (⟨hgoes, hstep, hbreaks⟩ | ⟨hdue, hnot, hsleep⟩ | ⟨hcompletes, houtputs, -⟩)
    · exact .inl (.broken hgoes hstep
        ((Attempt.execute_defect_iff hdocuments hserver).mpr hbreaks))
    · exact .inl (.restless hdue hnot hsleep)
    · exact .inr ⟨hcompletes, houtputs⟩

/-- A run whose loop ends has a result unless a defect stops it: one of building the request of the
step that it has come to, of sending it, of reading the response, of judging it, of waiting before it,
or of the outputs of the workflow. -/
theorem run_returns {env : Environment} {fuel : Nat} {r : Except Defect WorkflowResult}
    (documents : ∀ document ∈ env.documents, IsApiDocument document.2)
    (sound : Client.IsSound env.server)
    (ended : (run env workflow inputs session fuel).result = some r) :
    (Refused workflow → ∃ result, r = .ok result ∧ result.status = .error) ∧
    (¬ Refused workflow → ∃ trail,
      IsTrail (env.around workflow) workflow inputs (env.opening session) trail ∧
      (∀ d, r = .error d ↔
        BreaksDown (env.around workflow) workflow inputs (env.opening session) trail d) ∧
      ((∀ d, ¬ BreaksDown (env.around workflow) workflow inputs (env.opening session) trail d) →
        ∃ result, r = .ok result ∧ result.stepResults = trail.map Stride.result)) := by
  unfold run at ended
  rcases refusal?_cases workflow with ⟨hrefused, feature, hrefusal⟩ | ⟨hrefused, hrefusal⟩
  · simp only [walk, hrefusal, Option.map_some, Option.some.injEq] at ended
    subst ended
    exact ⟨fun _ => ⟨_, rfl, rfl⟩, fun h => absurd hrefused h⟩
  · refine ⟨fun h => absurd h hrefused, fun _ => ?_⟩
    simp only [walk, hrefusal] at ended
    cases hloop : loop (env.around workflow) workflow fuel
        (start inputs (env.opening session)) with
    | mk p halt =>
      cases halt with
      | none => simp [hloop] at ended
      | some stop =>
        simp only [hloop, Option.map_some, Option.some.injEq] at ended
        obtain ⟨trail, hhalted⟩ := exists_halted_of_loop .nil hloop
        have hdefect := hhalted.breaksDown_iff documents sound
          (env.client.clock .made p.session.sent.length)
          (env.client.clock .closed p.session.sent.length)
        refine ⟨trail, hhalted.isTrail, fun d => ended ▸ hdefect d, fun hnone => ?_⟩
        cases r with
        | error d => exact absurd ((hdefect d).mp ended) (hnone d)
        | ok result =>
          obtain ⟨hhistory, -⟩ := concludes_of_resultOf ended
          exact ⟨result, rfl, hhistory.trans hhalted.history_eq⟩

end Run

namespace Polling

theorem isApiDocument_documents : ∀ document ∈ documents, IsApiDocument document.2 := by
  intro document hdocument
  obtain rfl := List.mem_singleton.mp hdocument
  exact .intro rfl rfl rfl fun entry hentry => ⟨"/answer", by
    obtain rfl := List.mem_singleton.mp hentry
    rfl⟩

theorem isSound_environment (answered : Nat → Bool) :
    Client.IsSound (environment answered).server :=
  fun _ _ _ h => by cases h

/-- A server that asks to wait until a year that no date can hold. -/
def overwhelmed : Run.Environment :=
  { environment (fun _ => false) with
    server := fun n _ => .response ⟨if n = 0 then 503 else 200,
      [("Retry-After", "Wed, 21 Oct 9999999999 07:28:00 GMT")], []⟩ }

end Polling

namespace Run

theorem run_returns_polling : ∃ r, Polling.answered.result = some r ∧ ∃ trail,
    IsTrail ((Polling.environment (· ≠ 0)).around Polling.twoSteps) Polling.twoSteps [] .start
      trail ∧
    (∀ d, r = .error d ↔ BreaksDown ((Polling.environment (· ≠ 0)).around Polling.twoSteps)
      Polling.twoSteps [] .start trail d) ∧
    ∃ result, r = .ok result ∧ result.stepResults = trail.map Stride.result := by
  have hstatus : Polling.answered.status? = some .success := by decide +kernel
  obtain ⟨result, hresult, -⟩ := Outcome.exists_result hstatus
  obtain ⟨-, hreturns⟩ := run_returns Polling.isApiDocument_documents
    (Polling.isSound_environment _) hresult
  obtain ⟨trail, htrail, hbreaks, hok⟩ := hreturns not_refused_twoSteps
  refine ⟨.ok result, hresult, trail, htrail, hbreaks, hok fun d hd => ?_⟩
  cases (hbreaks d).mpr hd

/-- The defect that a run ends with. -/
def Outcome.defect? (outcome : Outcome) : Option Defect :=
  match outcome.result with
  | some (.error d) => some d
  | _ => none

theorem Outcome.result_eq_of_defect? {outcome : Outcome} {d : Defect}
    (h : outcome.defect? = some d) : outcome.result = some (.error d) := by
  unfold Outcome.defect? at h
  split at h
  · rename_i e hresult
    rw [hresult, Option.some.inj h]
  · cases h

/-- A delay that the server asks for can end a run without a result. -/
theorem run_overwhelmed :
    (∀ document ∈ Polling.overwhelmed.documents, IsApiDocument document.2) ∧
    Client.IsSound Polling.overwhelmed.server ∧
    (run Polling.overwhelmed Polling.twoSteps [] .start 9).result =
      some (.error .numberTooLarge) := by
  refine ⟨Polling.isApiDocument_documents, ?_, ?_⟩
  · intro _ _ _ h
    cases h
  · exact Outcome.result_eq_of_defect? (by decide +kernel)

end Run
end Arazzo
