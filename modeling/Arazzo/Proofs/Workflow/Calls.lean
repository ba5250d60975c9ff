import Arazzo.Proofs.Http.Client
import Arazzo.Proofs.Workflow.Building
import Arazzo.Proofs.Workflow.Faults
import Arazzo.Proofs.Workflow.Path

/-!
# The requests of a run

Each attempt of a run hands one request to the client, the one that is built from the context before
it, and in the order of the attempts. A run that breaks off behind a request has handed over this
one as well, and no run any other.
-/

namespace Arazzo
variable {around : Surroundings} {workflow : Workflow} {inputs : Entries} {session : Session}
  {trail : List Stride}

/-- An attempt hands over the request that it builds, whatever happens then. -/
theorem Attempt.execute_calls (around : Surroundings) (step : Step) (shared : Parameters)
    (context : Context) (session : Session) : (execute around step shared context session).2.calls =
      session.calls ++ (request around step shared context session).toOption.toList := by
  rcases session_execute around step shared context session with
    ⟨f, hrequest, hsame⟩ | ⟨r, hrequest, hsession⟩
  · rw [hrequest, hsame]
    exact (List.append_nil _).symm
  · rw [hrequest, hsession]
    exact Client.send_calls around.server around.client r session

theorem Attempt.exists_call_of_execute {step : Step} {shared : Parameters} {context : Context}
    {closing : Session} {attempt : Attempt}
    (h : execute around step shared context session = (.ok attempt, closing)) :
    ∃ r, request around step shared context session = .ok r ∧
      closing.calls = session.calls ++ [r] := by
  have hcalls := execute_calls around step shared context session
  rw [h] at hcalls
  cases hrequest : request around step shared context session with
  | error f => simp [execute, hrequest] at h
  | ok r => exact ⟨r, rfl, by simpa [hrequest, Except.toOption] using hcalls⟩

theorem Stride.IsAttempt.calls_eq {s : Stride} (h : s.IsAttempt around workflow) :
    s.closing.calls = s.opening.calls ++ [s.request] := by
  rw [← Client.send_calls around.server around.client s.request s.opening, h.exchange_eq]

/-- A trail breaks off behind a request of the step that it leads to. -/
inductive Interrupted (around : Surroundings) (workflow : Workflow) (inputs : Entries)
    (session : Session) (trail : List Stride) (r : Request) (f : Failure) : Prop
  | intro {i : Nat} {step : Step} : GoesOn around.sleep workflow trail i →
      workflow.steps[i]? = some step →
      Attempt.request around step (workflow.parameters.getD []) (contextAfter inputs trail)
        (sessionAfter session trail) = .ok r →
      Attempt.BreaksOff around step (contextAfter inputs trail) (sessionAfter session trail) r f →
      Interrupted around workflow inputs session trail r f

theorem Interrupted.stopsWith {r : Request} {f : Failure}
    (h : Interrupted around workflow inputs session trail r f) :
    StopsWith around workflow inputs session trail (.fault (.failure f)) := by
  obtain ⟨hgoes, hstep, hrequest, hbreaks⟩ := h
  have hexecute := Attempt.execute_error_iff.mpr (.inr ⟨r, hrequest, rfl, hbreaks⟩)
  exact .broken hgoes hstep (congrArg Prod.fst hexecute)

namespace Run

variable {p : Progress}

theorem Begins.calls_eq {s : Stride} (h : Begins around workflow p s)
    (hcalls : p.session.calls = session.calls ++ trail.map Stride.request) :
    s.closing.calls = session.calls ++ (trail ++ [s]).map Stride.request := by
  rw [h.attempt.calls_eq, h.opening_eq, hcalls, List.map_append, List.append_assoc]
  rfl

theorem Walked.calls_eq (h : Walked around workflow (start inputs session) trail p) :
    p.session.calls = session.calls ++ trail.map Stride.request := by
  induction h with
  | nil => simp [start]
  | concat _ hbegins hnext ih =>
    obtain ⟨-, hsession, -⟩ := hnext.frame
    rw [hsession]
    exact hbegins.calls_eq ih

theorem Walked.request_eq {r : Request} {f : Failure} {step : Step}
    (h : Walked around workflow (start inputs session) trail p)
    (hstep : workflow.steps[p.index]? = some step)
    (hinterrupted : Interrupted around workflow inputs session trail r f) :
    Attempt.request around step (workflow.parameters.getD []) p.context p.session = .ok r := by
  obtain ⟨hgoes, hstep', hrequest, -⟩ := hinterrupted
  obtain rfl := hgoes.unique h.goesOn
  obtain rfl := Option.some.inj (hstep'.symm.trans hstep)
  rw [h.carries.context_eq, h.carries.session_eq]
  exact hrequest

/-- A run whose last attempt names an unknown step goes on nowhere. -/
theorem Next.not_goesOn {sleep : Sleep} {past : List Stride} {s : Stride} {f : Failure} {i : Nat}
    (h : Next sleep workflow p s.result (.inr (.fault (.failure f)))) :
    ¬ GoesOn sleep workflow (past ++ [s]) i := by
  intro hgoes
  cases h with
  | lost haction hindex =>
    rcases hgoes.nextAction_cases List.getLast?_concat with
      ⟨hnone, -⟩ | ⟨t, -, ht, hat⟩ | ⟨hretry, -⟩
    · simp [haction] at hnone
    · rw [ht, Option.getD_some] at hindex
      rw [← workflow.stepIndex?_eq_some_iff, hindex] at hat
      cases hat
    · simp [haction] at hretry

/-- When the loop stops, one more request than there are attempts has been handed over if the step
that the trail leads to broke off behind it, and else none. -/
theorem Halted.exists_extra {stop : Stop}
    (h : Halted around workflow (start inputs session) trail p stop)
    (hforeseen : ∀ d, stop ≠ .fault (.defect d)) :
    ∃ extra : Option Request,
      p.session.calls = session.calls ++ trail.map Stride.request ++ extra.toList ∧
      ∀ r, extra = some r ↔ ∃ f, Interrupted around workflow inputs session trail r f := by
  have hstop : ∀ r f, Interrupted around workflow inputs session trail r f →
      stop = .fault (.failure f) := fun r f hinterrupted =>
    h.stopsWith.unique hinterrupted.stopsWith
  cases h with
  | past hwalked hstep =>
    refine ⟨none, by simpa using hwalked.calls_eq, fun r => ⟨by simp, ?_⟩⟩
    rintro ⟨f, hinterrupted⟩
    cases hstop r f hinterrupted
  | @fault _ q step f closing hwalked hstep hexecute =>
    cases f with
    | defect d => exact absurd rfl (hforeseen d)
    | failure f =>
      rcases Attempt.execute_error_iff.mp hexecute with
        ⟨hrequest, rfl⟩ | ⟨r, hrequest, rfl, hbreaks⟩
      · refine ⟨none, by simpa using hwalked.calls_eq, fun r => ⟨by simp, ?_⟩⟩
        rintro ⟨g, hinterrupted⟩
        rw [hwalked.request_eq hstep hinterrupted] at hrequest
        cases hrequest
      · refine ⟨some r, ?_, fun r' => ⟨?_, ?_⟩⟩
        · rw [Client.send_calls, hwalked.calls_eq]
          rfl
        · intro heq
          obtain rfl := Option.some.inj heq
          rw [hwalked.carries.context_eq, hwalked.carries.session_eq] at hrequest hbreaks
          exact ⟨f, hwalked.goesOn, hstep, hrequest, hbreaks⟩
        · rintro ⟨g, hinterrupted⟩
          rw [hwalked.request_eq hstep hinterrupted] at hrequest
          exact congrArg some (Except.ok.inj hrequest).symm
  | @last past q s _ hwalked hbegins hnext =>
    have hcalls := hbegins.calls_eq hwalked.calls_eq
    refine ⟨none, (List.append_nil _).symm ▸ hcalls, fun r => ⟨by simp, ?_⟩⟩
    rintro ⟨f, hinterrupted⟩
    obtain rfl := hstop r f hinterrupted
    obtain ⟨hgoes, -⟩ := hinterrupted
    exact absurd hgoes hnext.not_goesOn

/-- What a run and a single attempt hand over to the client. -/
theorem run_hands_over :
    (∀ {env : Environment} {workflow : Workflow} {inputs : Entries} {session : Session} {fuel : Nat}
      {result : WorkflowResult},
      (run env workflow inputs session fuel).result = some (.ok result) →
      ∃ (trail : List Stride) (extra : Option Request),
        IsTrail (env.around workflow) workflow inputs (env.opening session) trail ∧
        result.stepResults = trail.map Stride.result ∧
        (run env workflow inputs session fuel).session.calls =
          session.calls ++ trail.map Stride.request ++ extra.toList ∧
        ∀ r, extra = some r ↔ ¬ Refused workflow ∧ ∃ f : Failure,
          result.status = .error ∧ result.errorMessage = some f.text ∧
          Interrupted (env.around workflow) workflow inputs (env.opening session) trail r f) ∧
    ∀ (around : Surroundings) (step : Step) (shared : Parameters) (context : Context)
      (session : Session),
      (∀ attempt closing,
        Attempt.execute around step shared context session = (.ok attempt, closing) →
        ∃ r, Attempt.request around step shared context session = .ok r ∧
          closing.calls = session.calls ++ [r]) ∧
      (Attempt.Unready around step shared context →
        ∃ f, Attempt.execute around step shared context session = (.error f, session)) ∧
      ∀ (f : Failure) (closing : Session), f.IsOfBuilding →
        Attempt.execute around step shared context session = (.error (.failure f), closing) →
        closing = session := by
  refine ⟨fun returned => ?_, fun around step shared context session => ⟨?_, ?_, ?_⟩⟩
  · rcases returned_halted returned with ⟨hrefused, hhistory, -, -, hsession⟩ |
      ⟨hrefused, trail, p, stop, hhalted, hhistory, hconcludes, -, hsession⟩
    · refine ⟨[], none, .nil, hhistory, ?_, fun r => ⟨by simp, fun h => absurd hrefused h.1⟩⟩
      rw [hsession, opening_calls]
      simp
    · obtain ⟨extra, hcalls, hextra⟩ := hhalted.exists_extra hconcludes.foreseen
      refine ⟨trail, extra, hhalted.isTrail, hhistory.trans hhalted.history_eq, ?_, fun r => ?_⟩
      · rw [hsession, hcalls, opening_calls]
      · rw [hextra r]
        constructor
        · rintro ⟨f, hinterrupted⟩
          have hstop := (hhalted.eq_iff _).mpr hinterrupted.stopsWith
          obtain ⟨hstatus, hmessage⟩ := (hconcludes.error_iff f.text).mpr ⟨f, rfl, .inl hstop⟩
          exact ⟨hrefused, f, hstatus, hmessage, hinterrupted⟩
        · rintro ⟨-, f, -, -, hinterrupted⟩
          exact ⟨f, hinterrupted⟩
  · exact fun attempt closing => Attempt.exists_call_of_execute
  · exact fun h => h.exists_execute_eq session
  · intro f closing hbuilding hexecute
    rcases Attempt.execute_error_iff.mp hexecute with ⟨-, hclosing⟩ | ⟨r, -, -, hbreaks⟩
    · exact hclosing
    · exact absurd hbreaks.isLate hbuilding.not_isLate

end Run

namespace Polling

/-- A server that is busy for the first request and breaks the connection at the second one. -/
def unreliable : Run.Environment :=
  { environment (fun _ => false) with
    server := fun n _ => if n = 0 then .response ⟨503, [], []⟩ else .failed "reset" }

def brokenOff : Run.Outcome := Run.run unreliable twoSteps [] .start 9

/-- A step that names an operation in two ways. -/
def ambiguous : Step := { step "both" none with operationPath := some "#/paths" }

end Polling

namespace Run

/-- One attempt stands in the history, and its repetition broke off behind its request; a first
attempt sends one request, and a step that names its operation in two ways none. -/
theorem run_hands_over_unreliable :
    (∃ result, Polling.brokenOff.result = some (.ok result) ∧ result.status = .error ∧
      ∃ trail r f, IsTrail (Polling.unreliable.around Polling.twoSteps) Polling.twoSteps [] .start
        trail ∧
      result.stepResults = trail.map Stride.result ∧ trail.length = 1 ∧
      Polling.brokenOff.session.calls = trail.map Stride.request ++ [r] ∧
      Interrupted (Polling.unreliable.around Polling.twoSteps) Polling.twoSteps [] .start trail r
        f) ∧
    (∃ attempt closing, Attempt.execute (Polling.unreliable.around Polling.twoSteps)
        (Polling.step "first" none) [] (.start []) .start = (.ok attempt, closing) ∧
      closing.calls.length = 1) ∧
    (∃ f, Attempt.execute (Polling.unreliable.around Polling.twoSteps) Polling.ambiguous []
        (.start []) .start = (.error f, .start)) ∧
    ∃ f closing, Attempt.execute (Polling.unreliable.around Polling.twoSteps) Polling.ambiguous []
        (.start []) .start = (.error (.failure f), closing) ∧ closing = .start := by
  obtain ⟨hrun, hexecute⟩ := run_hands_over
  refine ⟨?_, ?_, ?_, ?_⟩
  · have hstatus : Polling.brokenOff.status? = some .error := by decide +kernel
    have hlength : Polling.brokenOff.session.calls.length = 2 := by decide +kernel
    have hhistory : (Polling.brokenOff.result.bind Except.toOption).map
        (fun result => result.stepResults.length) = some 1 := by decide +kernel
    obtain ⟨result, hresult, herror⟩ := Outcome.exists_result hstatus
    obtain ⟨trail, extra, htrail, hresults, hcalls, hextra⟩ := hrun hresult
    have hone : trail.length = 1 := by
      simpa [hresult, Except.toOption, hresults] using hhistory
    change Polling.brokenOff.session.calls = _ at hcalls
    cases extra with
    | none => simp [hcalls, hone, Session.start] at hlength
    | some r =>
      obtain ⟨-, f, -, -, hinterrupted⟩ := (hextra r).mp rfl
      exact ⟨result, hresult, herror, trail, r, f, htrail, hresults, hone, hcalls, hinterrupted⟩
  · have hok : (Attempt.execute (Polling.unreliable.around Polling.twoSteps)
        (Polling.step "first" none) [] (.start []) .start).1.isOk = true := by decide +kernel
    cases hfirst : Attempt.execute (Polling.unreliable.around Polling.twoSteps)
        (Polling.step "first" none) [] (.start []) .start with
    | mk outcome closing =>
      cases outcome with
      | error f => simp [hfirst, Except.isOk, Except.toBool] at hok
      | ok attempt =>
        obtain ⟨r, -, hcalls⟩ := (hexecute _ _ _ _ _).1 attempt closing hfirst
        exact ⟨attempt, closing, rfl, by rw [hcalls]; rfl⟩
  · exact (hexecute _ _ _ _ _).2.1 (.operationPath (by decide))
  · have hraised : Attempt.execute (Polling.unreliable.around Polling.twoSteps) Polling.ambiguous []
        (.start []) .start = (.error (.failure (.unsupported .stepWithoutOperationId
          ⟨some "poll", some "both"⟩)), .start) := rfl
    exact ⟨_, _, hraised, (hexecute _ _ _ _ _).2.2 _ _ (.stepWithoutOperationId _) hraised⟩

end Run
end Arazzo
