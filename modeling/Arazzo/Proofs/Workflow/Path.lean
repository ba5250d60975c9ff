import Arazzo.Proofs.Workflow.Visit

/-!
# The path of a run

A run that returns has followed a path of the step machine, and its result is the one that the end of
the path dictates. The end of a path is described by the trail alone: whether its last attempt ends
the run, exhausts its visit, names an unknown step or asks for a delay that nothing can wait for, and
else what happens at the step it leads to.
-/

namespace Arazzo

/-- The delay that is due behind a trail: its last attempt is to be repeated. -/
def IsDue (trail : List Stride) (delay : Binary64) : Prop :=
  ∃ s, trail.getLast? = some s ∧ s.result.nextAction = some .retry ∧
    delay = Run.delayOf s.result.retryAfter

/-- A trail leads to a position, and the run may go there. -/
structure GoesOn (sleep : Sleep) (workflow : Workflow) (trail : List Stride) (i : Nat) : Prop where
  leadsTo : LeadsTo workflow trail i
  not_exhausted : ¬ Exhausted (trail.map Stride.result)
  sleeps : ∀ delay, IsDue trail delay → sleep delay = none

/-- A trail ends a run well: by an attempt that ends it, or by leading past the last step. -/
def Completes (sleep : Sleep) (workflow : Workflow) (trail : List Stride) : Prop :=
  (∃ s, trail.getLast? = some s ∧ s.result.nextAction = some .finish ∧ s.result.success = true) ∨
    ∃ i, GoesOn sleep workflow trail i ∧ workflow.steps.length ≤ i

variable (around : Surroundings) (workflow : Workflow)

/-- How a run stops, by its trail. -/
inductive StopsWith (inputs : Entries) (session : Session) (trail : List Stride) : Stop → Prop
  | completed : Completes around.sleep workflow trail → StopsWith inputs session trail .success
  | failed {s : Stride} : trail.getLast? = some s → s.result.success = false →
      s.result.nextAction = none ∨ s.result.nextAction = some .finish →
      StopsWith inputs session trail (.failure (Run.stepFailed s.result.stepId))
  | exhausted {s : Stride} : trail.getLast? = some s → Exhausted (trail.map Stride.result) →
      StopsWith inputs session trail (.failure (Run.retriesExhausted s.result.stepId))
  | lost {s : Stride} {t : String} : trail.getLast? = some s →
      s.result.nextAction = some .goto → s.result.nextStepId = some t →
      (∀ step ∈ workflow.steps, step.stepId ≠ t) →
      StopsWith inputs session trail
        (.fault (.failure (.unknownStep t (some workflow.workflowId))))
  | restless {delay : Binary64} {d : Defect} : IsDue trail delay →
      ¬ Exhausted (trail.map Stride.result) → around.sleep delay = some d →
      StopsWith inputs session trail (.fault (.defect d))
  | broken {i : Nat} {step : Step} {f : Fault} : GoesOn around.sleep workflow trail i →
      workflow.steps[i]? = some step →
      (Attempt.execute around step (workflow.parameters.getD []) (contextAfter inputs trail)
        (sessionAfter session trail)).1 = .error f →
      StopsWith inputs session trail (.fault f)

variable {around workflow} {inputs : Entries} {session : Session} {trail : List Stride}

theorem Follows.unique {i j k : Nat} {r : StepResult} (h : Follows workflow i r j)
    (h' : Follows workflow i r k) : j = k := by
  cases h with
  | onward haction =>
    cases h' with
    | onward => rfl
    | jump haction' => simp [haction] at haction'
    | again haction' => simp [haction] at haction'
  | jump haction htarget hindex =>
    cases h' with
    | onward haction' => simp [haction] at haction'
    | jump _ htarget' hindex' =>
      rw [htarget, Option.some.injEq] at htarget'
      rw [htarget', ← workflow.stepIndex?_eq_some_iff] at hindex
      rw [← workflow.stepIndex?_eq_some_iff, hindex, Option.some.injEq] at hindex'
      exact hindex'
    | again haction' => simp [haction] at haction'
  | again haction =>
    cases h' with
    | onward haction' => simp [haction] at haction'
    | jump haction' => simp [haction] at haction'
    | again => rfl

theorem LeadsTo.unique {j k : Nat} (h : LeadsTo workflow trail j)
    (h' : LeadsTo workflow trail k) : j = k := by
  unfold LeadsTo at h h'
  cases hlast : trail.getLast? with
  | none =>
    rw [hlast] at h h'
    exact h.trans h'.symm
  | some s =>
    rw [hlast] at h h'
    exact Follows.unique h h'

theorem leadsTo_iff_follows {s : Stride} (hlast : trail.getLast? = some s) (i : Nat) :
    LeadsTo workflow trail i ↔ Follows workflow s.position s.result i := by
  simp [LeadsTo, hlast]

@[grind →]
theorem Exhausted.nextAction_eq {s : Stride} (h : Exhausted (trail.map Stride.result))
    (hlast : trail.getLast? = some s) : s.result.nextAction = some .retry := by
  obtain ⟨past, rfl⟩ := List.getLast?_eq_some_iff.mp hlast
  rw [List.map_append] at h
  exact h.isRetry

@[grind →]
theorem IsDue.getLast?_eq {delay : Binary64} (h : IsDue trail delay) :
    ∃ s, trail.getLast? = some s ∧ s.result.nextAction = some .retry :=
  let ⟨s, hlast, hretry, _⟩ := h
  ⟨s, hlast, hretry⟩

@[grind →]
theorem IsDue.unique {a b : Binary64} (h : IsDue trail a) (h' : IsDue trail b) : a = b := by
  obtain ⟨s, hlast, -, rfl⟩ := h
  obtain ⟨t, hlast', -, rfl⟩ := h'
  rw [hlast, Option.some.injEq] at hlast'
  rw [hlast']

@[grind →]
theorem GoesOn.sleep_eq {sleep : Sleep} {i : Nat} {delay : Binary64}
    (h : GoesOn sleep workflow trail i) (hdue : IsDue trail delay) : sleep delay = none :=
  h.sleeps delay hdue

/-- The last attempts behind which a run goes on. -/
@[grind →]
theorem GoesOn.nextAction_cases {sleep : Sleep} {s : Stride} {i : Nat}
    (h : GoesOn sleep workflow trail i)
    (hlast : trail.getLast? = some s) :
    (s.result.nextAction = none ∧ s.result.success = true) ∨
    (∃ t, s.result.nextAction = some .goto ∧ s.result.nextStepId = some t ∧
      workflow.HasStepAt i t) ∨
    (s.result.nextAction = some .retry ∧ ¬ Exhausted (trail.map Stride.result)) := by
  obtain ⟨hleads, hnot, -⟩ := h
  rw [leadsTo_iff_follows hlast] at hleads
  cases hleads with
  | onward haction hsuccess => exact .inl ⟨haction, hsuccess⟩
  | jump haction htarget hindex => exact .inr (.inl ⟨_, haction, htarget, hindex⟩)
  | again haction => exact .inr (.inr ⟨haction, hnot⟩)

@[grind →]
theorem GoesOn.unique {sleep : Sleep} {i j : Nat} (h : GoesOn sleep workflow trail i)
    (h' : GoesOn sleep workflow trail j) : i = j :=
  h.leadsTo.unique h'.leadsTo

/-- Only one stop fits a trail: its last attempt, or the step it leads to, decides. -/
theorem StopsWith.unique {a b : Stop} (h : StopsWith around workflow inputs session trail a)
    (h' : StopsWith around workflow inputs session trail b) : a = b := by
  have hknown : ∀ i t, workflow.HasStepAt i t → ∃ step ∈ workflow.steps, step.stepId = t := by
    rintro i t ⟨⟨step, hstep, ht⟩, -⟩
    exact ⟨step, List.mem_of_getElem? hstep, ht⟩
  -- Two different ends disagree on the last attempt or on the step that the trail leads to.
  cases h with
  | completed hcompletes => cases h' <;> grind [Completes]
  | failed hlast hsuccess haction => cases h' <;> grind [Completes]
  | exhausted hlast hexhausted => cases h' <;> grind [Completes]
  | lost hlast haction htarget hnone => cases h' <;> grind [Completes]
  | restless hdue hnot hsleep => cases h' <;> grind [Completes]
  | broken hgoes hstep hexecute => cases h' <;> grind [Completes]

theorem stopsWith_success_iff :
    StopsWith around workflow inputs session trail .success ↔
      Completes around.sleep workflow trail := by
  constructor
  · intro h
    cases h
    assumption
  · exact .completed

namespace Run

/-- A delay has been waited for before the run has gone on. -/
theorem Walked.sleeps {first p : Progress} {delay : Binary64}
    (h : Walked around workflow first trail p) (hdue : IsDue trail delay) :
    around.sleep delay = none := by
  obtain ⟨s, hlast, hretry, rfl⟩ := hdue
  cases h with
  | nil => cases hlast
  | concat _ _ hnext =>
    obtain rfl := Option.some.inj (List.getLast?_concat.symm.trans hlast)
    cases hnext with
    | onward haction => simp [haction] at hretry
    | jump haction => simp [haction] at hretry
    | again _ _ _ hsleep => exact hsleep

theorem Walked.goesOn {p : Progress}
    (h : Walked around workflow (start inputs session) trail p) :
    GoesOn around.sleep workflow trail p.index where
  leadsTo := h.carries.leadsTo
  not_exhausted := h.carries.history_eq ▸ h.counts.not_exhausted
  sleeps := fun _ hdue => h.sleeps hdue

theorem Halted.stopsWith {p : Progress} {stop : Stop}
    (h : Halted around workflow (start inputs session) trail p stop) :
    StopsWith around workflow inputs session trail stop := by
  cases h with
  | past hwalked hstep =>
    exact .completed (.inr ⟨_, hwalked.goesOn, List.getElem?_eq_none_iff.mp hstep⟩)
  | fault hwalked hstep hexecute =>
    rw [hwalked.carries.context_eq, hwalked.carries.session_eq] at hexecute
    exact .broken hwalked.goesOn hstep (congrArg Prod.fst hexecute)
  | @last past q s _ hwalked hbegins hnext =>
    have hlast : (past ++ [s]).getLast? = some s := List.getLast?_concat
    cases hnext with
    | failed haction hsuccess => exact .failed hlast hsuccess (.inl haction)
    | finished haction hsuccess => exact .completed (.inl ⟨s, hlast, haction, hsuccess⟩)
    | finishedFailed haction hsuccess => exact .failed hlast hsuccess (.inr haction)
    | lost haction hindex =>
      obtain ⟨t, ht⟩ := hbegins.exists_target haction
      rw [ht, Option.getD_some] at hindex ⊢
      exact .lost hlast haction ht ((workflow.stepIndex?_eq_none_iff t).mp hindex)
    | exhausted haction hlimit hle =>
      refine .exhausted hlast ?_
      rw [List.map_append, ← hwalked.carries.history_eq]
      exact (hwalked.counts.exhausted_iff haction).mp (hlimit ▸ hle)
    | @restless limit _ haction hlimit hless hsleep =>
      refine .restless ⟨s, hlast, haction, rfl⟩ (fun hexhausted => ?_) hsleep
      rw [List.map_append, ← hwalked.carries.history_eq] at hexhausted
      have hle : limit ≤ (q.retries : Int) + 1 :=
        hlimit ▸ (hwalked.counts.exhausted_iff haction).mpr hexhausted
      exact absurd hless (not_lt.mpr hle)

theorem Halted.eq_iff {p : Progress} {a : Stop}
    (h : Halted around workflow (start inputs session) trail p a) (b : Stop) :
    a = b ↔ StopsWith around workflow inputs session trail b :=
  ⟨fun hab => hab ▸ h.stopsWith, fun hb => h.stopsWith.unique hb⟩

@[simp] theorem sleep_around (env : Environment) (workflow : Workflow) :
    (env.around workflow).sleep = env.sleep := rfl

theorem opening_calls (env : Environment) (session : Session) :
    (env.opening session).calls = session.calls := by
  unfold Environment.opening
  split_ifs <;> rfl

theorem opening_sent (env : Environment) (session : Session) :
    (env.opening session).sent = session.sent := by
  unfold Environment.opening
  split_ifs <;> rfl

/-- A run that returns is refused before its first step, or follows a path of the step machine to an
end that dictates the result: a success with the outputs of the workflow, a failure with its reason,
or an error with its message. -/
theorem run_path {env : Environment} {fuel : Nat} {result : WorkflowResult}
    (returned : (run env workflow inputs session fuel).result = some (.ok result)) :
    (Refused workflow → result.stepResults = [] ∧ result.status = .error ∧
      (run env workflow inputs session fuel).session.calls = session.calls ∧
      (run env workflow inputs session fuel).session.sent = session.sent) ∧
    (¬ Refused workflow → ∃ trail,
      IsTrail (env.around workflow) workflow inputs (env.opening session) trail ∧
      result.stepResults = trail.map Stride.result ∧
      (∀ values, (result.status = .success ∧ result.outputs = values) ↔
        Completes env.sleep workflow trail ∧
          outputsIn workflow (contextAfter inputs trail) = .ok values) ∧
      (∀ reason, (result.status = .failure ∧ result.reason = some reason) ↔
        StopsWith (env.around workflow) workflow inputs (env.opening session) trail
          (.failure reason)) ∧
      ∀ message, (result.status = .error ∧ result.errorMessage = some message) ↔
        ∃ f : Failure, f.text = message ∧
          (StopsWith (env.around workflow) workflow inputs (env.opening session) trail
              (.fault (.failure f)) ∨
            Completes env.sleep workflow trail ∧
              outputsIn workflow (contextAfter inputs trail) = .error (.failure f))) := by
  rcases returned_cases returned with ⟨hrefused, hhistory, hstatus, -, hsession⟩ |
    ⟨hrefused, trail, p, stop, hhalted, hhistory, hconcludes, -⟩
  · refine ⟨fun _ => ⟨hhistory, hstatus, ?_, ?_⟩, fun h => absurd hrefused h⟩
    · rw [hsession, opening_calls]
    · rw [hsession, opening_sent]
  · refine ⟨fun h => absurd h hrefused, fun _ => ⟨trail, hhalted.isTrail, ?_, ?_, ?_, ?_⟩⟩
    · rw [hhistory, hhalted.history_eq]
    · intro values
      rw [hconcludes.success_iff, hhalted.context_eq, hhalted.eq_iff, stopsWith_success_iff,
        sleep_around]
    · intro reason
      rw [hconcludes.failure_iff, hhalted.eq_iff]
    · intro message
      simp only [hconcludes.error_iff, hhalted.context_eq, hhalted.eq_iff, stopsWith_success_iff,
        sleep_around]

theorem not_refused_twoSteps : ¬ Refused Polling.twoSteps := by
  rintro (h | h | h)
  · exact h rfl
  · exact h rfl
  · exact h rfl

/-- A path that repeats, goes on and ends behind the last step. -/
theorem run_path_polling : ∃ result, Polling.answered.result = some (.ok result) ∧
    result.status = .success ∧ ∃ trail,
      IsTrail ((Polling.environment (· ≠ 0)).around Polling.twoSteps) Polling.twoSteps [] .start
        trail ∧
      result.stepResults = trail.map Stride.result ∧
      Completes (fun _ => none) Polling.twoSteps trail := by
  have hstatus : Polling.answered.status? = some .success := by decide +kernel
  obtain ⟨result, hresult, hsuccess⟩ := Outcome.exists_result hstatus
  obtain ⟨-, hpath⟩ := run_path hresult
  obtain ⟨trail, htrail, hhistory, hsucceeds, -⟩ := hpath not_refused_twoSteps
  obtain ⟨hcompletes, -⟩ := (hsucceeds result.outputs).mp ⟨hsuccess, rfl⟩
  exact ⟨result, hresult, hsuccess, trail, htrail, hhistory, hcompletes⟩

end Run
end Arazzo
