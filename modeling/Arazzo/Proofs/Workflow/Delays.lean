import Arazzo.Proofs.Http.RetryAfter
import Arazzo.Proofs.Workflow.Judgment

/-!
# The delays of a run

A run waits once for each attempt that it repeats, and for nothing else. How long is settled by the
final response of that attempt, by the time at which it is judged and by the action that repeats it, so
that a clock that has moved on shortens the delays until a date. The walk keeps its delays abreast of
the repeated attempts of its trail; a refused repetition ends the run and is not waited for.
-/

namespace Arazzo

open Attempt

/-- An attempt is repeated by an action: the first decisive one of its outcome. -/
def Stride.RepeatsBy (around : Surroundings) (s : Stride) (action : Action) : Prop :=
  ∃ snapshot before after, Snapshot.ofExchange s.exchange = .ok snapshot ∧
    actionsOf s.step s.result.success = before ++ .given action :: after ∧
    (∀ b ∈ before,
      ¬ IsDecisive (scopeBehind around s.step s.before snapshot) (siteOf around s.step) b) ∧
    IsDecisive (scopeBehind around s.step s.before snapshot) (siteOf around s.step)
      (.given action) ∧
    action.kind = .retry

/-- The delay before an attempt is repeated. -/
def Stride.Waits (around : Surroundings) (s : Stride) (delay : Binary64) : Prop :=
  ∃ action, s.RepeatsBy around action ∧
    RetryAfter.IsDelay (around.judgedAt s.closing) s.exchange.response.headers action.retryAfter
      delay

/-- The attempts of a trail that ask to be repeated. -/
def repeating (trail : List Stride) : List Stride := trail.filter fun s => s.result.isRetry

namespace Run

variable {around : Surroundings} {workflow : Workflow} {inputs : Entries} {session : Session}
  {trail : List Stride} {p : Progress} {s : Stride}

theorem delayOf_float (after : Option Binary64) :
    delayOf (after.map .float) = (after.getD (.zero false)).atLeastZero := by
  cases after with
  | none => rw [Option.getD_none, Binary64.atLeastZero, ite_self]; rfl
  | some x => exact Binary64.positivePart_eq x

theorem isAtLeastZero_delayOf (retryAfter : Option Value) : (delayOf retryAfter).IsAtLeastZero := by
  unfold delayOf
  split
  · rw [Binary64.positivePart_eq]
    exact Binary64.isAtLeastZero_atLeastZero _
  · exact Binary64.isAtLeastZero_zero

theorem waits_of_isAttempt (h : s.IsAttempt around workflow)
    (hretry : s.result.nextAction = some .retry) : s.Waits around (delayOf s.result.retryAfter) := by
  obtain ⟨snapshot, values, success, d, hreaches, hfirst, hattempt⟩ :=
    exists_reachesActions h.conclude_eq
  have hresult : s.result =
      (decided s.step s.before s.exchange snapshot values success d).result := by
    rw [hattempt]
  rw [hresult] at hretry
  obtain ⟨before, action, after, waited, hactions, hbefore, haction, hkind, hasked, rfl⟩ :=
    hfirst.exists_retry hretry
  have hsuccess : s.result.success = success := congrArg StepResult.success hresult
  have hdelay : delayOf s.result.retryAfter =
      ((waited.or action.retryAfter).getD (.zero false)).atLeastZero := by
    rw [hresult]
    exact delayOf_float _
  refine ⟨action, ⟨snapshot, before, after, hreaches.snapshot_eq, ?_, hbefore, haction, hkind⟩, ?_⟩
  · rw [hsuccess, hactions]
  · rw [hdelay]
    exact RetryAfter.isDelay_of_ofHeaders? hasked action.retryAfter

theorem repeating_concat (hretry : s.result.nextAction = some .retry) :
    repeating (trail ++ [s]) = repeating trail ++ [s] := by
  have htrue := s.result.isRetry_iff.mpr hretry
  simp [repeating, htrue]

theorem repeating_concat_of_ne (hretry : s.result.nextAction ≠ some .retry) :
    repeating (trail ++ [s]) = repeating trail := by
  have hfalse := StepResult.isRetry_eq_false hretry
  simp [repeating, hfalse]

/-- The walk has waited once for each attempt that has asked to be repeated. -/
structure KeepsDelays (around : Surroundings) (trail : List Stride) (p : Progress) : Prop where
  waits : List.Forall₂ (Stride.Waits around) (repeating trail) p.delays
  atLeastZero : ∀ delay ∈ p.delays, delay.IsAtLeastZero

theorem KeepsDelays.next {q : Progress} (h : KeepsDelays around trail p)
    (hs : Begins around workflow p s)
    (hnext : Next around.sleep workflow (record p s.attempt s.closing) s.result (.inl q)) :
    KeepsDelays around (trail ++ [s]) q := by
  obtain ⟨hwaits, hleast⟩ := h
  cases hnext with
  | onward haction =>
    refine ⟨?_, hleast⟩
    rw [repeating_concat_of_ne (by simp [haction])]
    exact hwaits
  | jump haction =>
    refine ⟨?_, hleast⟩
    rw [repeating_concat_of_ne (by simp [haction])]
    exact hwaits
  | again haction =>
    constructor
    · rw [repeating_concat haction]
      exact List.rel_append hwaits (.cons (waits_of_isAttempt hs.attempt haction) .nil)
    · intro delay hdelay
      rcases List.mem_append.mp hdelay with hdelay | hdelay
      · exact hleast delay hdelay
      · rw [List.mem_singleton.mp hdelay]
        exact isAtLeastZero_delayOf _

theorem Walked.keepsDelays (h : Walked around workflow (start inputs session) trail p) :
    KeepsDelays around trail p := by
  induction h with
  | nil =>
    constructor
    · exact .nil
    · intro delay hdelay
      cases hdelay
  | concat _ hbegins hnext ih => exact ih.next hbegins hnext

/-- When the loop stops, all attempts that have asked to be repeated have been, but for a last one that
exhausts its visit. -/
theorem Halted.keepsDelays {stop : Stop}
    (h : Halted around workflow (start inputs session) trail p stop)
    (hforeseen : ∀ d, stop ≠ .fault (.defect d)) :
    ((∀ step, stop ≠ .failure (retriesExhausted step)) ∧ KeepsDelays around trail p) ∨
    ∃ past last step, trail = past ++ [last] ∧ last.result.nextAction = some .retry ∧
      stop = .failure (retriesExhausted step) ∧ KeepsDelays around past p := by
  have hothers : ∀ step s, Stop.failure (stepFailed s) ≠ .failure (retriesExhausted step) := by
    intro step s heq
    exact stepFailed_ne_retriesExhausted s step (Stop.failure.inj heq)
  cases h with
  | past hwalked => exact .inl ⟨by simp, hwalked.keepsDelays⟩
  | fault hwalked =>
    obtain ⟨hwaits, hleast⟩ := hwalked.keepsDelays
    exact .inl ⟨by simp, hwaits, hleast⟩
  | @last past q s _ hwalked hbegins hnext =>
    obtain ⟨hwaits, hleast⟩ := hwalked.keepsDelays
    have hkept : s.result.nextAction ≠ some .retry →
        KeepsDelays around (past ++ [s]) (record q s.attempt s.closing) := by
      intro hne
      refine ⟨?_, hleast⟩
      rw [repeating_concat_of_ne hne]
      exact hwaits
    cases hnext with
    | failed haction => exact .inl ⟨fun step => hothers step _, hkept (by simp [haction])⟩
    | finished haction => exact .inl ⟨by simp, hkept (by simp [haction])⟩
    | finishedFailed haction => exact .inl ⟨fun step => hothers step _, hkept (by simp [haction])⟩
    | lost haction => exact .inl ⟨by simp, hkept (by simp [haction])⟩
    | @restless _ d => exact absurd rfl (hforeseen d)
    | exhausted haction =>
      exact .inr ⟨past, s, s.result.stepId, rfl, haction, rfl, hwaits, hleast⟩

/-- A run that returns has waited once for each attempt that it has repeated, in their order: for as
long as the final response of the attempt asks when it is judged, or else as the action declares that
repeats it, and never for less than nothing. -/
theorem run_delays {env : Environment} {fuel : Nat} {result : WorkflowResult}
    (returned : (run env workflow inputs session fuel).result = some (.ok result)) :
    ∃ trail repeated,
      IsTrail (env.around workflow) workflow inputs (env.opening session) trail ∧
      result.stepResults = trail.map Stride.result ∧
      (¬ EndsExhausted result → repeating trail = repeated) ∧
      (EndsExhausted result →
        ∃ last, trail.getLast? = some last ∧ repeating trail = repeated ++ [last]) ∧
      List.Forall₂ (Stride.Waits (env.around workflow)) repeated
        (run env workflow inputs session fuel).delays ∧
      ∀ delay ∈ (run env workflow inputs session fuel).delays, delay.IsAtLeastZero := by
  rcases returned_cases returned with ⟨-, hhistory, hstatus, hdelays, -⟩ |
    ⟨-, trail, p, stop, hhalted, hhistory, hconcludes, hdelays⟩
  · have hnot : ¬ EndsExhausted result := by simp [EndsExhausted, hstatus]
    rw [hdelays]
    refine ⟨[], [], .nil, hhistory, fun _ => rfl, fun h => absurd h hnot, .nil, ?_⟩
    intro delay hdelay
    cases hdelay
  · have hexhausted := hconcludes.endsExhausted_iff
    rw [hhistory, hhalted.history_eq, hdelays]
    rcases hhalted.keepsDelays hconcludes.foreseen with ⟨hstop, hkeeps⟩ |
      ⟨past, last, step, rfl, hretry, hstop, hkeeps⟩
    · have hnot : ¬ EndsExhausted result := by
        intro h
        obtain ⟨step, hstep⟩ := hexhausted.mp h
        exact hstop step hstep
      exact ⟨trail, repeating trail, hhalted.isTrail, rfl, fun _ => rfl, fun h => absurd h hnot,
        hkeeps.waits, hkeeps.atLeastZero⟩
    · refine ⟨past ++ [last], repeating past, hhalted.isTrail, rfl, ?_, ?_, hkeeps.waits,
        hkeeps.atLeastZero⟩
      · intro hnot
        exact absurd (hexhausted.mpr ⟨step, hstop⟩) hnot
      · intro _
        exact ⟨last, List.getLast?_concat, repeating_concat hretry⟩

end Run

namespace Polling

/-- A step that declares no number as its delay. -/
def patientStep : Step :=
  { step "first" none with
    onFailure := some
      [.given ⟨"again", .retry, none, none, some (.nan 0), some 9, none, []⟩] }

/-- A server that asks to wait seven seconds, then until a date, until the same date again, and then
for a while. -/
def hesitant : Server := fun n _ =>
  match n with
  | 0 => .response ⟨503, [("Retry-After", " 7")], []⟩
  | 1 => .response ⟨503, [("Retry-After", "Sat, 01 Jan 2000 00:00:30 GMT")], []⟩
  | 2 => .response ⟨503, [("Retry-After", "Sat, 01 Jan 2000 00:00:30 GMT")], []⟩
  | 3 => .response ⟨503, [("Retry-After", "soon")], []⟩
  | _ => .response ⟨200, [], []⟩

/-- A clock that moves on by half a minute between the second answer and the third. -/
def moving : Clock := fun _ n => ⟨⟨2000, 1, 1⟩, ⟨0, 0, if n < 3 then 0 else 31, 0⟩, none⟩

/-- The date is half a minute ahead when it is named first, and past when it is named again. -/
def hesitantEnvironment : Run.Environment :=
  { environment (fun _ => true) with
    server := hesitant
    client := ⟨Client.defaultHeaders, true, true, moving⟩ }

/-- The fifth request is answered. -/
def patient : Run.Outcome :=
  Run.run hesitantEnvironment (workflow [patientStep]) [] .start 9

end Polling

namespace Run

theorem run_delays_patient : ∃ result trail repeated,
    Polling.patient.result = some (.ok result) ∧
    result.stepResults = trail.map Stride.result ∧
    (¬ EndsExhausted result → repeating trail = repeated) ∧
    Polling.patient.delays = [.ofInt 7, .ofInt 30, .zero false, .zero false] ∧
    List.Forall₂ (Stride.Waits (Polling.hesitantEnvironment.around
      (Polling.workflow [Polling.patientStep]))) repeated Polling.patient.delays := by
  have hstatus : Polling.patient.status? = some .success := by decide +kernel
  have hdelays : Polling.patient.delays = [.ofInt 7, .ofInt 30, .zero false, .zero false] := by
    decide +kernel
  obtain ⟨result, hresult, -⟩ := Outcome.exists_result hstatus
  obtain ⟨trail, repeated, -, hhistory, hrepeated, -, hwaits, -⟩ := run_delays hresult
  exact ⟨result, trail, repeated, hresult, hhistory, hrepeated, hdelays, hwaits⟩

end Run
end Arazzo
