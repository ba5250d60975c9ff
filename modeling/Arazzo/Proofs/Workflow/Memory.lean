import Arazzo.Proofs.Document.Entries
import Arazzo.Proofs.Document.Named
import Arazzo.Proofs.Expression.Dotted
import Arazzo.Proofs.Workflow.Visit

/-!
# What a run remembers

Between two attempts the context of a run holds its inputs, the outputs of the latest attempt of each
step in the order of the first ones, and the last exchange. An attempt is judged in this context with
nothing but its own exchange added, so that it never sees its own outputs. An output that is the
mapping of steps goes on with it: it holds what has been recorded since.
-/

namespace Arazzo

/-- The latest attempt of a step. -/
def latest? (history : List StepResult) (id : String) : Option StepResult :=
  history.findRev? fun r => r.stepId == id

/-- What is recorded of an attempt. -/
def recordOf (r : StepResult) : Value := .map [(.text "outputs", .map r.outputs)]

/-- The steps that have been attempted, by their first attempts. -/
def attemptedIds (history : List StepResult) : List String :=
  (history.map StepResult.stepId).eraseDups

theorem latest?_concat (history : List StepResult) (r : StepResult) (id : String) :
    latest? (history ++ [r]) id = if r.stepId = id then some r else latest? history id := by
  unfold latest?
  by_cases h : r.stepId = id
  · simp [h]
  · simp [h]

theorem attemptedIds_concat (history : List StepResult) (r : StepResult) :
    attemptedIds (history ++ [r]) =
      if r.stepId ∈ attemptedIds history then attemptedIds history
      else attemptedIds history ++ [r.stepId] := by
  unfold attemptedIds
  rw [List.map_append, List.map_singleton, eraseDups_concat]
  simp only [List.mem_eraseDups]

/-- What the context behind a trail holds. -/
structure Remembers (inputs : Entries) (trail : List Stride) (context : Context) : Prop where
  inputs_eq : context.inputs = inputs
  keys_eq : context.steps.map Prod.fst = (attemptedIds (trail.map Stride.result)).map .text
  outputs_eq : ∀ id,
    Entries.get? context.steps id = (latest? (trail.map Stride.result) id).map recordOf
  snapshot_empty : trail = [] → context.snapshot = .empty
  snapshot_eq : ∀ s, trail.getLast? = some s →
    Snapshot.ofExchange s.exchange = .ok context.snapshot

section
variable {around : Surroundings} {workflow : Workflow} {inputs : Entries} {session : Session}
  {trail : List Stride} {context : Context}

theorem Remembers.start (inputs : Entries) : Remembers inputs [] (.start inputs) :=
  ⟨rfl, rfl, fun _ => rfl, fun _ => rfl, fun s hs => by cases hs⟩

/-- An attempt takes the context before it, and records its outputs there. -/
theorem Stride.IsAttempt.after_eq {s : Stride} (h : s.IsAttempt around workflow) :
    ∃ snapshot, Snapshot.ofExchange s.exchange = .ok snapshot ∧
      s.after = ⟨s.before.inputs,
        Entries.insert (.text s.result.stepId) (recordOf s.result) s.before.steps, snapshot⟩ := by
  obtain ⟨snapshot, hsnapshot, hjudged⟩ := h.exists_judged
  refine ⟨snapshot, hsnapshot, ?_⟩
  rw [Stride.after, hjudged.context_eq]
  rfl

theorem Remembers.concat (h : Remembers inputs trail context) {s : Stride}
    (hs : s.IsAttempt around workflow) (hbefore : s.before = context) :
    Remembers inputs (trail ++ [s]) s.after := by
  obtain ⟨snapshot, hsnapshot, hafter⟩ := hs.after_eq
  rw [hbefore] at hafter
  rw [hafter]
  refine ⟨h.inputs_eq, ?_, ?_, ?_, ?_⟩
  · rw [List.map_append, List.map_singleton, attemptedIds_concat]
    exact Entries.map_fst_insert _ _ _ h.keys_eq
  · intro id
    rw [List.map_append, List.map_singleton, latest?_concat]
    by_cases hid : s.result.stepId = id
    · rw [if_pos hid, ← hid]
      exact Entries.get?_insert_self _ _ _
    · rw [if_neg hid, ← h.outputs_eq id]
      exact Entries.get?_insert_of_ne _ _ _ hid
  · intro hnil
    simp at hnil
  · intro t ht
    rw [List.getLast?_concat, Option.some.injEq] at ht
    exact ht ▸ hsnapshot

theorem IsTrail.remembers (h : IsTrail around workflow inputs session trail) :
    Remembers inputs trail (contextAfter inputs trail) := by
  induction trail using List.reverseRecOn with
  | nil => exact .start inputs
  | append_singleton past s ih =>
    rw [contextAfter_concat]
    exact (ih h.of_append).concat (h.attempts s (by simp)) h.before_eq

theorem Context.field?_steps (context : Context) (entries : Entries) :
    context.document.root.field? entries "steps" = some (.scalar .steps) := by
  simp [document, Value.field?, Entries.get?, Entries.find?]

/-- All steps as an operand are those that are recorded at present. -/
theorem Context.operand_steps (context : Context) (site : Site) :
    (context.scope site).operand "$steps" = .ok (.map context.steps) := by
  have hlookup : (context.scope site).document.lookup? ["steps"] = some (.scalar .steps) :=
    context.field?_steps context.steps
  have htext : "$steps".toList = '$' :: ("steps".toList ++ Path.behindDots []) := by decide
  rw [Scope.operand_dotted _ (by decide) (by simp) htext, hlookup]
  rfl

/-- The output of the latest attempt of a step as it has been recorded, null if there is none. -/
def recordedOutput (history : List StepResult) (step output : String) : Value :=
  ((latest? history step).bind fun r => Entries.get? r.outputs output).getD .null

/-- A reference to the output of a step is the value that its latest attempt has recorded, with the
present mapping of steps in it. -/
theorem Remembers.operand_eq (h : Remembers inputs trail context) {step output : String}
    (hstep : Path.isIdentifier step = true) (houtput : Path.isIdentifier output = true)
    (snapshot : Snapshot) (site : Site) :
    ({ context with snapshot := snapshot }.scope site).operand
        ("$steps." ++ step ++ ".outputs." ++ output) =
      .ok (.unfold (.map context.steps)
        (recordedOutput (trail.map Stride.result) step output)) := by
  have hidentifiers : ∀ s ∈ [step, "outputs", output], Path.isIdentifier s = true := by
    intro s hs
    simp only [List.mem_cons, List.not_mem_nil, or_false] at hs
    rcases hs with rfl | rfl | rfl
    · exact hstep
    · decide
    · exact houtput
  have htext : ("$steps." ++ step ++ ".outputs." ++ output).toList =
      '$' :: ("steps".toList ++ Path.behindDots [step, "outputs", output]) := by
    simp [Path.behindDots]
  have hlookup : ({ context with snapshot := snapshot }.scope site).document.lookup?
      ["steps", step, "outputs", output] =
        (latest? (trail.map Stride.result) step).bind fun r => Entries.get? r.outputs output := by
    have hlatest := h.outputs_eq step
    change Value.lookup? context.steps { context with snapshot := snapshot }.document.root _ = _
    rw [Value.lookup?, List.foldlM_cons, Context.field?_steps, Option.bind_eq_bind,
      Option.bind_some, List.foldlM_cons]
    simp only [Value.field?, hlatest]
    cases latest? (trail.map Stride.result) step with
    | none => rfl
    | some r => simp [recordOf, Value.field?, Entries.get?, Entries.find?]
  rw [Scope.operand_dotted _ (by decide) hidentifiers htext, hlookup]
  rfl

end

namespace Run

variable {around : Surroundings} {workflow : Workflow} {inputs : Entries} {session : Session}

/-- However far a run has come, it stands behind a trail; until it stops, each advance is an attempt
of the trail. -/
theorem exists_trail_of_walk {p : Progress} {stop : Option Stop} {fuel : Nat}
    (h : walk around workflow inputs session fuel = (p, stop)) :
    ∃ trail, IsTrail around workflow inputs session trail ∧
      (stop = none → trail.length = fuel) ∧ p.history = trail.map Stride.result ∧
      p.context = contextAfter inputs trail := by
  unfold walk at h
  cases hrefusal : refusal? workflow with
  | some f =>
    rw [hrefusal] at h
    cases h
    exact ⟨[], .nil, by simp, rfl, rfl⟩
  | none =>
    rw [hrefusal] at h
    cases stop with
    | none =>
      obtain ⟨trail, hwalked, hlength⟩ := exists_walked_of_loop .nil h
      rw [List.length_nil, Nat.zero_add] at hlength
      exact ⟨trail, hwalked.isTrail, fun _ => hlength, hwalked.carries.history_eq,
        hwalked.carries.context_eq⟩
    | some stop =>
      obtain ⟨trail, hhalted⟩ := exists_halted_of_loop .nil h
      exact ⟨trail, hhalted.isTrail, by simp, hhalted.history_eq,
        hhalted.context_eq⟩

/-- What a run remembers, however far it has come and before each attempt on the way. An exchange is
judged in this context with nothing but its own snapshot added, so that in the judgement too a
reference to the output of a step is the value that the latest attempt in the history has recorded, or
null. Where this value is or holds the mapping of steps, it is the mapping as it is now. -/
theorem walk_remembers {p : Progress} {stop : Option Stop} {fuel : Nat}
    (walked : walk around workflow inputs session fuel = (p, stop)) :
    (∃ trail, IsTrail around workflow inputs session trail ∧
      (stop = none → trail.length = fuel) ∧ p.history = trail.map Stride.result ∧
      Remembers inputs trail p.context ∧
      ∀ past s rest, trail = past ++ s :: rest → Remembers inputs past s.before) ∧
    (∀ now step exchange, Attempt.conclude around now step p.context exchange =
      match Snapshot.ofExchange exchange with
      | .error d => .error (.defect d)
      | .ok snapshot =>
        Attempt.judge around now step exchange.response { p.context with snapshot := snapshot }) ∧
    ∀ step output, Path.isIdentifier step = true → Path.isIdentifier output = true →
      ∀ snapshot site, ({ p.context with snapshot := snapshot }.scope site).operand
          ("$steps." ++ step ++ ".outputs." ++ output) =
        .ok (.unfold (.map p.context.steps) (recordedOutput p.history step output)) ∧
      ((recordedOutput p.history step output).IsSettled →
        ({ p.context with snapshot := snapshot }.scope site).operand
            ("$steps." ++ step ++ ".outputs." ++ output) =
          .ok (recordedOutput p.history step output)) := by
  obtain ⟨trail, htrail, hlength, hhistory, hcontext⟩ := exists_trail_of_walk walked
  have hremembers : Remembers inputs trail p.context := hcontext ▸ htrail.remembers
  refine ⟨⟨trail, htrail, hlength, hhistory, hremembers, ?_⟩, ?_, ?_⟩
  · rintro past s rest rfl
    rw [htrail.before_eq]
    exact htrail.of_append.remembers
  · exact fun now step exchange => Attempt.conclude_eq around now step p.context exchange
  · intro step output hstep houtput snapshot site
    have hoperand := hremembers.operand_eq hstep houtput snapshot site
    rw [← hhistory] at hoperand
    exact ⟨hoperand, fun hsettled => hoperand.trans (congrArg Except.ok (hsettled _))⟩

end Run

namespace Polling

/-- The first step has been repeated and answered, the second is to come. -/
def midway : Progress × Option Stop :=
  Run.walk ((environment (· ≠ 0)).around twoSteps) twoSteps [] .start 2

/-- The first of two steps has all steps as its output. -/
def reflexive : Workflow :=
  workflow [{ step "first" none with outputs := some [("all", "$steps")] }, step "second" none]

/-- Both steps have been answered. -/
def reflected : Progress × Option Stop :=
  Run.walk ((environment fun _ => true).around reflexive) reflexive [] .start 2

end Polling

namespace Run

/-- The second attempt of the first step has taken the place of the first one. -/
theorem walk_remembers_midway : Polling.midway.2.isNone = true ∧
    Polling.midway.1.history.map StepResult.statusCode = [some 503, some 200] ∧
    (∃ trail, IsTrail ((Polling.environment (· ≠ 0)).around Polling.twoSteps) Polling.twoSteps []
        .start trail ∧
      Polling.midway.1.history = trail.map Stride.result ∧
      Remembers [] trail Polling.midway.1.context) ∧
    (latest? Polling.midway.1.history "first").map StepResult.statusCode = some (some 200) ∧
    ∀ snapshot site,
      ({ Polling.midway.1.context with snapshot := snapshot }.scope site).operand
          "$steps.first.outputs.code" = .ok (.int 200) := by
  have hwalk : walk ((Polling.environment (· ≠ 0)).around Polling.twoSteps) Polling.twoSteps []
      .start 2 = (Polling.midway.1, Polling.midway.2) := rfl
  obtain ⟨⟨trail, htrail, -, hhistory, hremembers, -⟩, -, hoperand⟩ := walk_remembers hwalk
  have hcode : recordedOutput Polling.midway.1.history "first" "code" = .int 200 :=
    Value.scalar?_eq_some_iff.mp (by decide +kernel)
  refine ⟨by decide +kernel, by decide +kernel, ⟨trail, htrail, hhistory, hremembers⟩,
    by decide +kernel, fun snapshot site => ?_⟩
  obtain ⟨-, hsettled⟩ := hoperand "first" "code" (by decide) (by decide) snapshot site
  rw [hcode] at hsettled
  exact hsettled fun _ => rfl

/-- The output of the first step is an empty mapping for the attempt that records it, and holds both
steps at the end. -/
theorem operand_reflected : ∃ s t : Stride,
    IsTrail ((Polling.environment fun _ => true).around Polling.reflexive) Polling.reflexive []
      .start [s, t] ∧
    Polling.reflected.1.history = [s.result, t.result] ∧
    s.step.outputs = some [("all", "$steps")] ∧
    ∀ snapshot site,
      ({ s.before with snapshot := snapshot }.scope site).operand "$steps" = .ok (.map []) ∧
      ({ Polling.reflected.1.context with snapshot := snapshot }.scope site).operand
          "$steps.first.outputs.all" ≠ .ok (.map []) := by
  have hwalk : walk ((Polling.environment fun _ => true).around Polling.reflexive)
      Polling.reflexive [] .start 2 = (Polling.reflected.1, Polling.reflected.2) := rfl
  have hgoes : Polling.reflected.2 = none := Option.isNone_iff_eq_none.mp (by decide +kernel)
  obtain ⟨trail, htrail, hlength, hhistory, hcontext⟩ := exists_trail_of_walk hwalk
  obtain ⟨s, t, rfl⟩ := List.length_eq_two.mp (hlength hgoes)
  obtain ⟨hposition, hbefore, -⟩ := htrail.first s rfl
  have hremembers : Remembers [] [s, t] Polling.reflected.1.context := hcontext ▸ htrail.remembers
  refine ⟨s, t, htrail, hhistory, ?_, fun snapshot site => ⟨?_, ?_⟩⟩
  · have hstep := (htrail.attempts s List.mem_cons_self).step_eq
    rw [hposition] at hstep
    exact congrArg Step.outputs (Option.some.inj hstep).symm
  · rw [hbefore]
    exact Context.operand_steps _ site
  · have hall : recordedOutput Polling.reflected.1.history "first" "all" = .scalar .steps :=
      Value.scalar?_eq_some_iff.mp (by decide +kernel)
    have hsteps : Polling.reflected.1.context.steps.length = 2 := by decide +kernel
    rw [show "$steps.first.outputs.all" = "$steps." ++ "first" ++ ".outputs." ++ "all" from rfl,
      hremembers.operand_eq (by decide) (by decide), ← hhistory, hall]
    intro hempty
    simp only [Value.unfold, Except.ok.injEq, Value.map.injEq] at hempty
    simp [hempty] at hsteps

end Run
end Arazzo
