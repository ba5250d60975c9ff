import Arazzo.CommandLine.Perform
import Arazzo.Proofs.Workflow.Series

/-!
# How a command ends

A command that loads all it needs runs the selected workflows in turn. It ends with zero exactly if all
of them succeed, and it saves the results of those that were run. A command that fails to load anything
ends with one and saves nothing.
-/

namespace Arazzo
namespace CommandLine

section

variable {files : Files} {world : World} {options : Options} {fuel : Nat}

/-- The configuration of a command. -/
def configOf (files : Files) (options : Options) : Except ConfigFault Config :=
  match options.config with
  | none => .ok .default
  | some path => Config.ofFile files path

theorem performAll_of_configOf {config : Config} (h : configOf files options = .ok config) :
    performAll files world options fuel = performWith files world options config fuel := by
  cases hpath : options.config with
  | none =>
    simp only [configOf, hpath, Except.ok.injEq] at h
    simp only [performAll, hpath, h]
  | some path =>
    simp only [configOf, hpath] at h
    simp only [performAll, hpath, h]

/-- All that a command loads before it runs anything. -/
structure Loaded (files : Files) (world : World) (options : Options) where
  config : Config
  client : Client
  document : WorkflowDocument
  inputs : Named Entries
  documents : ApiDocuments
  session : Session
  config_eq : configOf files options = .ok config
  document_eq : WorkflowDocument.ofFile files options.path = .ok document
  inputs_eq : inputsOf files options document = .ok inputs
  client_eq : config.client world.readsRequests world.clock = .ok client
  documents_eq : Sources.loadAll world.server client files (some (FilePath.ofText options.path).parent)
    document.sources [] .start = (.ok documents, session)

namespace Loaded

variable (l : Loaded files world options)

def environment : Run.Environment := ⟨l.documents, world.server, l.client, world.sleep, true⟩

/-- The workflows that the command asks for; all if it names none. -/
def selected : List Workflow := l.document.workflows.filter (Run.isSelected options.workflowIds)

def series (fuel : Nat) : Run.Series := Run.runAll l.environment l.inputs fuel l.selected l.session

/-- The workflows that are run, and their results. -/
def Ran (fuel : Nat) (ran : List Workflow) (results : List WorkflowResult) : Prop :=
  (∃ closing, Run.RunsInTurn l.environment l.inputs fuel ran l.session results closing) ∧
    Run.GetsTo l.selected ran results

theorem performAll_eq (fuel : Nat) :
    performAll files world options fuel =
      match (l.series fuel).stopped with
      | some d => { broken d "" (l.series fuel).session with delays := (l.series fuel).delays }
      | none => report options (l.series fuel).results (l.series fuel).session
          (l.series fuel).delays := by
  rw [performAll_of_configOf l.config_eq]
  unfold performWith
  simp only [l.document_eq, l.inputs_eq]
  rw [l.client_eq]
  simp only [runWorkflows, l.documents_eq]
  rfl

end Loaded

theorem faulted_ends (f : Fault) (session : Session) :
    (faulted f session).exitCode = 1 ∧ (faulted f session).saving = none := by
  cases f <;> exact ⟨rfl, rfl⟩

/-- A command that cannot load what it needs ends with one and saves nothing. -/
theorem performAll_of_not_loaded (h : IsEmpty (Loaded files world options)) :
    (performAll files world options fuel).exitCode = 1 ∧
      (performAll files world options fuel).saving = none := by
  cases hconfig : configOf files options with
  | error f =>
    cases hpath : options.config with
    | none => simp [configOf, hpath] at hconfig
    | some path =>
      simp only [configOf, hpath] at hconfig
      simp only [performAll, hpath, hconfig]
      cases f <;> exact ⟨rfl, rfl⟩
  | ok config =>
    rw [performAll_of_configOf hconfig]
    unfold performWith
    cases hdocument : WorkflowDocument.ofFile files options.path with
    | error f => exact faulted_ends f .start
    | ok document =>
      dsimp only
      cases hinputs : inputsOf files options document with
      | error f =>
        cases f with
        | inl f => exact faulted_ends f .start
        | inr f => exact ⟨rfl, rfl⟩
      | ok inputs =>
        dsimp only
        cases hclient : config.client world.readsRequests world.clock with
        | error d => exact ⟨rfl, rfl⟩
        | ok client =>
          dsimp only
          unfold runWorkflows
          dsimp only
          cases hsources : Sources.loadAll world.server client files
              (some (FilePath.ofText options.path).parent) document.sources [] .start with
          | mk loaded session =>
            cases loaded with
            | error f => exact faulted_ends f session
            | ok documents =>
              exact h.elim ⟨config, client, document, inputs, documents, session, hconfig, hdocument,
                hinputs, hclient, hsources⟩

/-! ## Reports -/

/-- A report without a defect ends with zero exactly if all results are successes, and saves the
results, if there are any, where it is told to. -/
theorem report_spec {results : List WorkflowResult} {session : Session} {delays : List Binary64}
    (h : (report options results session delays).defect = none) :
    (report options results session delays).exitCode =
        (if results.all (·.isSuccess) then 0 else 1) ∧
      (results = [] → (report options results session delays).saving = none) ∧
      (results ≠ [] →
        savingOf options.output results = .ok (report options results session delays).saving) := by
  unfold report at h ⊢
  cases results with
  | nil => exact ⟨rfl, fun _ => rfl, fun hne => absurd rfl hne⟩
  | cons result rest =>
    simp only [List.isEmpty_cons, Bool.false_eq_true, if_false] at h ⊢
    cases hprinted : (paragraphs options.verbose (result :: rest)).defect with
    | some d => simp [hprinted, broken] at h
    | none =>
      cases hsaving : savingOf options.output (result :: rest) with
      | error d => simp [hprinted, hsaving, broken] at h
      | ok saving => simp

/-- Results are saved if a file is named, and only there. An empty name is none. -/
theorem savingOf_spec {path : Option String} {results : List WorkflowResult}
    {saving : Option Saving} (h : savingOf path results = .ok saving) :
    (∀ name, path = some name → name ≠ "" → ∃ s, saving = some s) ∧
      ∀ s, saving = some s → path = some s.path ∧ s.path ≠ "" ∧
        Json.write .report (summary results) = .ok s.text := by
  unfold savingOf at h
  cases path with
  | none =>
    cases h
    exact ⟨by simp, by simp⟩
  | some name =>
    by_cases hempty : name = ""
    · simp only [hempty, Option.filter_some, ne_eq, not_true_eq_false, decide_false,
        Bool.false_eq_true, if_false] at h
      cases h
      exact ⟨by simp [hempty], by simp⟩
    · simp only [Option.filter_some, ne_eq, hempty, not_false_eq_true, decide_true, if_true] at h
      obtain ⟨text, htext, rfl⟩ := map_ok_iff.mp h
      refine ⟨by simp, ?_⟩
      intro s hs
      cases hs
      exact ⟨rfl, hempty, htext⟩

/-- Printing what a command does changes neither its exit code nor what it saves. -/
theorem printed_spec {outcome : Outcome} (h : outcome.printed.defect = none) :
    outcome.defect = none ∧ outcome.printed.exitCode = outcome.exitCode ∧
      outcome.printed.saving.map (fun s => (s.path, s.text)) =
        outcome.saving.map fun s => (s.path, s.text) := by
  unfold Outcome.printed at h ⊢
  split at h
  · cases h
  · next hprintable =>
    rw [if_neg hprintable]
    refine ⟨h, rfl, ?_⟩
    rw [Option.map_map]
    rfl

/-! ## Commands -/

/-- A command that has loaded all it needs and meets no defect runs workflows in turn and reports their
results. -/
theorem Loaded.exists_ran (l : Loaded files world options)
    (hdefect : (performAll files world options fuel).defect = none)
    (hends : (l.series fuel).isComplete = true) :
    ∃ ran, l.Ran fuel ran (l.series fuel).results ∧
      performAll files world options fuel = report options (l.series fuel).results
        (l.series fuel).session (l.series fuel).delays := by
  rw [l.performAll_eq] at hdefect ⊢
  cases hstopped : (l.series fuel).stopped with
  | some d => simp [hstopped, broken] at hdefect
  | none =>
    obtain ⟨ran, hruns, hgets⟩ := Run.exists_ran_of_runAll hstopped hends
    exact ⟨ran, ⟨⟨_, hruns⟩, hgets⟩, rfl⟩

namespace Loaded

variable {l : Loaded files world options} {ran : List Workflow} {results : List WorkflowResult}

theorem Ran.map_workflowId (h : l.Ran fuel ran results) :
    results.map WorkflowResult.workflowId = ran.map Workflow.workflowId := by
  obtain ⟨⟨closing, hruns⟩, -⟩ := h
  exact hruns.map_workflowId

theorem Ran.length_eq (h : l.Ran fuel ran results) : results.length = ran.length := by
  simpa using congrArg List.length h.map_workflowId

theorem Ran.eq_nil_iff (h : l.Ran fuel ran results) : ran = [] ↔ results = [] := by
  rw [← List.length_eq_zero_iff, ← List.length_eq_zero_iff, h.length_eq]

/-- Nothing is run only if nothing is selected. -/
theorem Ran.selected_eq_nil (h : l.Ran fuel ran []) : l.selected = [] := by
  cases h.2 with
  | finish heq =>
    rw [← heq]
    exact h.eq_nil_iff.mpr rfl
  | halt front last _ hresults => simp at hresults

/-- All selected workflows are run if all results are successes. -/
theorem Ran.eq_selected (h : l.Ran fuel ran results) (hall : ∀ r ∈ results, r.isSuccess = true) :
    ran = l.selected := by
  cases h.2 with
  | finish heq => exact heq
  | halt front last _ hresults _ hlast =>
    have hsuccess := hall last (by simp [hresults])
    rw [hlast] at hsuccess
    cases hsuccess

/-- What a command does that has loaded all it needs, as far as it is seen from outside. -/
theorem exists_reported (l : Loaded files world options)
    (hdefect : (perform files world options fuel).defect = none)
    (hends : (l.series fuel).isComplete = true) :
    ∃ ran, l.Ran fuel ran (l.series fuel).results ∧
      (perform files world options fuel).exitCode =
        (if (l.series fuel).results.all (·.isSuccess) then 0 else 1) ∧
      ((l.series fuel).results ≠ [] → ∀ path, options.output = some path → path ≠ "" →
        ∃ saving, (perform files world options fuel).saving = some saving) ∧
      ∀ saving, (perform files world options fuel).saving = some saving →
        (l.series fuel).results ≠ [] ∧ options.output = some saving.path ∧ saving.path ≠ "" ∧
          Json.write .report (summary (l.series fuel).results) = .ok saving.text := by
  obtain ⟨hraw, hexit, hsaved⟩ := printed_spec hdefect
  obtain ⟨ran, hran, hreport⟩ := l.exists_ran hraw hends
  rw [hreport] at hraw
  obtain ⟨hcode, hnone, hsome⟩ := report_spec hraw
  rw [← hreport] at hcode hnone hsome
  refine ⟨ran, hran, hexit.trans hcode, ?_, ?_⟩
  · intro hne path hpath hname
    obtain ⟨hnamed, -⟩ := savingOf_spec (hsome hne)
    obtain ⟨raw, hsaving⟩ := hnamed path hpath hname
    rw [hsaving, Option.map_some, Option.map_eq_some_iff] at hsaved
    obtain ⟨saving, hperformed, -⟩ := hsaved
    exact ⟨saving, hperformed⟩
  · intro saving hsaving
    have hperformed : (performAll files world options fuel).printed.saving = some saving :=
      hsaving
    rw [hperformed, Option.map_some, eq_comm, Option.map_eq_some_iff] at hsaved
    obtain ⟨raw, hunprinted, hsame⟩ := hsaved
    obtain ⟨hpath, htext⟩ := Prod.mk.inj hsame
    have hne : (l.series fuel).results ≠ [] := by
      intro hnil
      rw [hnone hnil] at hunprinted
      cases hunprinted
    obtain ⟨-, hnamed⟩ := savingOf_spec (hsome hne)
    obtain ⟨houtput, hname, hwritten⟩ := hnamed raw hunprinted
    rw [hpath] at houtput hname
    rw [htext] at hwritten
    exact ⟨hne, houtput, hname, hwritten⟩

/-- A command that has loaded all it needs ends with zero exactly if all selected workflows are run and
succeed. -/
theorem exitCode_eq_zero_iff (l : Loaded files world options)
    (hdefect : (perform files world options fuel).defect = none)
    (hends : ∀ l : Loaded files world options, (l.series fuel).isComplete = true) :
    (perform files world options fuel).exitCode = 0 ↔
      ∃ (l : Loaded files world options) (results : List WorkflowResult),
        l.Ran fuel l.selected results ∧ ∀ r ∈ results, r.isSuccess = true := by
  constructor
  · intro hzero
    obtain ⟨ran, hran, hcode, -⟩ := l.exists_reported hdefect (hends l)
    have hall : ∀ r ∈ (l.series fuel).results, r.isSuccess = true := by
      rw [hcode] at hzero
      split at hzero
      · next hsuccess => simpa using hsuccess
      · cases hzero
    exact ⟨l, _, hran.eq_selected hall ▸ hran, hall⟩
  · rintro ⟨other, results, ⟨⟨closing, hruns⟩, -⟩, hall⟩
    obtain ⟨-, -, hcode, -⟩ := other.exists_reported hdefect (hends other)
    have hresults : (other.series fuel).results = results := hruns.results_runAll hall
    rw [hcode, hresults, if_pos (by simpa using hall)]

/-- A command that has loaded all it needs saves its results exactly if a file is named for them and a
workflow is run. -/
theorem saves_iff (l : Loaded files world options)
    (hdefect : (perform files world options fuel).defect = none)
    (hends : ∀ l : Loaded files world options, (l.series fuel).isComplete = true) :
    (∃ saving, (perform files world options fuel).saving = some saving) ↔
      (∃ path, options.output = some path ∧ path ≠ "") ∧
        ∃ (l : Loaded files world options) (ran : List Workflow)
          (results : List WorkflowResult), l.Ran fuel ran results ∧ ran ≠ [] := by
  constructor
  · rintro ⟨saving, hsaving⟩
    obtain ⟨ran, hran, -, -, hsaved⟩ := l.exists_reported hdefect (hends l)
    obtain ⟨hne, houtput, hname, -⟩ := hsaved saving hsaving
    exact ⟨⟨_, houtput, hname⟩, l, ran, _, hran, fun hnil => hne (hran.eq_nil_iff.mp hnil)⟩
  · rintro ⟨⟨path, hpath, hname⟩, other, ran, results, hran, hne⟩
    obtain ⟨seriesRan, hseries, -, hsaves, -⟩ := other.exists_reported hdefect (hends other)
    refine hsaves ?_ path hpath hname
    intro hnil
    rw [hnil] at hseries
    have hprefix := hran.2.isPrefix
    rw [hseries.selected_eq_nil, List.prefix_nil] at hprefix
    exact hne hprefix

end Loaded

theorem perform_of_not_loaded (h : IsEmpty (Loaded files world options))
    (hdefect : (perform files world options fuel).defect = none) :
    (perform files world options fuel).exitCode = 1 ∧
      (perform files world options fuel).saving = none := by
  obtain ⟨-, hexit, hsaved⟩ := printed_spec hdefect
  obtain ⟨hcode, hsaving⟩ := performAll_of_not_loaded h
  rw [hsaving, Option.map_none, Option.map_eq_none_iff] at hsaved
  exact ⟨hexit.trans hcode, hsaved⟩

/-- A command that meets no defect ends with zero exactly if it loads all it needs and every selected
workflow is run and succeeds, and with one otherwise. It saves its results exactly if a file is named
for them and it has loaded all and run a workflow, whatever its exit code; what it saves are the
results of the workflows that were run, in their order, with their number. -/
theorem perform_exits (hdefect : (perform files world options fuel).defect = none)
    (hends : ∀ l : Loaded files world options, (l.series fuel).isComplete = true) :
    ((perform files world options fuel).exitCode = 0 ↔
      ∃ (l : Loaded files world options) (results : List WorkflowResult),
        l.Ran fuel l.selected results ∧ ∀ r ∈ results, r.isSuccess = true) ∧
    ((perform files world options fuel).exitCode = 0 ∨
      (perform files world options fuel).exitCode = 1) ∧
    ((∃ saving, (perform files world options fuel).saving = some saving) ↔
      (∃ path, options.output = some path ∧ path ≠ "") ∧
        ∃ (l : Loaded files world options) (ran : List Workflow)
          (results : List WorkflowResult), l.Ran fuel ran results ∧ ran ≠ []) ∧
    ∀ saving, (perform files world options fuel).saving = some saving →
      ∃ (l : Loaded files world options) (ran : List Workflow)
        (results : List WorkflowResult), l.Ran fuel ran results ∧
        options.output = some saving.path ∧
        results.map WorkflowResult.workflowId = ran.map Workflow.workflowId ∧
        Json.write .report (.map (Entries.ofTexts
          [("total_workflows", .int ran.length),
           ("results", .list (results.map fun r => .map r.toEntries))])) = .ok saving.text := by
  by_cases hloaded : Nonempty (Loaded files world options)
  · obtain ⟨l⟩ := hloaded
    obtain ⟨ran, hran, hcode, -, hsaved⟩ := l.exists_reported hdefect (hends l)
    refine ⟨l.exitCode_eq_zero_iff hdefect hends, ?_, l.saves_iff hdefect hends, ?_⟩
    · rw [hcode]
      split
      · exact .inl rfl
      · exact .inr rfl
    · intro saving hsaving
      obtain ⟨-, houtput, -, hwritten⟩ := hsaved saving hsaving
      rw [summary, hran.length_eq] at hwritten
      exact ⟨l, ran, _, hran, houtput, hran.map_workflowId, hwritten⟩
  · have hempty := not_nonempty_iff.mp hloaded
    obtain ⟨hcode, hsaving⟩ := perform_of_not_loaded hempty hdefect
    rw [hcode, hsaving]
    refine ⟨⟨?_, ?_⟩, .inr rfl, ?_, ?_⟩
    · intro hzero
      cases hzero
    · rintro ⟨l, -⟩
      exact hempty.elim l
    · constructor
      · rintro ⟨saving, hsome⟩
        cases hsome
      · rintro ⟨-, l, -⟩
        exact hempty.elim l
    · intro saving hsome
      cases hsome

/-! ## A command that ends with one -/

/-- Runs without steps end at once. -/
theorem isComplete_of_stepless {env : Run.Environment} {inputs : Named Entries}
    {workflows : List Workflow} {session : Session} (h : ∀ w ∈ workflows, w.steps = []) :
    (Run.runAll env inputs (fuel + 1) workflows session).isComplete = true := by
  induction workflows generalizing session with
  | nil => rfl
  | cons workflow rest ih =>
    obtain ⟨hsteps, hrest⟩ := List.forall_mem_cons.mp h
    have hstops : ∀ entries, (Run.run env workflow entries session (fuel + 1)).result ≠ none := by
      intro entries
      unfold Run.run Run.walk
      cases Run.refusal? workflow with
      | some f => simp
      | none => simp [Run.loop, Run.advance, hsteps]
    simp only [Run.runAll]
    split
    · next hnone => exact absurd hnone (hstops _)
    · rfl
    · split
      · exact ih hrest
      · rfl

end

namespace Refusing

/-- Three workflows, of which the second one asks for what is not supported. -/
def text : String :=
  "arazzo: '1'\ninfo:\n  title: a\n  version: b\nsourceDescriptions: []\nworkflows:\n" ++
  "- workflowId: w\n  steps: []\n- workflowId: v\n  dependsOn: [w]\n  steps: []\n" ++
  "- workflowId: u\n  steps: []\n"

def files : Files := fun _ => some (Text.utf8 text.toList)

def options : Options := ⟨"d.yaml", [], none, [], none, some "o", false⟩

def world : World :=
  ⟨fun _ _ => .failed "", true, .still ⟨⟨2000, 1, 1⟩, ⟨0, 0, 0, 0⟩, none⟩, .ofSystem⟩

def outcome : Outcome := perform files world options 1

theorem stepless (l : Loaded files world options) : ∀ w ∈ l.selected, w.steps = [] := by
  have hall : (WorkflowDocument.ofFile files options.path).toOption.map
      (fun d => d.workflows.all fun w => w.steps.isEmpty) = some true := by decide +kernel
  rw [l.document_eq] at hall
  intro w hw
  obtain ⟨hmem, -⟩ := List.mem_filter.mp hw
  simp only [Except.toOption, Option.map_some, Option.some.injEq, List.all_eq_true,
    List.isEmpty_iff] at hall
  exact hall w hmem

end Refusing

/-- The results are saved although the command ends with one. -/
theorem perform_exits_refusing :
    ∃ (l : Loaded Refusing.files Refusing.world Refusing.options)
      (ran : List Workflow) (results : List WorkflowResult) (saving : Saving),
      Refusing.outcome.exitCode = 1 ∧ Refusing.outcome.saving = some saving ∧
      l.Ran 1 ran results ∧ saving.path = "o" ∧
      results.map WorkflowResult.workflowId = ran.map Workflow.workflowId := by
  have houtcome : (Refusing.outcome.exitCode, Refusing.outcome.defect,
      Refusing.outcome.saving.isSome) = (1, none, true) := by decide +kernel
  simp only [Prod.mk.injEq] at houtcome
  obtain ⟨hcode, hdefect, hsome⟩ := houtcome
  obtain ⟨saving, hsaving⟩ := Option.isSome_iff_exists.mp hsome
  have hends : ∀ l : Loaded Refusing.files Refusing.world Refusing.options,
      (l.series 1).isComplete = true := fun l => isComplete_of_stepless (Refusing.stepless l)
  obtain ⟨-, -, -, hsaved⟩ := perform_exits hdefect hends
  obtain ⟨l, ran, results, hran, houtput, hids, -⟩ := hsaved saving hsaving
  exact ⟨l, ran, results, saving, hcode, hsaving, hran, (Option.some.inj houtput).symm, hids⟩

end CommandLine
end Arazzo
