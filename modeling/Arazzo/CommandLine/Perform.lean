import Arazzo.CommandLine.Options
import Arazzo.Inputs
import Arazzo.Json.Writer
import Arazzo.Loading.Sources
import Arazzo.Workflow.Run

/-!
# Performing a command

A run reads its configuration, the workflow document, the inputs and the API documents, runs the
workflows and prints a paragraph for each result. It may also save the results. What is printed and
saved follows from the files, the server, the clock and the options alone.
-/

namespace Arazzo
namespace CommandLine

/-! ## Printing -/

/-- What follows a terminal sequence that begins here: an escape, a bracket, parameters, other signs and
the character that says what to do. -/
def afterSequence? : List Char → Option (List Char)
  | '\x1b' :: '[' :: rest =>
    let rest := rest.dropWhile fun c => '0' ≤ c && c ≤ '?'
    match rest.dropWhile fun c => ' ' ≤ c && c ≤ '/' with
    | c :: rest => if '@' ≤ c ∧ c ≤ '~' then some rest else none
    | [] => none
  | _ => none

/-- A text without terminal sequences; `skip` counts the characters of one that are still to be passed
over. -/
def dropSequences : Nat → List Char → List Char
  | _, [] => []
  | skip + 1, _ :: cs => dropSequences skip cs
  | 0, c :: cs => match afterSequence? (c :: cs) with
    | some rest => dropSequences (cs.length - rest.length) cs
    | none => c :: dropSequences 0 cs

def withoutSequences (text : String) : String := String.ofList (dropSequences 0 text.toList)

/-! ## Text of results -/

/-- A text, and the defect that kept the rest of it from being printed. -/
structure Printed where
  text : String
  defect : Option Defect

/-- Prints one text behind another; nothing follows an incomplete one. -/
def Printed.then (a b : Printed) : Printed :=
  if a.defect.isSome then a else ⟨a.text ++ b.text, b.defect⟩

def Printed.lines (ls : List String) : Printed := ⟨String.join (ls.map (· ++ "\n")), none⟩

/-- A number with so many decimal places. -/
def fixed (places : Nat) : Binary64 → String
  | .finite negative m e =>
    let (num, den) := Binary64.scaled (m * Nat.pow 10 places) e
    let n := Binary64.roundedQuotient num den
    (if negative then "-" else "") ++ toString (n / Nat.pow 10 places) ++ "." ++
      padded places (n % Nat.pow 10 places)
  | x => x.text

def indented (text : String) : String := "   " ++ text

def shown (o : Option String) : List String :=
  (o.filter (· ≠ "")).toList.map indented

def headLine (r : WorkflowResult) : String :=
  "[" ++ String.ofList (r.status.name.toList.map Char.toUpper) ++ "] " ++ r.workflowId

def stepLine (s : StepResult) : String :=
  let status := match s.statusCode with
    | some code => toString code
    | none => "None"
  indented ((if s.success then "✓ " else "✗ ") ++ s.stepId ++ " (" ++ status ++ ")")

/-- The line for outputs, if there are any and they can be written. -/
def outputsLine (outputs : Entries) : Printed :=
  if outputs.isEmpty then .lines []
  else match Json.write .lenient (.map outputs) with
    | .ok text => .lines [indented ("Outputs: " ++ text)]
    | .error d => ⟨"", some d⟩

/-- The paragraph for a result. -/
def paragraph (verbose : Bool) (r : WorkflowResult) : Printed :=
  let head := Printed.lines (headLine r :: shown r.reason ++ shown r.errorMessage)
  let details :=
    if verbose then (Printed.lines (r.stepResults.map stepLine)).then (outputsLine r.outputs)
    else .lines []
  (head.then details).then (.lines [indented ("Duration: " ++ fixed 2 r.durationSeconds ++ "s")])

def paragraphs (verbose : Bool) (results : List WorkflowResult) : Printed :=
  (results.map (paragraph verbose)).foldl Printed.then (.lines [])

/-- The results as a document. -/
def summary (results : List WorkflowResult) : Value := .map (Entries.ofTexts
  [("total_workflows", .int results.length), ("results", .list (results.map fun r => .map r.toEntries))])

/-! ## The run -/

/-- A text to be written to a file, and what is printed once that is done. -/
structure Saving where
  path : String
  text : String
  message : String

/-- What a command does: it prints, may save, and ends with an exit code. If saving fails, or a defect
stops the command, the exit code is one instead. -/
structure Outcome where
  exitCode : Nat
  output : String
  saving : Option Saving
  session : Session
  delays : List Binary64
  defect : Option Defect

/-- The end of a command that has printed a text. -/
def ended (exitCode : Nat) (output : String) (session : Session) : Outcome :=
  ⟨exitCode, output, none, session, [], none⟩

/-- The end of a command by a defect. -/
def broken (d : Defect) (output : String) (session : Session) : Outcome :=
  { ended 1 output session with defect := some d }

def loadFailed (message : String) (session : Session) : Outcome :=
  ended 1 ("❌ Failed to load workflows: " ++ message ++ "\n") session

def faulted (f : Fault) (session : Session) : Outcome :=
  match f with
  | .failure f => loadFailed f.text session
  | .defect d => broken d "" session

/-- What is saved under a path, if anything is. -/
def savingOf (path : Option String) (results : List WorkflowResult) : Except Defect (Option Saving) :=
  match path.filter (· ≠ "") with
  | none => .ok none
  | some path => (Json.write .report (summary results)).map fun text =>
      some ⟨path, text, "\nResults saved to: " ++ path ++ "\n"⟩

/-- Prints results and says what to save. -/
def report (options : Options) (results : List WorkflowResult) (session : Session)
    (delays : List Binary64) : Outcome :=
  if results.isEmpty then { ended 0 "No workflows found matching criteria\n" session with delays := delays }
  else
    let printed := paragraphs options.verbose results
    let exitCode := if results.all (·.isSuccess) then 0 else 1
    match printed.defect, savingOf options.output results with
    | none, .ok saving => ⟨exitCode, printed.text, saving, session, delays, none⟩
    | none, .error d => { broken d printed.text session with delays := delays }
    | some d, _ => { broken d printed.text session with delays := delays }

/-- The inputs that the options give. -/
def inputsOf (files : Files) (options : Options) (document : WorkflowDocument) :
    Except (Fault ⊕ InputFault) (Named Entries) := do
  let given ← match options.inputsFile with
    | some path => match files.document (.ofText path) with
      | .ok v => .ok (some v)
      | .error f => .error (.inl f)
    | none => .ok none
  match Inputs.collect document.workflows given options.inputs with
  | .ok inputs => .ok (Inputs.named inputs)
  | .error f => .error (.inr f)

/-- What a command meets with outside its files: a server, whether its transport reads requests, a clock,
and a way to wait. -/
structure World where
  server : Server
  readsRequests : Bool
  clock : Clock
  sleep : Sleep

/-- Runs the workflows of a document, advancing at most `fuel` times in each run. -/
def runWorkflows (files : Files) (world : World) (options : Options) (client : Client)
    (document : WorkflowDocument) (inputs : Named Entries) (fuel : Nat) : Outcome :=
  let base := (FilePath.ofText options.path).parent
  match Sources.loadAll world.server client files (some base) document.sources [] .start with
  | (.error f, session) => faulted f session
  | (.ok documents, session) =>
    let env : Run.Environment := ⟨documents, world.server, client, world.sleep, true⟩
    let series := Run.runDocument env document inputs options.workflowIds session fuel
    match series.stopped with
    | some d => { broken d "" series.session with delays := series.delays }
    | none => report options series.results series.session series.delays

/-- Performs a run with a configuration. -/
def performWith (files : Files) (world : World) (options : Options) (config : Config) (fuel : Nat) :
    Outcome :=
  match WorkflowDocument.ofFile files options.path with
  | .error f => faulted f .start
  | .ok document => match inputsOf files options document with
    | .error (.inl f) => faulted f .start
    | .error (.inr f) => loadFailed f.message .start
    | .ok inputs => match config.client world.readsRequests world.clock with
      | .error d => broken d "" .start
      | .ok client => runWorkflows files world options client document inputs fuel

/-- Performs a run with the configuration that the options name. -/
def performAll (files : Files) (world : World) (options : Options) (fuel : Nat) : Outcome :=
  match options.config with
  | none => performWith files world options .default fuel
  | some path => match Config.ofFile files path with
    | .ok config => performWith files world options config fuel
    | .error (.defect d) => broken d "" .start
    | .error f => ended 1 ("❌ Failed to load configuration file from " ++ path ++ "\n\n" ++
        f.message ++ "\n") .start

/-- What is printed of an outcome: everything but terminal sequences. A text without a UTF-8 form cannot
be printed. -/
def Outcome.printed (outcome : Outcome) : Outcome :=
  if !Text.isEncodable outcome.output.toList then
    { outcome with saving := none, defect := some .unencodableText }
  else { outcome with
    output := withoutSequences outcome.output
    saving := outcome.saving.map fun saving =>
      { saving with message := withoutSequences saving.message } }

/-- Performs a run. -/
def perform (files : Files) (world : World) (options : Options) (fuel : Nat) : Outcome :=
  (performAll files world options fuel).printed

end CommandLine
end Arazzo
