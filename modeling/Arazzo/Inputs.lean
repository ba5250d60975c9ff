import Arazzo.Document.Named
import Arazzo.Json.Reader
import Arazzo.Schema.Model
import Arazzo.Text.Quoted

/-!
# Inputs

Inputs of workflows come from a document that maps workflow identifiers to objects, and from texts
`name=value` that hold for every workflow and override the document. A value is JSON if it can be read
so, and else the text itself.
-/

namespace Arazzo

inductive InputFault where
  | noEqualsSign (text : String)
  | notMappings
deriving DecidableEq, Repr

def InputFault.message : InputFault → String
  | .noEqualsSign text => "Expected 'name=value', got " ++ Text.displayString text
  | .notMappings => "Inputs file must map workflow ids to objects"

namespace Inputs

/-- The value that a text stands for. -/
def valueOf (cs : List Char) : Value := (Json.read? cs).getD (.text (String.ofList cs))

/-- The name and the value in a text; the first equals sign separates them. -/
def parse (text : String) : Except InputFault (String × Value) :=
  match Text.cutAt '=' text.toList with
  | some (name, value) => .ok (String.ofList (Text.strip name), valueOf value)
  | none => .error (.noEqualsSign text)

/-- The inputs by workflow that a document holds: a mapping of mappings. -/
def ofDocument : Value → Except InputFault Entries
  | .map entries =>
    if entries.all fun entry => entry.2.map?.isSome then .ok entries else .error .notMappings
  | _ => .error .notMappings

/-- The inputs of a workflow, none if it is missing. -/
def ofWorkflow (inputs : Entries) (workflowId : String) : Entries :=
  ((Entries.get? inputs workflowId).bind Value.map?).getD []

/-- The inputs of a workflow with others set over them. -/
def override (overrides : Named Value) (inputs : Entries) (workflowId : String) : Entries :=
  Entries.insert (.text workflowId)
    (.map (Entries.insertAll (ofWorkflow inputs workflowId) (Entries.ofTexts overrides))) inputs

/-- Sets overrides over the inputs of every workflow. -/
def overrideAll (workflows : List Workflow) (overrides : Named Value) (inputs : Entries) : Entries :=
  if overrides.isEmpty then inputs
  else (workflows.map Workflow.workflowId).foldl (override overrides) inputs

/-- The inputs of the workflows of a document: those of an inputs document, and over them the texts,
the later ones over the earlier ones. -/
def collect (workflows : List Workflow) (document : Option Value) (texts : List String) :
    Except InputFault Entries := do
  let inputs ← match document with
    | some v => ofDocument v
    | none => .ok []
  let pairs ← texts.mapM parse
  .ok (overrideAll workflows (Named.overlay [] pairs) inputs)

/-- The inputs under texts. An inputs document may have other keys, which identify no workflow. -/
def named (inputs : Entries) : Named Entries :=
  inputs.filterMap fun entry => match entry.1, entry.2 with
    | .text id, .map inputs => some (id, inputs)
    | _, _ => none

end Inputs
end Arazzo
