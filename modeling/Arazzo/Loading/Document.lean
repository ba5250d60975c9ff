import Arazzo.Document.Reference
import Arazzo.Loading.Files
import Arazzo.Loading.Format
import Arazzo.Schema.Read

/-!
# Documents from files

A document is read from a file, in the format that the name of the file gives away, and dereferenced.
A workflow document must besides be an object with the fields of workflow documents.
-/

namespace Arazzo

namespace Files

/-- The document in a file. -/
def document (files : Files) (path : FilePath) : Except Fault Value := do
  match files.text path with
  | .ok cs =>
    Reference.dereference (← Format.read (Format.ofName? path.name) (some path.text) cs)
  | .error .unreadable => .error (Format.loading .unreadableFile (some path.text))
  | .error (.defect d) => .error (.defect d)

end Files

namespace WorkflowDocument

/-- The workflow document that a value is; `source` names it in errors. -/
def ofValue (source : Option String) (v : Value) : Except Fault WorkflowDocument :=
  match v with
  | .map _ => match Check.document v with
    | .ok document => .ok document
    | .error issues => .error (Format.loading (.invalidWorkflowDocument issues) source)
  | _ => .error (Format.loading .notAWorkflowDocument source)

/-- The workflow document in a file. The text of the path names it in errors. -/
def ofFile (files : Files) (path : String) : Except Fault WorkflowDocument := do
  ofValue (some path) (← files.document (.ofText path))

end WorkflowDocument
end Arazzo
