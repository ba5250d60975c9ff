import Arazzo.Json.Reader
import Arazzo.Yaml.Read

/-!
# Formats

Documents are JSON or YAML texts. The format of a file follows from the end of its name. A text whose
format is not known is read as JSON, and if that is not possible as YAML.
-/

namespace Arazzo

inductive Format where
  | json
  | yaml
deriving DecidableEq, Repr

namespace Format

open Text

/-- The format that the end of a name gives away. -/
def ofName? (name : String) : Option Format :=
  let ends (tail : String) : Bool := endsWith tail.toList name.toList
  if ends ".yaml" || ends ".yml" then some .yaml
  else if ends ".json" then some .json
  else none

/-- A failure of loading without a workflow. -/
def loading (cause : LoadingCause) (source : Option String) : Fault :=
  .failure (.loading cause none source)

def readYaml (source : Option String) (cs : List Char) : Except Fault Value :=
  match Yaml.read cs with
  | .ok v => .ok v
  | .error .malformed => .error (loading .invalidYaml source)
  | .error (.defect d) => .error (.defect d)

/-- The value of a text in a format; `source` names it in errors. -/
def read (format : Option Format) (source : Option String) (cs : List Char) : Except Fault Value :=
  match format with
  | some .yaml => readYaml source cs
  | some .json => match Json.read? cs with
    | some v => .ok v
    | none => .error (loading .invalidJson source)
  | none => match Json.read? cs with
    | some v => .ok v
    | none => readYaml source cs

end Format
end Arazzo
