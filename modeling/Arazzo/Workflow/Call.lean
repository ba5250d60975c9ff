import Arazzo.Document.Named
import Arazzo.Expression.Scope
import Arazzo.Http.Client
import Arazzo.Json.Writer
import Arazzo.Schema.Model
import Arazzo.Workflow.Operation

/-!
# The call of an operation

How the parameters and the body of a step become a request. Workflow parameters come first and those
of the step override them by name within each location. Path parameters fill the placeholders of the
path, query parameters follow the URL as form data, header parameters become header lines, and the
body is written as JSON or as form data.
-/

namespace Arazzo

/-- The values of parameters by location. -/
structure ParameterValues where
  path : Named Value
  query : Named Value
  header : Named Value

namespace ParameterValues

def empty : ParameterValues := ⟨[], [], []⟩

/-- The values of the step over those of the workflow. -/
def merge (shared own : ParameterValues) : ParameterValues :=
  ⟨Named.overlay shared.path own.path, Named.overlay shared.query own.query,
    Named.overlay shared.header own.header⟩

/-- Sets the value of a parameter in its location. -/
def put (site : Site) (values : ParameterValues) (location : Location) (name : String)
    (value : Value) : Except Fault ParameterValues :=
  match location with
  | .path => .ok { values with path := Named.put name value values.path }
  | .query => .ok { values with query := Named.put name value values.query }
  | .header => .ok { values with header := Named.put name value values.header }
  | other => .error (.failure (.unsupported (.parameterLocation other.name) site))

def isSupported : Location → Bool
  | .cookie => false
  | .body => false
  | _ => true

/-- Adds one parameter. -/
def add (scope : Scope) (site : Site) (values : ParameterValues) (item : OrReference Parameter) :
    Except Fault ParameterValues :=
  match item with
  | .reference _ => .error (.failure (.unsupported .parameterReference site))
  | .given parameter =>
    if isSupported parameter.location then do
      let value ← scope.value parameter.value
      put site values parameter.location parameter.name value
    else
      .error (.failure (.unsupported (.parameterLocation parameter.location.name) site))

/-- The values of a list of parameters; of equal names the last one counts. -/
def ofParameters (scope : Scope) (site : Site) (parameters : Parameters) :
    Except Fault ParameterValues :=
  parameters.foldlM (add scope site) empty

end ParameterValues

namespace Value

/-- A value on its own, unless it holds an integer that is too long. -/
def plainText (v : Value) : Except Fault String :=
  if v.hasLong then .error (.defect .numberTooLong) else .ok v.plain

/-- A value inside a URL, a header line or a form: null is empty, lists and mappings are JSON. -/
def wireText : Value → Except Fault String
  | .null => .ok ""
  | .bool b => .ok (if b then "true" else "false")
  | .list items => (Json.write .spaced (.list items)).mapError .defect
  | .map entries => (Json.write .spaced (.map entries)).mapError .defect
  | v => plainText v

/-- Named values as texts. -/
def wireTexts : Named Value → Except Fault (Named String)
  | [] => .ok []
  | (name, v) :: rest => do
    let text ← v.wireText
    let texts ← wireTexts rest
    .ok ((name, text) :: texts)

end Value

namespace RequestBody

def jsonType : String := "application/json"

def formType : String := "application/x-www-form-urlencoded"

def xmlType : String := "application/xml"

/-- The values of a form; only whole texts are resolved. -/
def formValues (scope : Scope) : Entries → Except Fault Entries
  | [] => .ok []
  | (k, v) :: rest => do
    let value ← scope.value v
    let values ← formValues scope rest
    .ok ((k, value) :: values)

/-- Named texts, of which the names may be of any kind. -/
def formTexts : List (Scalar × String) → Except Fault (Named String)
  | [] => .ok []
  | (k, text) :: rest => do
    let name ← Value.plainText (.scalar k)
    let texts ← formTexts rest
    .ok ((name, text) :: texts)

/-- Named texts as form data. -/
def encoded (texts : Named String) : Except Fault String :=
  if texts.all fun (name, text) => Text.isEncodable name.toList && Text.isEncodable text.toList then
    .ok (Form.encodeStrings texts)
  else .error (.defect .unencodableText)

/-- The body as form data: the values are resolved first, then written, and the names come last. -/
def formText (scope : Scope) (entries : Entries) : Except Fault String := do
  let values ← formValues scope entries
  let texts ← values.mapM fun (_, v) => v.wireText
  encoded (Named.overlay [] (← formTexts ((values.map Prod.fst).zip texts)))

/-- The body as JSON. -/
def jsonText (scope : Scope) (payload : Value) : Except Fault String := do
  let resolved ← scope.resolve payload
  (Json.write .spaced resolved).mapError .defect

/-- The text of a body in its declared content type. -/
def text (scope : Scope) (site : Site) (body : RequestBody) : Except Fault String :=
  let refuse (feature : Feature) : Except Fault String :=
    .error (.failure (.unsupported feature site))
  if (body.replacements.getD []).length ≠ 0 then refuse .bodyReplacements
  else if body.contentType = xmlType then refuse .xmlBody
  else if body.contentType = formType then match body.payload with
    | .text _ => refuse .formText
    | .map entries => formText scope entries
    | _ => refuse .formNotAMapping
  else if body.contentType = jsonType then match body.payload with
    | .text _ => refuse .jsonText
    | .map entries => jsonText scope (.map entries)
    | .list items => jsonText scope (.list items)
    | _ => refuse .jsonNotAContainer
  else refuse (.contentType body.contentType)

end RequestBody

namespace Operation

/-- The URL of the first server of the document, without slashes at its end. -/
def serverUrl (operation : Operation) (site : Site) : Except Fault String :=
  let missing : Except Fault String := .error (.failure (.missingServer site))
  let ofServer (server : Value) : Except Fault String :=
    match server with
    | .map entries => match Entries.get? entries "url" with
      | some (.text url) =>
        if url = "" then missing
        else .ok (String.ofList (Text.trimRight (· = '/') url.toList))
      | some (.scalar (.bytes bytes)) =>
        if bytes.isEmpty then missing else .error (.defect .wrongKind)
      | some v => if v.truthy then .error (.defect .notAMapping) else missing
      | none => missing
    | _ => .error (.defect .notAMapping)
  match Entries.get? operation.document "servers" with
  | none => missing
  | some servers =>
    if !servers.truthy then missing
    else match servers with
      | .list (server :: _) => ofServer server
      | .text _ | .scalar (.bytes _) => .error (.defect .notAMapping)
      | .map entries => match Entries.find? (.int 0) entries with
        | some server => ofServer server
        | none => .error (.defect .missingKey)
      | _ => .error (.defect .wrongKind)

/-- Fills the placeholders of a path, one parameter after the other. -/
def fillPath (path : List Char) (values : Named String) : List Char :=
  values.foldl (fun path p =>
    Text.replace ('\x7b' :: p.1.toList ++ ['\x7d']) p.2.toList path) path

/-- The path with its placeholders filled. A path that is no text has no placeholders: it is written
as it stands, and a parameter for it is a defect. -/
def filledPath (operation : Operation) (values : Named Value) : Except Fault String :=
  match operation.path, values with
  | .text path, values => do
    let texts ← Value.wireTexts values
    .ok (String.ofList (fillPath path.toList texts))
  | other, [] => Value.plainText (.scalar other)
  | .bytes _, (_, v) :: _ | .date _, (_, v) :: _ | .dateTime _, (_, v) :: _
  | .time _, (_, v) :: _ => do
    let _ ← v.wireText
    .error (.defect .wrongKind)
  | _, _ :: _ => .error (.defect .notAMapping)

end Operation

/-- Everything that determines the request of a step. -/
structure Call where
  operation : Operation
  parameters : Parameters
  shared : Parameters
  body : Option RequestBody

namespace Call

/-- The text of the URL of a call. -/
def urlText (operation : Operation) (values : ParameterValues) (server : String) :
    Except Fault String := do
  let path ← operation.filledPath values.path
  let query ← Value.wireTexts values.query
  let queryText ← RequestBody.encoded query
  .ok (server ++ path ++ if queryText = "" then "" else "?" ++ queryText)

/-- The header lines of a call. -/
def headers (values : Named Value) (body : Option RequestBody) : Except Fault Headers := do
  let lines ← Value.wireTexts values
  match Headers.checked lines with
  | .error d => .error (.defect d)
  | .ok lines => .ok (match body with
    | some body => Headers.set "Content-Type" body.contentType lines
    | none => lines)

/-- The request of a call. -/
def request (call : Call) (scope : Scope) (site : Site) (client : Client) (session : Session) :
    Except Fault Request := do
  let own ← ParameterValues.ofParameters scope site call.parameters
  let shared ← ParameterValues.ofParameters scope site call.shared
  let values := ParameterValues.merge shared own
  let body ← match call.body with
    | some body => (body.text scope site).map Text.utf8String
    | none => .ok []
  let server ← call.operation.serverUrl site
  let urlText ← urlText call.operation values server
  let headers ← headers values.header call.body
  match (Url.read urlText.toList).bind Url.forRequest with
  | .ok url =>
    let method := String.ofList (Text.upper call.operation.method.toList)
    match client.request session method url headers body with
    | .ok request => .ok request
    | .error fault => .error (.defect (.unreadableHost fault))
  | .error .unencodable => .error (.defect .unencodableText)
  | .error fault =>
    .error (.failure (.execution (.invalidUrl urlText fault.message) site))

end Call
end Arazzo
