import Arazzo.Http.Client
import Arazzo.Loading.Document
import Arazzo.Workflow.Operation

/-!
# API documents

The API documents that a workflow document names, each fetched from its URL or read from a file next to
the workflow document. They keep the order in which they are declared; of two with one name the later
counts.
-/

namespace Arazzo
namespace Sources

open Text

def isUrl (text : String) : Bool :=
  startsWith "http://".toList text.toList || startsWith "https://".toList text.toList

/-- The format that the path of a URL gives away. -/
def formatOf (url : Url) : Option Format :=
  Format.ofName? (String.ofList (Form.unescape url.path.toList))

def unfetchable {α : Type} (text : String) : Except Fault α :=
  .error (Format.loading .unfetchable (some text))

/-- The text at a URL and its format, fetched with a client. -/
def fetchText (server : Server) (client : Client) (text : String) (session : Session) :
    Except Fault (Option Format × List Char) × Session :=
  match Url.read text.toList with
  | .error .unencodable => (.error (.defect .unencodableText), session)
  | .error _ => (.error (.defect .invalidUrl), session)
  | .ok url => match url.forRequest with
    | .error _ => (.error (.defect .invalidUrl), session)
    | .ok target =>
      match client.request session "GET" target [] [] with
      | .error fault => (.error (.defect (.unreadableHost fault)), session)
      | .ok request => match client.send server request session with
        | (.error (.defect d), session) => (.error (.defect d), session)
        | (.error (.failed _), session) => (unfetchable text, session)
        | (.ok exchange, session) =>
          let response := exchange.response
          if response.isSuccess then match response.text with
            | .ok content => (.ok (formatOf url, content.toList), session)
            | .error d => (.error (.defect d), session)
          else (unfetchable text, session)

/-- The document at a URL, fetched with a client. -/
def fetch (server : Server) (client : Client) (text : String) (session : Session) :
    Except Fault Value × Session :=
  match fetchText server client text session with
  | (.ok (format, cs), session) =>
    ((Format.read format (some text) cs).bind Reference.dereference, session)
  | (.error f, session) => (.error f, session)

/-! ## Loading -/

/-- What loading asks of its surroundings: the document at a URL and the one in a file. Either answer
may depend on a state and change it. -/
structure Surroundings (σ : Type) where
  get : String → σ → Except Fault Value × σ
  read : FilePath → σ → Except Fault Value × σ

/-- The file of a source, seen from a directory. -/
def pathOf (base : Option FilePath) (source : Source) : FilePath :=
  let path := FilePath.ofText source.url
  (base.map fun directory => directory.resolve path).getD path

namespace Surroundings

variable {σ : Type} (surroundings : Surroundings σ) (base : Option FilePath)

/-- The document of a source, whatever kind of value it is. -/
def document (source : Source) (state : σ) : Except Fault Value × σ :=
  if isUrl source.url then surroundings.get source.url state
  else surroundings.read (pathOf base source) state

/-- The API document of a source. -/
def load (source : Source) (state : σ) : Except Fault Value × σ :=
  if source.type = .openapi then
    match surroundings.document base source state with
    | (.ok (.map entries), state) => (.ok (.map entries), state)
    | (.ok _, state) => (.error (Format.loading .notAnApiDocument (some source.url)), state)
    | (.error f, state) => (.error f, state)
  else
    (.error (.failure (.unsupported (.sourceType source.name source.type.name) ⟨none, none⟩)), state)

/-- The API documents of sources in order, up to the first that cannot be loaded. -/
def loadAll : List Source → ApiDocuments → σ → Except Fault ApiDocuments × σ
  | [], documents, state => (.ok documents, state)
  | source :: rest, documents, state =>
    match surroundings.load base source state with
    | (.ok v, state) => loadAll rest (Named.put source.name v documents) state
    | (.error f, state) => (.error f, state)

end Surroundings

/-- A client, whose session is the state, and files, which stay as they are. -/
def surroundings (server : Server) (client : Client) (files : Files) : Surroundings Session where
  get := fetch server client
  read path session := (files.document path, session)

/-- The API documents of sources in order, up to the first that cannot be loaded. -/
def loadAll (server : Server) (client : Client) (files : Files) (base : Option FilePath) :
    List Source → ApiDocuments → Session → Except Fault ApiDocuments × Session :=
  (surroundings server client files).loadAll base

end Sources
end Arazzo
