import Arazzo.Document.Display
import Arazzo.Document.Named
import Arazzo.Http.Client
import Arazzo.Loading.Files
import Arazzo.Toml.Read

/-!
# Configuration

The settings that all requests share: a timeout in seconds, whether certificates are verified, header
lines, and whether redirects are followed. They come from a mapping; a setting that is missing has a
default.
-/

namespace Arazzo

structure Config where
  timeout : Binary64
  verifySsl : Bool
  headers : Named String
  followRedirects : Bool

/-- Why settings are refused. -/
inductive ConfigFault where
  | invalidTimeout (timeout : Value)
  | invalidHeaders
  | invalidToml
  | unreadable (path : String)
  | defect (d : Defect)

namespace ConfigFault

/-- What is said of settings that are refused; of a defect nothing is. -/
def message : ConfigFault → String
  | .invalidTimeout timeout =>
    "Invalid timeout: " ++ timeout.display ++ ". Expected a positive number of seconds"
  | .invalidHeaders => "Invalid headers: expected a table of string values"
  | .invalidToml => "Invalid TOML"
  | .unreadable path => "Unable to read config file " ++ path
  | .defect _ => ""

end ConfigFault

namespace Config

def defaultTimeout : Binary64 := .ofInt 30

def default : Config := ⟨defaultTimeout, true, [], true⟩

/-- Whether a number of seconds is refused; not-a-number is not. -/
def isNotPositive (x : Exact) : Bool :=
  match x.order? (.ofInt 0) with
  | some o => o.isLE
  | none => false

/-- Whether a value is a number of seconds that a timeout can have. -/
def isTimeout : Value → Bool
  | .int i => !isNotPositive (.ofInt i)
  | .float x => !isNotPositive (.ofBinary x)
  | _ => false

/-- A number of seconds as a binary number. -/
def seconds : Value → Except ConfigFault Binary64
  | .int i =>
    let x := Binary64.ofInt i
    if x.isInfinite then .error (.defect .numberTooLarge) else .ok x
  | .float x => .ok x
  | v => .error (.invalidTimeout v)

/-- The header lines that the entries of a table stand for. -/
def lines? : Entries → Option (Named String)
  | [] => some []
  | (.text name, .text value) :: rest => (lines? rest).map ((name, value) :: ·)
  | _ => none

def headersOf (v : Value) : Except ConfigFault (Named String) :=
  match v.map?.bind lines? with
  | some lines => .ok lines
  | none => .error .invalidHeaders

/-- The settings that a table holds. -/
def ofValue (v : Value) : Except ConfigFault Config :=
  match v with
  | .map table =>
    let setting (name : String) (default : Value) : Value := (Entries.get? table name).getD default
    let timeout := setting "timeout" (.float defaultTimeout)
    if isTimeout timeout then do
      let headers ← headersOf (setting "headers" (.map []))
      .ok ⟨← seconds timeout, (setting "verify_ssl" (.bool true)).truthy, headers,
        (setting "follow_redirects" (.bool true)).truthy⟩
    else if timeout.hasLong then .error (.defect .numberTooLong)
    else .error (.invalidTimeout timeout)
  | _ => .error (.defect .notAMapping)

/-- The settings in the table `runner` of a document. -/
def ofDocument (document : Entries) : Except ConfigFault Config :=
  ofValue ((Entries.get? document "runner").getD (.map []))

/-- The settings that a TOML text holds. -/
def ofText (cs : List Char) : Except ConfigFault Config :=
  match Toml.read cs with
  | .ok document => ofDocument document
  | .error .malformed => .error .invalidToml
  | .error (.defect d) => .error (.defect d)

/-- The settings that a TOML file holds. -/
def ofFile (files : Files) (path : String) : Except ConfigFault Config :=
  match files.text (.ofText path) with
  | .ok cs => ofText cs
  | .error .unreadable => .error (.unreadable path)
  | .error (.defect d) => .error (.defect d)

/-- The settings in one line, of the header lines only the sorted names. -/
def display (config : Config) : String :=
  let names := (config.headers.map Prod.fst).mergeSort fun a b => (Scalar.orderText a b).isLE
  let word (b : Bool) : String := if b then "True" else "False"
  "RunnerConfig(timeout=" ++ config.timeout.text ++ ", verify_ssl=" ++ word config.verifySsl ++
    ", headers=" ++ (Value.list (names.map .text)).display ++ ", follow_redirects=" ++
    word config.followRedirects ++ ")"

/-- The client that works with these settings, on a transport that reads the requests that it sends or
does not. -/
def client (config : Config) (readsRequests : Bool) (clock : Clock) : Except Defect Client :=
  (Headers.checked config.headers).map fun headers =>
    ⟨Client.defaultHeaders.update headers, config.followRedirects, readsRequests, clock⟩

end Config
end Arazzo
