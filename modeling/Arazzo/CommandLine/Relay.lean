import Arazzo.CommandLine.Perform

/-!
# Relayed requests

A command reaches its server through lines of JSON: each request is written as one line, and one line
brings the reply. Bodies are written in base 64. Since all that a command does is determined by the
replies and the readings of the clock, it is performed anew with each further reply until none is
missing.
-/

namespace Arazzo
namespace CommandLine
namespace Relay

open Text

def headersValue (headers : Headers) : Value :=
  .list (headers.map fun h => .list [.text h.1, .text h.2])

/-- A request as a line. -/
def ask (r : Request) : String :=
  let v := Value.map (Entries.ofTexts
    [("method", .text r.method), ("url", .text r.url.text), ("headers", headersValue r.headers),
     ("body", .text (String.ofList (base64 r.body)))])
  (Json.write .compact v).toOption.getD ""

def headersOf? : List Value → Option Headers
  | [] => some []
  | .list [.text name, .text value] :: rest => (headersOf? rest).map ((name, value) :: ·)
  | _ => none

/-- The reply that an object stands for: a response with a status, or a message of failure. -/
def replyOf? (e : Entries) : Option Reply :=
  match Entries.get? e "error", Entries.get? e "status" with
  | some (.text message), _ => some (.failed message)
  | none, some (.int status) => do
    let headers ← match Entries.get? e "headers" with
      | some (.list items) => headersOf? items
      | some _ => none
      | none => some []
    let body ← match Entries.get? e "body" with
      | some (.text s) => readBase64? s.toList
      | some _ => none
      | none => some []
    some (.response ⟨status, headers, body⟩)
  | _, _ => none

/-- The reply that a line brings. -/
def reply? (line : String) : Option Reply :=
  ((Json.read? line.toList).bind Value.map?).bind replyOf?

/-- The server that gives known replies in order. -/
def server (replies : Array Reply) : Server := fun n _ =>
  (replies[n]?).getD (.failed "no reply")

/-- The first request without a reply. -/
def pending? (replies : Array Reply) (session : Session) : Option Request :=
  session.sent[replies.size]?

/-- The times at which requests were asked for, and at which the command began and replies came. -/
structure Readings where
  asked : Array DateTime
  answered : Array DateTime

/-- The clock that shows known readings, and one time for all that is still to come. -/
def Readings.clock (readings : Readings) (now : DateTime) : Clock := fun moment n =>
  match moment with
  | .asking => (readings.asked[n]?).getD now
  | _ => (readings.answered[n]?).getD now

/-- Performs a run with the replies so far. Each advance of a run but the last sends a request, so their
number bounds the advances. -/
def perform (files : Files) (clock : Clock) (options : Options) (replies : Array Reply) : Outcome :=
  CommandLine.perform files ⟨server replies, true, clock, .ofSystem⟩ options (replies.size + 2)

end Relay

/-- The files that the API documents of a run are read from. -/
def sourceFiles (files : Files) (options : Options) : List FilePath :=
  match WorkflowDocument.ofFile files options.path with
  | .ok document =>
    let base := (FilePath.ofText options.path).parent
    (document.sources.filter fun s => !Sources.isUrl s.url).map fun s =>
      base.resolve (.ofText s.url)
  | .error _ => []

/-- The files that arguments may name. -/
def namedFiles (args : List String) : List FilePath :=
  match Arguments.read? (args.drop 1) with
  | some a => (a.operands ++ a.all .inputsFile ++ a.all .config).map .ofText
  | none => []

def usage : String :=
  "Usage: flowtest run [OPTIONS] PATH\n\n" ++
    "  Run the workflows of a workflow document.\n\nOptions:\n" ++
    "  -i, --input TEXT      Workflow input (format: 'name=value')\n" ++
    "  --inputs-file FILE    JSON or YAML file mapping workflow ids to their inputs\n" ++
    "  -w, --workflow TEXT   Run only workflows with these ids\n" ++
    "  --config FILE         TOML file with a [runner] table\n" ++
    "  -o, --output PATH     Output file for results (JSON)\n" ++
    "  -v, --verbose         Show detailed output\n" ++
    "  -h, --help            Show this message and exit\n"

def versionText : String := "flowtest, version 0.1.0\n"

end CommandLine
end Arazzo
