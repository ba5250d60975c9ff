import Arazzo.Context
import Arazzo.Error
import Arazzo.Http.Coding
import Arazzo.Http.ContentType
import Arazzo.Http.Cookie.Jar
import Arazzo.Json.Reader

/-!
# Requests and responses

A request is complete when it carries its host, the length of its body and the cookies that go with
it. A body reads as JSON if it can be read so, and else as text in the encoding that the content type
names.
-/

namespace Arazzo

structure Request where
  method : String
  url : Url
  headers : Headers
  body : List UInt8
deriving DecidableEq, Repr, Inhabited

structure Response where
  status : Int
  headers : Headers
  body : List UInt8
deriving DecidableEq, Repr, Inhabited

namespace Headers

def isAsciiLine (line : String × String) : Bool :=
  Text.isAscii line.1.toList && Text.isAscii line.2.toList

/-- Header lines, unless one holds a character that they cannot carry. -/
def checked (headers : Headers) : Except Defect Headers :=
  if headers.all isAsciiLine then .ok headers else .error .unencodableText

end Headers

namespace Request

/-- The methods whose requests name the length of their body even if it is empty. -/
def lengthMethods : List String := ["POST", "PUT", "PATCH"]

/-- The line for the host, which must be readable, unless the lines hold one. -/
def hostLine (url : Url) (headers : Headers) : Except NameFault Headers :=
  if headers.contains "Host" then .ok []
  else url.readableHost.map fun _ => if url.host == "" then [] else [("Host", url.netloc)]

/-- Adds the lines for host and length that are missing. -/
def complete (method : String) (url : Url) (headers : Headers) (body : List UInt8) :
    Except NameFault Request := do
  let headers :=
    if body.isEmpty then headers else headers.setDefault "Content-Length" (toString body.length)
  let host ← hostLine url headers
  let length : Headers :=
    if headers.contains "Content-Length" || headers.contains "Transfer-Encoding" ||
      !lengthMethods.contains method then [] else [("Content-Length", "0")]
  .ok ⟨method, url, host ++ length ++ headers, body⟩

/-- Adds the cookies of a jar, unless the lines hold some already. -/
def addCookies (now : Int) (jar : Jar) (url : Url) (headers : Headers) : Headers :=
  match Jar.line? now url jar with
  | some line => headers.setDefault "Cookie" line
  | none => headers

end Request

namespace Response

/-- A response that names the length of its body unless it is empty. -/
def complete (status : Int) (headers : Headers) (body : List UInt8) : Response :=
  ⟨status, if body.isEmpty then headers
    else headers.setDefault "Content-Length" (toString body.length), body⟩

/-- The response with its codings undone; its lines stay. -/
def decoded (response : Response) : Except Inflate.Flaw Response :=
  (Coding.decodeAll (Coding.ofHeaders response.headers) response.body).map fun body =>
    { response with body := body }

def isSuccess (response : Response) : Bool := 200 ≤ response.status && response.status < 300

end Response

namespace Response

/-- The body as text in the charset that the content type names. -/
def text (response : Response) : Except Defect String :=
  if response.body.isEmpty then .ok ""
  else do
    let charset ← ContentType.charset (response.headers.get? "Content-Type")
    match charset.decode response.body with
    | .ok cs => .ok (String.ofList cs)
    | .error fault => .error (.unreadableText fault)

/-- The body as a document. It must be readable as text even if it reads as JSON. -/
def document (response : Response) : Except Defect Value := do
  let text ← response.text
  .ok ((Json.readBytes? response.body).getD (.text text))

end Response

namespace Request

/-- The body as a document; null if there is none. -/
def document (request : Request) : Value :=
  if request.body.isEmpty then .null
  else (Json.readBytes? request.body).getD (.text (String.ofList (Text.readUtf8 request.body)))

end Request

/-- A response and the request that it answers in the end. -/
structure Exchange where
  request : Request
  /-- Whether the body of the request can be asked for. -/
  isRead : Bool
  response : Response

/-- The body of the response as a document. The text of a response without success is asked for first,
then the body of the request. -/
def Exchange.document (exchange : Exchange) : Except Defect Value :=
  if exchange.isRead then exchange.response.document
  else if exchange.response.isSuccess then .error .unreadRequest
  else exchange.response.text.bind fun _ => .error .unreadRequest

/-- What is remembered of an exchange. -/
def Snapshot.ofExchange (exchange : Exchange) : Except Defect Snapshot := do
  let body ← exchange.document
  let request := exchange.request
  let response := exchange.response
  .ok {
    url := some request.url.text
    method := some request.method
    statusCode := some response.status
    request := some (.map (Entries.ofTexts
      [("header", .map request.headers.toEntries),
       ("query", .map (Entries.ofTexts (request.url.queryPairs.map fun (k, v) => (k, .text v)))),
       ("body", request.document)]))
    response := some (.map (Entries.ofTexts
      [("header", .map response.headers.toEntries), ("body", body)])) }

/-- The context after an exchange. -/
def Context.withExchange (context : Context) (exchange : Exchange) : Except Defect Context :=
  (Snapshot.ofExchange exchange).map fun snapshot => { context with snapshot := snapshot }

end Arazzo
