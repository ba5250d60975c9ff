import Arazzo.Http.Message
import Arazzo.Http.Url.Join
import Arazzo.Text.Base64

/-!
# The client

A client adds its own header lines to every request, sends user information of a URL as an
authorisation, keeps cookies and follows redirects, at most twenty in a row. The server is a function
from the number of a request and the request to a reply, and a clock shows a time for each number of
requests, so all that happens is determined by both.
-/

namespace Arazzo

/-- What a request meets with: a response, a transport that gives up with a message, or one that breaks
down over its own response. -/
inductive Reply where
  | response (r : Response)
  | failed (message : String)
  | broken (d : Defect)

/-- The reply to the `n`-th request, counted from zero. -/
abbrev Server := Nat → Request → Reply

/-- An occasion to look at the clock. -/
inductive Moment where
  /-- Cookies are chosen for the next request. -/
  | asking
  /-- A reply has come, and its cookies are kept. -/
  | answered
  /-- A response is judged. -/
  | judged
  /-- The result of a run is made. -/
  | made
  /-- The result of a run is handed out. -/
  | closed
deriving DecidableEq, Repr

/-- The time of each occasion, by the number of requests that have been sent before. -/
abbrev Clock := Moment → Nat → DateTime

/-- A clock that has stopped. -/
def Clock.still (now : DateTime) : Clock := fun _ _ => now

/-- Whole seconds since midnight of day 0. -/
def Clock.seconds (clock : Clock) (moment : Moment) (n : Nat) : Int :=
  (clock moment n).microseconds / 1000000

structure Client where
  /-- The lines that go with every request. -/
  headers : Headers
  followsRedirects : Bool
  /-- Whether the transport reads the bodies of the requests that it sends. The body of a request that
  takes over the one of another is not read before. -/
  readsRequests : Bool
  clock : Clock

/-- What a client has done: its cookies, the requests it was asked to send, and all requests that
reached the server, redirects included. -/
structure Session where
  jar : Jar
  calls : List Request
  sent : List Request

def Session.start : Session := ⟨[], [], []⟩

/-- The same session without cookies. -/
def Session.withoutCookies (session : Session) : Session := { session with jar := [] }

/-- Why a request has no response: the transport gives up with a message, or a defect stops it. -/
inductive ClientFault where
  | failed (message : String)
  | defect (d : Defect)
deriving DecidableEq, Repr

namespace Client

/-- The lines that every request carries if nothing replaces them. -/
def defaultHeaders : Headers :=
  [("Accept", "*/*"), ("Accept-Encoding", "gzip, deflate"), ("Connection", "keep-alive"),
   ("User-Agent", "python-httpx/0.28.1")]

def redirectLimit : Nat := 20

/-- The lines with the cookies of the session for a URL. -/
def withCookies (client : Client) (session : Session) (url : Url) (headers : Headers) : Headers :=
  Request.addCookies (client.clock.seconds .asking session.sent.length) session.jar url headers

/-- A request with the lines of the client and its cookies. -/
def request (client : Client) (session : Session) (method : String) (url : Url)
    (headers : Headers) (body : List UInt8) : Except NameFault Request :=
  Request.complete method url (client.withCookies session url (client.headers.update headers)) body

/-- Sends user information of the URL as an authorisation. -/
def authorise (request : Request) : Request :=
  match request.url.credentials? with
  | some (name, password) =>
    let token := Text.base64 (Text.utf8 (name ++ ':' :: password))
    { request with
      headers := Headers.set "Authorization" ("Basic " ++ String.ofList token) request.headers }
  | none => request

/-- Whether a URL has a scheme. Cookies depend on one, so that without one no cookie can be chosen for
a request and no response can be searched for cookies. -/
def hasScheme (url : Url) : Bool := url.scheme != ""

/-- Hands one request to the server. -/
def exchange (server : Server) (client : Client) (request : Request) (session : Session) :
    Except ClientFault Response × Session :=
  if !hasScheme request.url && !Jar.isEmpty session.jar then
    (.error (.defect .urlWithoutScheme), session)
  else
  let reply := server session.sent.length request
  let session := { session with sent := session.sent ++ [request] }
  match reply with
  | .failed message => (.error (.failed message), session)
  | .broken d => (.error (.defect d), session)
  | .response r => match r.decoded with
    | .error flaw => (.error (.failed (Coding.complaint flaw)), session)
    | .ok r =>
      if !hasScheme request.url then (.error (.defect .urlWithoutScheme), session) else
      let now := client.clock.seconds .answered session.sent.length
      (.ok r, { session with jar := Jar.addResponse now request.url r.headers session.jar })

/-- Where a response redirects to. -/
def location? (response : Response) : Option String :=
  if [301, 302, 303, 307, 308].contains response.status then response.headers.get? "Location"
  else none

/-- The method of the request that follows a redirect. -/
def redirectMethod (status : Int) (method : String) : String :=
  if (status = 303 ∨ status = 302) ∧ method ≠ "HEAD" then "GET"
  else if status = 301 ∧ method = "POST" then "GET"
  else method

def portOf (url : Url) : Option Int :=
  match url.port with
  | some port => some port
  | none => if url.scheme = "http" then some 80 else if url.scheme = "https" then some 443 else none

def sameOrigin (a b : Url) : Bool :=
  a.scheme = b.scheme && a.host = b.host && portOf a = portOf b

/-- Whether a redirect only changes to the encrypted scheme. -/
def upgrades (source target : Url) : Bool :=
  source.host = target.host && source.scheme = "http" && portOf source = some 80 &&
    target.scheme = "https" && portOf target = some 443

/-- Whether a redirect with a method leaves the body of a request behind. -/
def dropsBody (request : Request) (method : String) : Bool :=
  method ≠ request.method && method = "GET"

/-- The lines of the request that follows a redirect: an authorisation stays with its origin, lines
about the body go with the body, and cookies are chosen anew. -/
def redirectHeaders (request : Request) (url : Url) (method : String) : Headers :=
  let headers := request.headers
  let headers :=
    if sameOrigin url request.url then headers
    else
      let kept := if upgrades request.url url then headers else headers.erase "Authorization"
      Headers.set "Host" url.netloc kept
  let headers :=
    if dropsBody request method then
      (headers.erase "Content-Length").erase "Transfer-Encoding"
    else headers
  headers.erase "Cookie"

/-- Refuses a URL whose host cannot be read. -/
def checkHost (url : Url) : Except ClientFault Unit :=
  match url.readableHost with
  | .ok _ => .ok ()
  | .error fault => .error (.defect (.unreadableHost fault))

/-- Where a redirect leads. Of two hosts that cannot be read the one that is compared first counts. -/
def redirectTarget (source : Url) (location : String) : Except ClientFault Url :=
  match Url.read location.toList with
  | .error fault =>
    .error (.failed ("Invalid URL in location header: " ++ fault.message ++ "."))
  | .ok located => do
    if located.scheme ≠ "" then checkHost located
    let target ← match source.redirected located with
      | .ok target => .ok target
      | .error (.unreadableHost fault) => .error (.defect (.unreadableHost fault))
      | .error _ => .error (.defect .invalidUrl)
    if target.scheme = source.scheme then checkHost target
    checkHost source
    checkHost target
    .ok target

/-- The request that follows a redirect to a location. -/
def redirectRequest (client : Client) (session : Session) (request : Request) (status : Int)
    (location : String) : Except ClientFault Request := do
  let url ← redirectTarget request.url location
  let method := redirectMethod status request.method
  let headers := client.withCookies session url (redirectHeaders request url method)
  if dropsBody request method then
    match Request.complete method url headers [] with
    | .ok next => .ok next
    | .error fault => .error (.defect (.unreadableHost fault))
  else .ok ⟨method, url, headers, request.body⟩

/-- Sends a request, whose body is read or not, and follows a number of redirects. -/
def follow (server : Server) (client : Client) :
    Nat → Bool → Request → Session → Except ClientFault Exchange × Session
  | remaining, isRead, request, session =>
    match exchange server client request session with
    | (.error fault, session) => (.error fault, session)
    | (.ok response, session) =>
      let answered : Exchange := ⟨request, isRead || client.readsRequests, response⟩
      match location? response with
      | none => (.ok answered, session)
      | some location =>
        match redirectRequest client session request response.status location with
        | .error fault => (.error fault, session)
        | .ok next =>
          if client.followsRedirects then match remaining with
            | 0 => (.error (.failed "Exceeded maximum allowed redirects."), session)
            | remaining + 1 =>
              follow server client remaining (dropsBody request next.method) next session
          else (.ok answered, session)

/-- Sends a request. -/
def send (server : Server) (client : Client) (request : Request) (session : Session) :
    Except ClientFault Exchange × Session :=
  follow server client redirectLimit true (authorise request)
    { session with calls := session.calls ++ [request] }

end Client
end Arazzo
