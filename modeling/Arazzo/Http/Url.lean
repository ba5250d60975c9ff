import Arazzo.Http.Host
import Arazzo.Http.Host.International
import Arazzo.Number.Numeral

/-!
# URLs

A URL in normal form: the scheme in lower case, characters escaped that its parts do not allow, a
port only if it is not the usual one, no dot segments. Reading a text gives the normal form or says
why there is none.
-/

namespace Arazzo

structure Url where
  scheme : String
  userinfo : String
  host : String
  port : Option Int
  path : String
  query : Option String
  fragment : Option String
deriving DecidableEq, Repr, Inhabited

/-- Why a text is no URL. -/
inductive UrlFault where
  | tooLong
  | unprintable (c : Char) (position : Nat)
  | invalidIpv4 (host : String)
  | invalidIpv6 (host : String)
  | invalidName (host : String)
  | invalidPort (port : String)
  | pathWithoutSlash
  | pathWithSlashes
  | pathWithColon
  /-- A part holds half of a surrogate pair. -/
  | unencodable
  /-- The host of another URL that is taken over cannot be read. -/
  | unreadableHost (fault : NameFault)
deriving DecidableEq, Repr

def UrlFault.message : UrlFault → String
  | .tooLong => "URL too long"
  | .unprintable c position =>
    "Invalid non-printable ASCII character in URL, " ++ Text.displayString (String.ofList [c]) ++
      " at position " ++ toString position ++ "."
  | .invalidIpv4 host => "Invalid IPv4 address: " ++ Text.displayString host
  | .invalidIpv6 host => "Invalid IPv6 address: " ++ Text.displayString host
  | .invalidName host => "Invalid IDNA hostname: " ++ Text.displayString host
  | .invalidPort port => "Invalid port: " ++ Text.displayString port
  | .pathWithoutSlash => "For absolute URLs, path must be empty or begin with '/'"
  | .pathWithSlashes => "Relative URLs cannot have a path starting with '//'"
  | .pathWithColon => "Relative URLs cannot have a path starting with ':'"
  | .unencodable => "Unencodable text"
  | .unreadableHost _ => "Unreadable host"

namespace Url

open Text

/-- The parts of a URL as they are written. -/
structure Parts where
  scheme : List Char
  userinfo : List Char
  host : List Char
  port : List Char
  path : List Char
  query : Option (List Char)
  fragment : Option (List Char)
deriving DecidableEq, Repr

def isSchemeChar (c : Char) : Bool := c.isAlphanum || c = '+' || c = '.' || c = '-'

/-- The scheme in front of a colon, and what follows; the scheme may be empty. -/
def cutScheme (cs : List Char) : List Char × List Char :=
  match cutAt ':' cs with
  | some ([], rest) => ([], rest)
  | some (c :: scheme, rest) =>
    if c.isAlpha && scheme.all isSchemeChar then (c :: scheme, rest) else ([], cs)
  | none => ([], cs)

/-- The text up to the first character of a class, and the rest. -/
def spanUntil (stop : Char → Bool) (cs : List Char) : List Char × List Char :=
  (cs.takeWhile fun c => !stop c, cs.dropWhile fun c => !stop c)

/-- What precedes and follows the last occurrence of a character. -/
def cutAtLast (sep : Char) (cs : List Char) : Option (List Char × List Char) :=
  (cutAt sep cs.reverse).map fun (after, before) => (before.reverse, after.reverse)

/-- The user information, host and port of an authority. -/
def splitAuthority (authority : List Char) : List Char × List Char × List Char :=
  let (userinfo, rest) := (cutAtLast '@' authority).getD ([], authority)
  let (host, rest) := match rest, cutAtLast ']' rest with
    | '[' :: _, some (inside, rest) => (inside ++ [']'], rest)
    | _, _ => spanUntil (· = ':') rest
  match rest with
  | ':' :: port => (userinfo, host, port)
  | port => (userinfo, host, port)

/-- The parts that a text consists of. -/
def partsOf (cs : List Char) : Parts :=
  let (scheme, rest) := cutScheme cs
  let (authority, rest) := match rest with
    | '/' :: '/' :: rest => spanUntil (fun c => c = '/' || c = '?' || c = '#') rest
    | _ => ([], rest)
  let (path, rest) := spanUntil (fun c => c = '?' || c = '#') rest
  let (query, rest) := match rest with
    | '?' :: rest =>
      let (query, rest) := spanUntil (· = '#') rest
      (some query, rest)
    | _ => (none, rest)
  let fragment := match rest with
    | '#' :: rest => some rest
    | _ => none
  let (userinfo, host, port) := splitAuthority authority
  ⟨scheme, userinfo, host, port, path, query, fragment⟩

/-- Printable ASCII without some characters. -/
def visibleWithout (excluded : String) (c : Char) : Bool :=
  0x20 < c.toNat && c.toNat < 0x7F && !excluded.toList.contains c

def isFragmentChar : Char → Bool := visibleWithout "\x22<>\x60"

def isQueryChar : Char → Bool := visibleWithout "\x22#<>"

def isPathChar : Char → Bool := visibleWithout "\x22#<>?\x60\x7b\x7d"

def isUserinfoChar : Char → Bool := visibleWithout "\x22#<>?\x60\x7b\x7d/;=@[\\]^|"

/-- The usual port of a scheme. -/
def usualPort? (scheme : List Char) : Option Int :=
  match String.ofList scheme with
  | "ftp" => some 21
  | "http" => some 80
  | "https" => some 443
  | "ws" => some 80
  | "wss" => some 443
  | _ => none

def normalPort (port scheme : List Char) : Except UrlFault (Option Int) :=
  if port.isEmpty then .ok none
  else match Numeral.integer? port with
    | .ok n => .ok (if usualPort? scheme = some n then none else some n)
    | .error _ => .error (.invalidPort (String.ofList port))

def normalHost (cs : List Char) : Except UrlFault (List Char) :=
  if cs.isEmpty then .ok []
  else if Host.hasAddressShape cs then
    if Host.isIpv4 cs then .ok cs else .error (.invalidIpv4 (String.ofList cs))
  else match Host.unbracketed? cs with
    | some address =>
      if Host.isIpv6 address then .ok address else .error (.invalidIpv6 (String.ofList cs))
    | none =>
      if isAscii cs then .ok (Host.asciiName cs)
      else match Host.writeName cs with
        | .ok name => .ok name
        | .error _ => .error (.invalidName (String.ofList cs))

/-- Removes dot segments: a single dot disappears, two dots take the segment before with them. -/
def dropDots : List (List Char) → List (List Char) → List (List Char)
  | done, [] => done.reverse
  | done, segment :: rest =>
    if segment = ['.'] then dropDots done rest
    else if segment = ['.', '.'] then
      dropDots (if done.isEmpty ∨ done = [[]] then done else done.drop 1) rest
    else dropDots (segment :: done) rest

/-- Segments with slashes between them. -/
def joinSegments : List (List Char) → List Char
  | [] => []
  | [segment] => segment
  | segment :: rest => segment ++ '/' :: joinSegments rest

def normalPath (path : List Char) : List Char := joinSegments (dropDots [] (splitOnChar '/' path))

/-- Refuses a path that would read as another part of the URL. -/
def checkPath (path : List Char) (hasScheme hasAuthority : Bool) : Except UrlFault Unit :=
  if hasAuthority && !path.isEmpty && path.head? != some '/' then .error .pathWithoutSlash
  else if !hasScheme && !hasAuthority && startsWith ['/', '/'] path then .error .pathWithSlashes
  else if !hasScheme && !hasAuthority && path.head? == some ':' then .error .pathWithColon
  else .ok ()

/-- A part with its characters escaped, except those of a class. -/
def escapePart (safe : Char → Bool) (cs : List Char) : Except UrlFault String :=
  if isEncodable cs then .ok (String.ofList (Form.escape safe cs)) else .error .unencodable

/-- A part that may be missing. -/
def escapePart? (safe : Char → Bool) : Option (List Char) → Except UrlFault (Option String)
  | some cs => (escapePart safe cs).map some
  | none => .ok none

/-- The normal form of the parts of a URL. -/
def ofParts (parts : Parts) : Except UrlFault Url := do
  let userinfo ← escapePart isUserinfoChar parts.userinfo
  let host ← normalHost parts.host
  let port ← normalPort parts.port parts.scheme
  let hasScheme := !parts.scheme.isEmpty
  let hasAuthority := !parts.userinfo.isEmpty || !host.isEmpty || port.isSome
  checkPath parts.path hasScheme hasAuthority
  let path := if hasScheme || hasAuthority then normalPath parts.path else parts.path
  let path ← escapePart isPathChar path
  let query ← escapePart? isQueryChar parts.query
  let fragment ← escapePart? isFragmentChar parts.fragment
  .ok ⟨String.ofList (lowerAscii parts.scheme), userinfo, String.ofList host, port, path, query,
    fragment⟩

def isUnprintable (c : Char) : Bool := c.toNat < 0x20 || c.toNat = 0x7F

/-- The most characters of a URL. -/
def lengthLimit : Nat := 65536

/-- Refuses a text that is too long or holds a control character. -/
def checkText (cs : List Char) : Except UrlFault Unit :=
  if cs.length > lengthLimit then .error .tooLong
  else match cs.find? isUnprintable with
    | some c => .error (.unprintable c (cs.findIdx isUnprintable))
    | none => .ok ()

/-- The URL that a text denotes. -/
def read (cs : List Char) : Except UrlFault Url := do
  checkText cs
  ofParts (partsOf cs)

def hostText (url : Url) : String :=
  if url.host.toList.contains ':' then "[" ++ url.host ++ "]" else url.host

/-- The host as it reads: one that starts in Punycode is read back. -/
def readableHost (url : Url) : Except NameFault String :=
  if startsWith Host.asciiMark url.host.toList then
    (Host.readName url.host.toList).map fun codes => String.ofList (codes.map Char.ofNat)
  else .ok url.host

/-- Host and port. -/
def netloc (url : Url) : String :=
  url.hostText ++ match url.port with
    | some port => ":" ++ toString port
    | none => ""

def authority (url : Url) : String :=
  (if url.userinfo = "" then "" else url.userinfo ++ "@") ++ url.netloc

def queryText (url : Url) : String :=
  match url.query with
  | some query => "?" ++ query
  | none => ""

def fragmentText (url : Url) : String :=
  match url.fragment with
  | some fragment => "#" ++ fragment
  | none => ""

/-- The text of a URL. -/
def text (url : Url) : String :=
  (if url.scheme = "" then "" else url.scheme ++ ":") ++
    (if url.authority = "" then "" else "//" ++ url.authority) ++
    url.path ++ url.queryText ++ url.fragmentText

/-- Whether the URL names a scheme and a host. -/
def isAbsolute (url : Url) : Bool := url.scheme != "" && url.host != ""

/-- The path, a slash if it is empty, and the query. -/
def target (url : Url) : String := (if url.path = "" then "/" else url.path) ++ url.queryText

/-- The URL of a request: one without a scheme or a host keeps only its path and query. -/
def forRequest (url : Url) : Except UrlFault Url :=
  if url.isAbsolute then .ok url
  else
    let target := '/' :: url.target.toList.dropWhile (· = '/')
    let (path, rest) := spanUntil (· = '?') target
    ofParts ⟨[], [], [], [], path, (rest.tail?), none⟩

/-- The names and values in the query, the first value of each name. -/
def queryPairs (url : Url) : List (String × String) :=
  ((url.query.map Form.decodeStrings).getD []).foldl
    (fun seen pair => if seen.any (fun p => p.1 == pair.1) then seen else seen ++ [pair]) []

/-- The user name and password, if one of them is not empty. -/
def credentials? (url : Url) : Option (List Char × List Char) :=
  let cs := url.userinfo.toList
  let (name, password) := (cutAt ':' cs).getD (cs, [])
  let name := Form.unescape name
  let password := Form.unescape password
  if name.isEmpty && password.isEmpty then none else some (name, password)

end Url
end Arazzo
