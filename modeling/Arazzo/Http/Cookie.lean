import Arazzo.Http.Url

/-!
# Cookies

A cookie belongs to a domain and a path and is sent with requests to hosts in the domain and to paths
below its path; it may besides be bound to ports and to encrypted schemes. A host without a dot counts
as a host in the domain `.local`. Where a cookie may come from and go to depends on its version:
below 0 there are fewer conditions, above 0 it is not accepted.
-/

namespace Arazzo

structure Cookie where
  domain : List Char
  path : List Char
  name : List Char
  value : Option (List Char)
  version : Int
  secure : Bool
  /-- The ports that it is bound to, if it is bound. -/
  ports : Option (List (List Char))
  /-- Seconds since midnight of day 0. -/
  expires : Option Int
deriving DecidableEq, Repr

namespace Cookie

open Text

/-! ## Parts of a URL -/

/-- The host in lower case; user information in the URL counts as a part of it. -/
def requestHost (url : Url) : List Char :=
  let userinfo := if url.userinfo = "" then "" else url.userinfo ++ "@"
  lowerAscii (userinfo ++ url.hostText).toList

/-- The domain of hosts without a dot. -/
def localDomain : List Char := ".local".toList

/-- The host that domains are compared with. -/
def effectiveHost (url : Url) : List Char :=
  let host := requestHost url
  if host.contains '.' then host else host ++ localDomain

/-- The text behind the first colon of the authority without its escapes, if it is a number, and 80
without a colon. -/
def requestPort? (url : Url) : Option (List Char) :=
  match cutAt ':' (Form.unescape url.authority.toList) with
  | some (_, port) => if (Numeral.integer? port).isOk then some port else none
  | none => some "80".toList

/-- The characters of a path that are not escaped. -/
def isPathChar (c : Char) : Bool :=
  Form.isUnreserved c || "%/;:@&=+$,!*'()".toList.contains c

/-- Gives escapes capital digits. -/
def capitalEscapes : List Char → List Char
  | '%' :: a :: b :: rest =>
    if (hexDigit? a).isSome && (hexDigit? b).isSome then
      '%' :: a.toUpper :: b.toUpper :: capitalEscapes rest
    else '%' :: capitalEscapes (a :: b :: rest)
  | c :: rest => c :: capitalEscapes rest
  | [] => []

def escapePath (path : List Char) : List Char := capitalEscapes (Form.escape isPathChar path)

def requestPath (url : Url) : List Char :=
  let path := escapePath url.path.toList
  if path.head? = some '/' then path else '/' :: path

/-- The directory of the request; a cookie of version 0 leaves the slash at its end out, unless the
directory is the root. -/
def defaultPath (version : Option Int) (url : Url) : List Char :=
  let directory := ((requestPath url).reverse.dropWhile (· ≠ '/')).reverse
  let path := if version = some 0 then directory.dropLast else directory
  if path.isEmpty then ['/'] else path

/-! ## Where cookies come from and go to -/

/-- A name with a dot in front. -/
def dotted (name : List Char) : List Char := if name.head? = some '.' then name else '.' :: name

/-- Whether a host lies in a domain. -/
def isWithin (domain host : List Char) : Bool := endsWith (dotted domain) (dotted host)

/-- Whether a host may name a domain for its cookies. The domain holds another dot than the one in
front, or the host is a local one; for version 0 the host must besides lie in the domain, or start
with a dot itself. -/
def domainAdmits (version : Int) (domain host : List Char) : Bool :=
  let bare := (after? ['.'] domain).getD domain
  (bare.contains '.' || endsWith localDomain host) &&
    (version ≠ 0 || endsWith domain ('.' :: host) || endsWith (bare ++ localDomain) host ||
      host.head? = some '.')

/-- Whether a port is among others, none of those in front of it being anything but a number. -/
def portAdmits (port : List Char) : List (List Char) → Bool
  | [] => false
  | p :: rest => (Numeral.integer? p).isOk && (p = port || portAdmits port rest)

/-- The port of a request for comparison with those of a cookie. -/
def portToMatch (url : Url) : List Char := (requestPort? url).getD "80".toList

/-- Whether a cookie may be set by a response from a URL; its domain counts if the response named
it. -/
def mayBeSetBy (cookie : Cookie) (namesDomain : Bool) (url : Url) : Bool :=
  cookie.version ≤ 0 &&
    (!namesDomain || domainAdmits cookie.version cookie.domain (effectiveHost url)) &&
    cookie.ports.all (portAdmits (portToMatch url))

/-- Whether cookies of a domain go to a host. -/
def reaches (cookie : Cookie) (url : Url) : Bool :=
  let host := effectiveHost url
  (isWithin cookie.domain (requestHost url) || isWithin cookie.domain host) &&
    (cookie.version ≠ 0 || endsWith (dotted cookie.domain) ('.' :: host))

def matchesPath (path request : List Char) : Bool :=
  match after? path request with
  | some [] => true
  | some (c :: _) => path.getLast? = some '/' || c = '/'
  | none => false

/-- Whether a cookie has ended. -/
def isExpired (now : Int) (cookie : Cookie) : Bool := cookie.expires.any fun e => e ≤ now

/-- Whether a cookie is sent with a request to a URL. -/
def isSentTo (now : Int) (url : Url) (cookie : Cookie) : Bool :=
  cookie.reaches url && matchesPath cookie.path (requestPath url) &&
    (!cookie.secure || url.scheme == "https" || url.scheme == "wss") &&
    !cookie.isExpired now && cookie.ports.all fun ports => ports.contains (portToMatch url)

/-- A cookie as it is sent. -/
def text (cookie : Cookie) : List Char :=
  match cookie.value with
  | some value => cookie.name ++ '=' :: value
  | none => cookie.name

end Cookie
end Arazzo
