import Arazzo.Http.Cookie.Notice
import Arazzo.Http.Header

/-!
# Cookie jars

The cookies that a client holds, by domain, path and name. A domain or a path keeps its place when its
last cookie is taken back. A response first takes cookies back and then sets those that it offers and
may set; lines `Set-Cookie2` count only beside lines `Set-Cookie`, and in front of them. A request
carries the cookies that go with its URL, longer paths first.
-/

namespace Arazzo

/-- Domains, each with its paths, each with its cookies. -/
abbrev Jar := List (List Char × List (List Char × List Cookie))

namespace Jar

/-- Changes what belongs to a key, which is added at the end if it is missing. -/
def change {β : Type} (key : List Char) (f : List β → List β) :
    List (List Char × List β) → List (List Char × List β)
  | [] => [(key, f [])]
  | (k, b) :: rest => if k = key then (k, f b) :: rest else (k, b) :: change key f rest

/-- Puts a cookie into the place of one of its name, or behind the others. -/
def put (cookie : Cookie) (cookies : List Cookie) : List Cookie :=
  if cookies.any fun c => c.name = cookie.name then
    cookies.map fun c => if c.name = cookie.name then cookie else c
  else cookies ++ [cookie]

def set (jar : Jar) (cookie : Cookie) : Jar :=
  change cookie.domain (change cookie.path (put cookie)) jar

/-- Takes a cookie back, if it is there. -/
def remove (domain path name : List Char) (jar : Jar) : Jar :=
  jar.map fun (d, paths) => (d, if d = domain then paths.map fun (p, cookies) =>
    (p, if p = path then cookies.filter fun c => c.name ≠ name else cookies) else paths)

def cookies (jar : Jar) : List Cookie := jar.flatMap fun (_, paths) => paths.flatMap Prod.snd

def isEmpty (jar : Jar) : Bool := jar.cookies.isEmpty

/-! ## Responses -/

/-- Goes through notices of one kind: takes cookies back and gathers those that are offered, each with
whether its domain was named. A flaw that spoils the kind leaves no offers, but what was taken back
before it stays so. -/
def heed (now : Int) (url : Url) : List Cookie.Notice → Jar → Jar × Option (List (Cookie × Bool))
  | [], jar => (jar, some [])
  | notice :: rest, jar => match notice.effect now url with
    | .error _ => (jar, none)
    | .ok .nothing => heed now url rest jar
    | .ok (.remove domain path name) => heed now url rest (remove domain path name jar)
    | .ok (.offer cookie namesDomain) =>
      let (jar, offers) := heed now url rest jar
      (jar, offers.map ((cookie, namesDomain) :: ·))

/-- Heeds the notices of lines, if they can be read. -/
def heedAll (now : Int) (url : Url) (notices : Except Cookie.Flaw (List Cookie.Notice)) (jar : Jar) :
    Jar × List (Cookie × Bool) :=
  match notices with
  | .error _ => (jar, [])
  | .ok notices =>
    let (jar, offers) := heed now url notices jar
    (jar, offers.getD [])

/-- A cookie of version 1 counts as one of version 0 if a line `Set-Cookie` offers it. -/
def plainVersion (cookie : Cookie) : Cookie :=
  if cookie.version = 1 then { cookie with version := 0 } else cookie

/-- Takes in the lines of a response. -/
def addResponse (now : Int) (url : Url) (headers : Headers) (jar : Jar) : Jar :=
  let lines := headers.values "Set-Cookie"
  if lines.isEmpty then jar else
  let lines2 := headers.values "Set-Cookie2"
  let (jar, first) := heedAll now url
    ((lines2.mapM (Cookie.Notice.ofLine2 now)).map List.flatten) jar
  let (jar, second) := heedAll now url
    ((lines.mapM (Cookie.Notice.ofLine now)).map fun notices => notices.filterMap id) jar
  let offers := first ++ second.map fun (cookie, namesDomain) => (plainVersion cookie, namesDomain)
  let accepted := offers.filter fun (cookie, namesDomain) => cookie.mayBeSetBy namesDomain url
  (accepted.map Prod.fst).foldl set jar

/-! ## Requests -/

/-- Cookies with semicolons between them. -/
def joinTexts : List (List Char) → List Char
  | [] => []
  | [t] => t
  | t :: rest => t ++ ';' :: ' ' :: joinTexts rest

/-- The value of the `Cookie` line of a request, if any cookie goes with it. -/
def line? (now : Int) (url : Url) (jar : Jar) : Option String :=
  let sent := jar.cookies.filter (Cookie.isSentTo now url)
  let ordered := sent.mergeSort fun a b => b.path.length ≤ a.path.length
  if ordered.isEmpty then none else some (String.ofList (joinTexts (ordered.map Cookie.text)))

end Jar
end Arazzo
