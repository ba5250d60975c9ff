import Arazzo.Http.Url

/-!
# References relative to a URL

A reference is joined to a base URL by taking from the base what the reference leaves out: the
scheme, the authority, the directory of the path, the query. Dot segments of the joined path are
removed, and so are empty segments except at its ends.
-/

namespace Arazzo
namespace Url

open Text

/-- The schemes whose URLs have relative references; no scheme counts as one of them. -/
def hierarchicalSchemes : List String :=
  ["", "ftp", "http", "gopher", "nntp", "imap", "wais", "file", "https", "shttp", "mms", "prospero",
   "rtsp", "rtspu", "sftp", "svn", "svn+ssh", "ws", "wss"]

/-- Those of them whose paths may end in parameters. -/
def parameterSchemes : List String :=
  ["", "ftp", "http", "https", "shttp", "mms", "prospero", "rtsp", "rtspu", "sftp"]

/-- The path of a URL, and the parameters behind a semicolon in its last segment. -/
def cutParameters (scheme : String) (path : List Char) : List Char × List Char :=
  if !parameterSchemes.contains scheme then (path, []) else
  let (directory, file) := match cutAtLast '/' path with
    | some (directory, file) => (directory ++ ['/'], file)
    | none => ([], path)
  match cutAt ';' file with
  | some (file, parameters) => (directory ++ file, parameters)
  | none => (path, [])

/-- Walks through segments with the ones kept so far, the last one first. -/
def walkSegments : List (List Char) → List (List Char) → List (List Char)
  | done, [] => done.reverse
  | done, segment :: rest =>
    if segment = ['.', '.'] then walkSegments (done.drop 1) rest
    else if segment = ['.'] then walkSegments done rest
    else walkSegments (segment :: done) rest

/-- Drops the empty segments between the first and the last one. -/
def dropEmptyInside (segments : List (List Char)) : List (List Char) :=
  match segments with
  | [] => []
  | first :: rest =>
    first :: (rest.dropLast.filter (fun s => !s.isEmpty) ++ rest.getLast?.toList)

/-- The path of a reference, seen from the path of the base. -/
def joinPath (base path : List Char) : List Char :=
  let segments := splitOnChar '/' path
  let segments :=
    if path.head? = some '/' then segments
    else
      let parts := splitOnChar '/' base
      let directory := if parts.getLast? = some [] then parts else parts.dropLast
      dropEmptyInside (directory ++ segments)
  let last := segments.getLastD []
  let kept := walkSegments [] segments
  let kept := if last = ['.'] ∨ last = ['.', '.'] then kept ++ [[]] else kept
  match joinSegments kept with
  | [] => ['/']
  | joined => joined

/-- The text of the parts of a joined URL. -/
def unparse (scheme netloc path parameters : List Char) (query fragment : List Char) : List Char :=
  let path := if parameters.isEmpty then path else path ++ ';' :: parameters
  let rooted := if !path.isEmpty && path.head? != some '/' then '/' :: path else path
  let hierarchical := !netloc.isEmpty ||
    (!scheme.isEmpty && hierarchicalSchemes.contains (String.ofList scheme) &&
      !startsWith ['/', '/'] path)
  let body := if hierarchical then '/' :: '/' :: netloc ++ rooted else path
  (if scheme.isEmpty then [] else scheme ++ [':']) ++ body ++
    (if query.isEmpty then [] else '?' :: query) ++
    (if fragment.isEmpty then [] else '#' :: fragment)

/-- The text of the URL that a reference denotes, seen from a base. -/
def joinText (base reference : Url) : List Char :=
  let referenceScheme := if reference.scheme = "" then base.scheme else reference.scheme
  if reference.text = "" then base.text.toList
  else if referenceScheme ≠ base.scheme ∨ !hierarchicalSchemes.contains referenceScheme then
    reference.text.toList
  else
    let scheme := referenceScheme.toList
    let optional (o : Option String) : List Char := (o.getD "").toList
    let (path, parameters) := cutParameters referenceScheme reference.path.toList
    let query := optional reference.query
    let fragment := optional reference.fragment
    if reference.authority ≠ "" then
      unparse scheme reference.authority.toList path parameters query fragment
    else
      let netloc := base.authority.toList
      let (basePath, baseParameters) := cutParameters base.scheme base.path.toList
      if path.isEmpty && parameters.isEmpty then
        unparse scheme netloc basePath baseParameters
          (if query.isEmpty then optional base.query else query) fragment
      else unparse scheme netloc (joinPath basePath path) parameters query fragment

def join (base reference : Url) : Except UrlFault Url := read (joinText base reference)

/-- The same URL with another host; its other parts are checked anew. -/
def withHost (url : Url) (host : String) : Except UrlFault Url :=
  let (userinfo, _, port) := splitAuthority url.authority.toList
  let host := if host.toList.contains ':' then '[' :: host.toList ++ [']'] else host.toList
  ofParts ⟨url.scheme.toList, userinfo, host, port, url.path.toList, url.query.map String.toList,
    url.fragment.map String.toList⟩

/-- The same URL with another fragment, given without escapes. -/
def withFragment (url : Url) (fragment : List Char) : Except UrlFault Url := do
  checkText fragment
  .ok { url with fragment := some (String.ofList (Form.escape isFragmentChar fragment)) }

/-- The URL that a request is redirected to. -/
def redirected (current location : Url) : Except UrlFault Url := do
  let located ←
    if location.scheme ≠ "" ∧ location.host = "" then match current.readableHost with
      | .ok host => location.withHost host
      | .error fault => .error (.unreadableHost fault)
    else .ok location
  let located ← if located.isAbsolute then .ok located else current.join located
  let fragment := Form.unescape ((current.fragment.getD "").toList)
  if fragment.isEmpty ∨ (located.fragment.getD "") ≠ "" then .ok located
  else located.withFragment fragment

end Url
end Arazzo
