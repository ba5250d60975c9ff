import Arazzo.Http.Cookie
import Arazzo.Http.Cookie.Expiry

/-!
# Cookie notices

What the lines `Set-Cookie` and `Set-Cookie2` of a response say about cookies. A notice gives the
name, the value and the attributes of one cookie; it offers the cookie or takes it back. Of an
attribute that is given twice the first one counts, except that a later age takes the place of an
expiry. A flaw in a notice spoils the notice or all notices of its kind in the response.
-/

namespace Arazzo
namespace Cookie

open Text

/-- How much a flaw spoils: its notice, or all notices of its kind. -/
inductive Flaw where
  | notice
  | kind
deriving DecidableEq, Repr

/-- When a cookie ends: at an instant in seconds since midnight of day 0, or at a text that is never
compared with one. -/
inductive Deadline where
  | at (seconds : Int)
  | text
deriving DecidableEq, Repr

/-- The attributes of a cookie, as far as they have been given. -/
structure Attributes where
  domain : Option (List Char) := none
  path : Option (List Char) := none
  version : Option (List Char) := none
  port : Option (Option (List Char)) := none
  deadline : Option Deadline := none
  secure : Option Bool := none

structure Notice where
  name : List Char
  value : Option (List Char)
  attributes : Attributes

/-- A word with the value behind its equals sign. -/
abbrev Pair := List Char × Option (List Char)

/-! ## Attributes -/

/-- A value that has to be there. -/
def demanded (value : Option (List Char)) : Except Flaw (List Char) :=
  match value with
  | some v => .ok v
  | none => .error .notice

/-- The end of an age in seconds. -/
def ageEnd (now : Int) (value : Option (List Char)) : Except Flaw Deadline :=
  match value with
  | none => .error .kind
  | some v => match Numeral.integer? v with
    | .ok age => .ok (.at (now + age))
    | .error _ => .error .notice

/-- Takes in one attribute; `deadline?` reads an expiry. -/
def Attributes.add (now : Int) (deadline? : List Char → Option Deadline) (a : Attributes)
    (pair : Pair) : Except Flaw Attributes :=
  let (key, value) := pair
  match String.ofList (lowerAscii key) with
  | "domain" => if a.domain.isSome then .ok a else
      (demanded value).map fun v => { a with domain := some (lowerAscii v) }
  | "path" => if a.path.isSome then .ok a else
      (demanded value).map fun v => { a with path := some v }
  | "version" => if a.version.isSome then .ok a else
      (demanded value).map fun v => { a with version := some v }
  | "port" => if a.port.isSome then .ok a else .ok { a with port := some value }
  | "secure" => if a.secure.isSome then .ok a else
      .ok { a with secure := some (value != some []) }
  | "expires" => if a.deadline.isSome then .ok a else
      .ok { a with deadline := value.bind deadline? }
  | "max-age" => (ageEnd now value).map fun e => { a with deadline := some e }
  | _ => .ok a

/-- The notice that a name, a value and further pairs make. -/
def Notice.ofPairs (now : Int) (deadline? : List Char → Option Deadline) (first : Pair)
    (others : List Pair) : Except Flaw (Option Notice) :=
  match others.foldlM (Attributes.add now deadline?) {} with
  | .ok attributes => .ok (some ⟨first.1, first.2, attributes⟩)
  | .error .notice => .ok none
  | .error .kind => .error .kind

/-! ## Lines `Set-Cookie` -/

/-- The key in front of an equals sign and the value behind it. -/
def pairOf (piece : List Char) : Pair :=
  match cutAt '=' piece with
  | some (key, value) => (strip key, some (strip value))
  | none => (strip piece, none)

def unquote (cs : List Char) : List Char :=
  let cs := if cs.head? = some '\x22' then cs.drop 1 else cs
  if cs.getLast? = some '\x22' then cs.dropLast else cs

def isKey (key : String) (pair : Pair) : Bool := lowerAscii pair.1 = key.toList

/-- Takes the quotation marks from a version. -/
def bareVersion (pair : Pair) : Pair :=
  if isKey "version" pair then (pair.1, pair.2.map unquote) else pair

/-- The expiry that a value names. -/
def expiryOf (now : Int) (value : List Char) : Expiry := Expiry.read now (unquote value)

def dateDeadline? (now : Int) (value : List Char) : Option Deadline :=
  match expiryOf now value with
  | .known seconds => some (.at seconds)
  | _ => none

/-- Whether an attribute holds a date that spoils the response. -/
def isImpossible (now : Int) (pair : Pair) : Bool :=
  isKey "expires" pair && pair.2.any fun value => expiryOf now value == .impossible

/-- The notice in a line `Set-Cookie`, if it names a cookie; without a version it is of version 0. -/
def Notice.ofLine (now : Int) (line : String) : Except Flaw (Option Notice) :=
  match (splitOnChar ';' line.toList).map fun piece => pairOf (strip piece) with
  | [] => .ok none
  | first :: rest =>
    if first.1.isEmpty then .ok none
    else if rest.any (isImpossible now) then .error .kind
    else
      let given := (rest.filter fun pair => !pair.1.isEmpty).map bareVersion
      Notice.ofPairs now (dateDeadline? now) first (given ++ [("version".toList, some ['0'])])

/-! ## Lines `Set-Cookie2` -/

def isWordChar (c : Char) : Bool := !(isBlank c || c = '=' || c = ';' || c = ',')

def isValueChar (c : Char) : Bool := !(isBlank c || c = ';' || c = ',')

/-- A text up to an unescaped quotation mark, without its escapes, and what follows the mark. -/
def quotedText? : List Char → Option (List Char × List Char)
  | [] => none
  | '\x22' :: rest => some ([], rest)
  | ['\\'] => none
  | '\\' :: c :: rest =>
    if c = '\n' then none else (quotedText? rest).map fun (text, rest) => (c :: text, rest)
  | c :: rest => (quotedText? rest).map fun (text, rest) => (c :: text, rest)

/-- A value in quotation marks or without them, and what follows it. -/
def takeValue (cs : List Char) : List Char × List Char :=
  match cs with
  | '\x22' :: inside =>
    (quotedText? inside).getD (cs.takeWhile isValueChar, cs.dropWhile isValueChar)
  | _ => (cs.takeWhile isValueChar, cs.dropWhile isValueChar)

/-- The value behind an equals sign, if there is one, and what follows it. -/
def takeAssigned (cs : List Char) : Option (List Char) × List Char :=
  match trimLeft isBlank cs with
  | '=' :: rest => ((takeValue (trimLeft isBlank rest)).map some id)
  | _ => (none, cs)

theorem length_quotedText? {cs : List Char} {result : List Char × List Char}
    (h : quotedText? cs = some result) : result.2.length < cs.length := by
  fun_induction quotedText? cs generalizing result with
  | case1 | case3 | case4 => simp at h
  | case2 => cases h; simp
  | case5 _ _ _ ih | case6 _ _ _ _ _ ih =>
    obtain ⟨inner, hi, rfl⟩ := Option.map_eq_some_iff.1 h
    have := ih hi
    simp only [List.length_cons]
    omega

theorem length_dropWhile_le (p : Char → Bool) (cs : List Char) :
    (cs.dropWhile p).length ≤ cs.length := (List.dropWhile_sublist p).length_le

theorem length_takeValue (cs : List Char) : (takeValue cs).2.length ≤ cs.length := by
  unfold takeValue
  split
  · next inside =>
    cases h : quotedText? inside with
    | none => exact length_dropWhile_le isValueChar _
    | some result =>
      have := length_quotedText? h
      simp only [Option.getD_some, List.length_cons]
      omega
  · exact length_dropWhile_le isValueChar cs

theorem length_takeAssigned (cs : List Char) : (takeAssigned cs).2.length ≤ cs.length := by
  unfold takeAssigned
  split
  · next rest h =>
    have outer := length_dropWhile_le isBlank cs
    have whole := congrArg List.length h
    have inner := length_dropWhile_le isBlank rest
    have value := length_takeValue (trimLeft isBlank rest)
    simp only [trimLeft, List.length_cons] at whole value
    simp only [Prod.map_snd, id_eq, trimLeft]
    omega
  · exact Nat.le_refl _

/-- Words with their values, in groups that commas part; everything else counts as a gap. -/
def groups (cs : List Char) : List (List Pair) :=
  match _h : cs with
  | [] => [[]]
  | c :: rest =>
    if c = ',' then [] :: groups rest
    else if isWordChar c then
      let word := c :: rest.takeWhile isWordChar
      let assigned := takeAssigned (rest.dropWhile isWordChar)
      match groups assigned.2 with
      | group :: others => ((word, assigned.1) :: group) :: others
      | [] => [[(word, assigned.1)]]
    else groups rest
termination_by cs.length
decreasing_by
  · simp
  · have := length_takeAssigned (rest.dropWhile isWordChar)
    have := length_dropWhile_le isWordChar rest
    simp only [List.length_cons]
    omega
  · simp

/-- The notices in a line `Set-Cookie2`. -/
def Notice.ofLine2 (now : Int) (line : String) : Except Flaw (List Notice) :=
  (((groups line.toList).mapM fun
    | [] => .ok none
    | first :: others => Notice.ofPairs now (fun _ => some .text) first others) :
    Except Flaw (List (Option Notice))).map fun notices => notices.filterMap id

/-! ## What a notice comes to -/

/-- The ports that an attribute binds a cookie to; without a value it is the port of the request. -/
def portsOf (url : Url) (port : Option (Option (List Char))) : Option (List (List Char)) :=
  match port with
  | none => none
  | some none => (requestPort? url).map ([·])
  | some (some ports) => some (splitOnChar ',' (ports.filter fun c => !isBlank c))

/-- What follows from a notice: a cookie is offered, with or without a domain that was named, or one
is taken back, or nothing happens. -/
inductive Effect where
  | offer (cookie : Cookie) (namesDomain : Bool)
  | remove (domain path name : List Char)
  | nothing

/-- Whether an instant is so far off that no floating-point number comes near it. -/
def isBoundless (seconds : Int) : Bool := !(Binary64.ofInt seconds).isFinite

/-- What follows from a notice in a response from a URL. A version that is no number makes it
ineffective, and a cookie without a version is not offered. -/
def Notice.effect (now : Int) (url : Url) (notice : Notice) : Except Flaw Effect := do
  let a := notice.attributes
  let versions := a.version.map fun v => (Numeral.integer? v).toOption
  if versions = some none then return .nothing
  let version := versions.join
  let domain := match a.domain with
    | some domain => dotted domain
    | none => effectiveHost url
  let path := match a.path with
    | some (c :: path) => escapePath (c :: path)
    | _ => defaultPath version url
  let expires ← match a.deadline with
    | none => .ok none
    | some (.at seconds) => .ok (some seconds)
    | some .text => .error .kind
  if expires.any (· ≤ now) then return .remove domain path notice.name
  if expires.any isBoundless then .error .kind
  match version with
  | none => .ok .nothing
  | some version =>
    let ports := portsOf url a.port
    .ok (.offer ⟨domain, path, notice.name, notice.value, version, a.secure.getD false, ports, expires⟩
      a.domain.isSome)

end Cookie
end Arazzo
