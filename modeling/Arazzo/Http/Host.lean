import Arazzo.Http.Form

/-!
# Hosts

A host in a URL is an IPv4 address, an IPv6 address between square brackets, or a name. Text with the
shape of an IPv4 address must be one. A name of ASCII characters is written in lower case and escaped
where necessary; names with other characters are the subject of a module of their own.
-/

namespace Arazzo
namespace Host

open Text

/-- Whether a text has the shape of an IPv4 address: four runs of digits with points between. -/
def hasAddressShape (cs : List Char) : Bool :=
  let parts := splitOnChar '.' cs
  parts.length == 4 && parts.all fun run => !run.isEmpty && run.all Char.isDigit

/-- A number of an IPv4 address: up to three digits without a leading zero, at most 255. -/
def isOctet (cs : List Char) : Bool :=
  cs.all (fun c => '0' ≤ c && c ≤ '9') &&
    match cs with
    | [_] => true
    | [a, _] => a ≠ '0'
    | [a, b, c] =>
      a ≠ '0' && ((a.toNat - 48) * 10 + (b.toNat - 48)) * 10 + (c.toNat - 48) ≤ 255
    | _ => false

def isIpv4 (cs : List Char) : Bool :=
  let parts := splitOnChar '.' cs
  parts.length == 4 && parts.all isOctet

/-- A group of an IPv6 address. -/
def isHextet (cs : List Char) : Bool :=
  !cs.isEmpty && cs.length ≤ 4 && cs.all fun c => (hexDigit? c).isSome

/-- Splits groups at the empty ones. -/
def splitAtEmpty : List (List Char) → List (List (List Char))
  | [] => [[]]
  | part :: rest =>
    if part.isEmpty then [] :: splitAtEmpty rest
    else match splitAtEmpty rest with
      | run :: runs => (part :: run) :: runs
      | [] => [[part]]

/-- Whether the parts between colons make an IPv6 address: eight groups, or fewer with one gap that
stands for the missing ones. An IPv4 address at the end counts as two groups. -/
def areIpv6Groups (parts : List (List Char)) : Bool :=
  let allHextets (run : List (List Char)) : Bool := run.all isHextet
  match splitAtEmpty parts with
  | [run] => run.length == 8 && allHextets run
  | [before, after] =>
    !before.isEmpty && !after.isEmpty && before.length + after.length < 8 && allHextets before &&
      allHextets after
  | [[], [], after] => !after.isEmpty && after.length < 8 && allHextets after
  | [before, [], []] => !before.isEmpty && before.length < 8 && allHextets before
  | [[], [], [], []] => true
  | _ => false

/-- Whether a text is an IPv6 address, possibly with a zone behind a percent sign. -/
def isIpv6 (cs : List Char) : Bool :=
  let (address, zone) := match cutAt '%' cs with
    | some (address, zone) => (address, some zone)
    | none => (cs, none)
  let zoneFits := match zone with
    | some zone => !zone.isEmpty && !zone.contains '%'
    | none => true
  let parts := splitOnChar ':' address
  let last := parts.getLastD []
  let groups :=
    if last.contains '.' then
      if isIpv4 last then parts.dropLast ++ [['0'], ['0']] else [['-']]
    else parts
  zoneFits && !address.contains '/' && 3 ≤ parts.length && groups.length ≤ 9 && areIpv6Groups groups

/-- The text between square brackets that enclose a host. -/
def unbracketed? : List Char → Option (List Char)
  | '[' :: rest => if rest.getLast? = some ']' then some rest.dropLast else none
  | _ => none

/-- The characters of a name that are not escaped. -/
def isNameChar (c : Char) : Bool :=
  Form.isUnreserved c || "!$&'()*+,;=\x22\x60\x7b\x7d%|\\".toList.contains c

def asciiName (cs : List Char) : List Char := Form.escape isNameChar (lowerAscii cs)

end Host
end Arazzo
