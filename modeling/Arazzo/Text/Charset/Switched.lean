import Arazzo.Text.Charset.Chinese
import Arazzo.Text.Charset.Japanese
import Arazzo.Text.Charset.Korean
import Arazzo.Text.Charset.Page.Iso

/-!
# Charsets that switch sets

In ISO 2022, escape sequences select the set that the following bytes belong to. There are three places
for a set: one in use at first, one that a shift puts into use, and one for single characters. The
charsets of this family differ in the sets that they know and in the places that they have.
-/

namespace Arazzo
namespace Text
namespace Charset

open Japanese

/-- A set that an escape sequence can select. -/
inductive CodedSet where
  | ascii
  | roman
  | katakana
  | latin1
  | greek
  | jisOld
  | jis
  | jisSupplement
  | jisFirst (edition : Edition)
  | jisSecond (edition : Edition)
  | gb
  | ks
deriving DecidableEq, Repr

namespace CodedSet

/-- The byte that ends the escape sequence of a set. -/
def finalByte : CodedSet → Char
  | .ascii | .jis => 'B'
  | .roman => 'J'
  | .katakana => 'I'
  | .latin1 | .gb => 'A'
  | .greek => 'F'
  | .jisOld => '@'
  | .jisSupplement => 'D'
  | .jisFirst .of2000 => 'O'
  | .jisFirst .of2004 => 'Q'
  | .jisSecond _ => 'P'
  | .ks => 'C'

/-- Whether the characters of a set have two bytes. -/
def isWide : CodedSet → Bool
  | .ascii | .roman | .katakana | .latin1 | .greek => false
  | _ => true

/-- The text of a code of two bytes. -/
def pair? (set : CodedSet) (code : Nat) : Option (List Char) :=
  match set with
  | .jisOld | .jis => (jisBasic.get? code).map ([·])
  | .jisSupplement => (Charset.jisSupplement.get? code).map ([·])
  | .jisFirst edition => if edition.lacks code then none else firstPlane? code
  | .jisSecond edition => (edition.secondPlane? code).map ([·])
  | .gb => (gbBasic.get? code).map ([·])
  | .ks => (ksBasic.get? code).map ([·])
  | _ => none

/-- The character of a single byte. The sets for single characters have none here. -/
def single? (set : CodedSet) (n : Nat) : Option Char :=
  match set with
  | .ascii => asciiChar? n
  | .roman => romanChar? n
  | .katakana => narrowKatakana? (n + 0x80)
  | _ => none

end CodedSet

/-- A charset of the family: the sets beside ASCII that it knows, whether it has shifts, and whether it has
the place for single characters. Without shifts an announcer of two characters may stand before the escape
of the basic Japanese set. -/
structure Iso2022 where
  sets : List CodedSet
  hasShifts : Bool
  hasSingles : Bool
deriving DecidableEq, Repr

/-- The sets in the three places, whether the shift is on, and whether an unknown escape sequence is under
way, whose bytes stand for themselves. -/
structure Selection where
  usual : CodedSet
  shifted : CodedSet
  single : CodedSet
  isShifted : Bool
  isUnknown : Bool
deriving DecidableEq, Repr

def Selection.start : Selection := ⟨.ascii, .ascii, .ascii, false, false⟩

namespace Iso2022

def endsEscape (c : Char) : Bool := (0x41 ≤ c.toNat && c.toNat ≤ 0x5A) || c = '@'

/-- How many bytes an escape sequence may have before its last one. -/
def escapeLimit : Nat := 16

/-- The rest of an escape sequence from a position on: its characters and its length if it is short enough;
nothing if it is cut off. -/
def escapeLength? (charset : Iso2022) (position : Nat) (cs : List Char) : Option (Option Nat) :=
  if escapeLimit ≤ position then some none
  else match cs with
    | [] => none
    | c :: rest =>
      if endsEscape c then some (some (position + 1))
      else if !charset.hasShifts && c = '&' && rest.head? = some '@' then
        escapeLength? charset (position + 3) (rest.drop 2)
      else escapeLength? charset (position + 1) rest
termination_by cs.length
decreasing_by all_goals simp; try omega

/-- The set that a last byte names. -/
def set? (charset : Iso2022) (isWide : Bool) (last : Char) : Option CodedSet :=
  (CodedSet.ascii :: charset.sets).find? fun set => set.finalByte = last && set.isWide = isWide

/-- The selection after a complete escape sequence, given without its first byte. -/
def selected? (charset : Iso2022) (s : Selection) : List Char → Option Selection
  | ['$', last] => (charset.set? true last).map fun set => { s with usual := set }
  | ['(', last] => (charset.set? false last).map fun set => { s with usual := set }
  | [')', last] => (charset.set? false last).map fun set => { s with shifted := set }
  | ['.', last] =>
    if charset.hasSingles then (charset.set? false last).map fun set => { s with single := set }
    else none
  | ['$', '(', last] => (charset.set? true last).map fun set => { s with usual := set }
  | ['$', ')', last] => (charset.set? true last).map fun set => { s with shifted := set }
  | [_, _, '\x1b', '$', 'B'] =>
    if charset.hasShifts then none
    else (charset.set? true 'B').map fun set => { s with usual := set }
  | _ => none

/-- How many bytes are kept while a code is incomplete. -/
def patience : Nat := 8

/-- What follows the escape character. -/
def escapeHead (charset : Iso2022) (s : Selection) (bs : List UInt8) : Head × Selection :=
  match bs.map fun b => Char.ofNat b.toNat with
  | [] => (.unfinished, s)
  | next :: rest =>
    if ['(', ')', '$', '.', '&'].contains next then
      match escapeLength? charset 1 (next :: rest) with
      | none => (if bs.length < patience then .unfinished else .fault .endlessEscape, s)
      | some none => (.wrong 1, s)
      | some (some length) => match charset.selected? s ((next :: rest).take (length - 1)) with
        | some s => (.chars length [], s)
        | none => (.wrong length, s)
    else if charset.hasSingles && next = 'N' then match rest with
      | [] => (.unfinished, s)
      | c :: _ => (match s.single with
        | .ascii => if c.toNat < 0x80 then .chars 3 [c] else .wrong 3
        | .latin1 => if c.toNat < 0x80 then .chars 3 [Char.ofNat (c.toNat + 0x80)] else .wrong 3
        | .greek => match Page.iso8859_7.get? (c.toNat ^^^ 0x80) with
          | some c => .chars 3 [c]
          | none => .wrong 3
        | _ => .fault .misplacedSet, s)
    else (.chars 1 ['\x1b'], { s with isUnknown := true })

/-- What stands at the head of bytes under a selection, and the selection behind it. -/
def head (charset : Iso2022) (s : Selection) (b : UInt8) (bs : List UInt8) : Head × Selection :=
  let c := Char.ofNat b.toNat
  if s.isUnknown then (.chars 1 [c], { s with isUnknown := !endsEscape c })
  else if c = '\x1b' then charset.escapeHead s bs
  else if c = '\x0f' && charset.hasShifts then (.chars 1 [], { s with isShifted := false })
  else if c = '\x0e' && charset.hasShifts then (.chars 1 [], { s with isShifted := true })
  else if c = '\n' then (.chars 1 [c], { s with isShifted := false })
  else if b < 0x20 then (.chars 1 [c], s)
  else if 0x80 ≤ b then (.wrong 1, s)
  else
    let set := if s.isShifted then s.shifted else s.usual
    if set.isWide then match bs with
      | [] => (.unfinished, s)
      | trail :: _ => match set.pair? (codeOfPair b.toNat trail.toNat) with
        | some cs => (.chars 2 cs, s)
        | none => (.wrong 2, s)
    else match set.single? b.toNat with
      | some c => (.chars 1 [c], s)
      | none => (.wrong 1, s)

def japanese : Iso2022 := ⟨[.jis, .roman, .jisOld], false, false⟩

def japanese1 : Iso2022 := ⟨[.jis, .jisSupplement, .roman, .jisOld], false, false⟩

def japanese2 : Iso2022 :=
  ⟨[.jis, .jisSupplement, .ks, .gb, .roman, .jisOld, .latin1, .greek], false, true⟩

def japanese3 : Iso2022 := ⟨[.jisFirst .of2000, .jis, .jisSecond .of2000], false, false⟩

def japanese2004 : Iso2022 := ⟨[.jisFirst .of2004, .jis, .jisSecond .of2004], false, false⟩

def japaneseExtended : Iso2022 :=
  ⟨[.jis, .jisSupplement, .roman, .katakana, .jisOld], false, false⟩

def korean : Iso2022 := ⟨[.ks], true, false⟩

end Iso2022

end Charset
end Text
end Arazzo
