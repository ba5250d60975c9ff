import Arazzo.Text.Charset.Chinese.HongKong
import Arazzo.Text.Charset.Chinese.Simplified
import Arazzo.Text.Charset.Chinese.Traditional

/-!
# Chinese charsets

The charsets of the GB family extend one another: the basic set, then every ideograph that it lacks, then
every code point there is, with four bytes if need be. The charsets of the Big5 family change and extend
one basic set.
-/

namespace Arazzo
namespace Text
namespace Charset
namespace Chinese

/-! ## The GB family -/

def isIdeograph (n : Nat) : Bool := 0x4E00 ≤ n && n < 0x9FA6

/-- The ideographs that the basic set lacks, in their order. -/
def gbRemaining : Array Char :=
  let present := gbBasic.foldl (fun marks (_, text) => text.toList.foldl (fun marks c =>
    if isIdeograph c.toNat then marks.setIfInBounds (c.toNat - 0x4E00) true else marks) marks)
    (Array.replicate (0x9FA6 - 0x4E00) false)
  (((List.range present.size).filter fun i => !(present.getD i true)).map fun i =>
    Char.ofNat (0x4E00 + i)).toArray ++ gbkCompatible.toList.toArray

/-- The place of a code among those that the remaining ideographs fill, row by row: the rows before the
basic set, and then the left part of the rows from 0xAA on. -/
def gbPlace? (lead trail : Nat) : Option Nat :=
  if 0x40 ≤ trail ∧ trail < 0xFF ∧ trail ≠ 0x7F then
    let cell := if trail < 0x7F then trail - 0x40 else trail - 0x41
    if 0x81 ≤ lead ∧ lead < 0xA1 then some ((lead - 0x81) * 190 + cell)
    else if 0xAA ≤ lead ∧ lead < 0xFF ∧ trail < 0xA1 then
      some (32 * 190 + (lead - 0xAA) * 96 + cell)
    else none
  else none

/-- The basic set with high bits. -/
def gb2312 : Doubled := .ofPairs fun lead trail => do
  let c ← gbBasic.get? (← sevenBits? lead trail)
  some [c]

/-- The character of a code in the first extension. -/
def gbk? (lead trail : Nat) : Option Char :=
  ((gbkSigns.get? (codeOfPair lead trail)).or ((sevenBits? lead trail).bind gbBasic.get?)).or
    ((gbPlace? lead trail).bind fun place => gbRemaining[place]?)

def gbk : Doubled := .ofPairs fun lead trail => (gbk? lead trail).map ([·])

/-- The place of a code among those that the second extension fills. -/
def gbFilledPlace? (code : Nat) : List (Nat × Nat) → Option Nat
  | [] => none
  | (first, last) :: rest =>
    if first ≤ code ∧ code ≤ last then some (code - first)
    else (gbFilledPlace? code rest).map (· + (last + 1 - first))

/-- The character of a code of two bytes in the second extension: what the first one has, an assigned
character, or a private one. -/
def gb18030Pair? (lead trail : Nat) : Option Char :=
  let code := codeOfPair lead trail
  let privateChar? : Option Nat :=
    if 0xA1 ≤ trail ∧ 0xAA ≤ lead ∧ lead ≤ 0xAF then some (0xE000 + (lead - 0xAA) * 94 + (trail - 0xA1))
    else if 0xA1 ≤ trail ∧ 0xF8 ≤ lead ∧ lead < 0xFF then some (0xE234 + (lead - 0xF8) * 94 + (trail - 0xA1))
    else if 0xA1 ≤ lead ∧ lead ≤ 0xA7 ∧ 0x40 ≤ trail ∧ trail < 0xA1 ∧ trail ≠ 0x7F then
      some (0xE4C6 + (lead - 0xA1) * 96 + (trail - if trail < 0x7F then 0x40 else 0x41))
    else (gbFilledPlace? code gbFilled).map (0xE766 + ·)
  if trail = 0xFF then none
  else ((gbk? lead trail).or (gbAssigned.get? code)).or (privateChar?.map Char.ofNat)

/-- The code point with a number among the codes of four bytes: those of the basic plane that have no
shorter code in their order, and those beyond it. -/
def gbFourByte? (number : Nat) : Option Char :=
  if number < 39420 then
    (gbFourByte.findRev? fun run => run.1 ≤ number).map fun (start, first) =>
      Char.ofNat (first + (number - start))
  else if 189000 ≤ number ∧ number < 189000 + 0x100000 then
    some (Char.ofNat (0x10000 + (number - 189000)))
  else none

/-- The second extension: four bytes if the second one is a digit, and else two. -/
def gb18030 (b : UInt8) (bs : List UInt8) : Head :=
  if b < 0x80 then .chars 1 [Char.ofNat b.toNat]
  else match bs with
    | [] => .unfinished
    | second :: rest =>
      if 0x30 ≤ second ∧ second ≤ 0x39 then match rest with
        | third :: fourth :: _ =>
          if 0x81 ≤ b ∧ b ≠ 0xFF ∧ 0x81 ≤ third ∧ third ≠ 0xFF ∧ 0x30 ≤ fourth ∧ fourth ≤ 0x39 then
            match gbFourByte? ((((b.toNat - 0x81) * 10 + (second.toNat - 0x30)) * 126 +
              (third.toNat - 0x81)) * 10 + (fourth.toNat - 0x30)) with
            | some c => .chars 4 [c]
            | none => .wrong 1
          else .wrong 1
        | _ => .unfinished
      else match gb18030Pair? b.toNat second.toNat with
        | some c => .chars 2 [c]
        | none => .wrong 1

/-- The basic set in seven bits, switched on and off by escapes that a tilde begins. -/
def gbEscaped (wide : Bool) (b : UInt8) (bs : List UInt8) : Head × Bool :=
  let c := Char.ofNat b.toNat
  if c = '~' then match bs with
    | [] => (.unfinished, wide)
    | next :: _ => match wide, Char.ofNat next.toNat with
      | false, '~' => (.chars 2 ['~'], wide)
      | false, '\x7b' => (.chars 2 [], true)
      | false, '\n' => (.chars 2 [], wide)
      | true, '\x7d' => (.chars 2 [], false)
      | _, _ => (.wrong 1, wide)
  else if 0x80 ≤ b then (.wrong 1, wide)
  else if wide then match bs with
    | [] => (.unfinished, wide)
    | trail :: _ => match gbBasic.get? (codeOfPair b.toNat trail.toNat) with
      | some c => (.chars 2 [c], wide)
      | none => (.wrong 1, wide)
  else (.chars 1 [c], wide)

/-! ## The Big5 family -/

def big5 : Doubled := .ofPairs fun lead trail =>
  (big5Basic.get? (codeOfPair lead trail)).map ([·])

def codePage950 : Doubled := .ofPairs fun lead trail =>
  (Runs.firstOf? [big5Vendor, big5Basic] (codeOfPair lead trail)).map ([·])

/-- Big5 with the supplement of Hong Kong. -/
def hongKong : Doubled := .ofPairs fun lead trail =>
  let code := codeOfPair lead trail
  match big5Pairs.lookup code with
  | some text => some text.toList
  | none =>
    if big5Dropped.contains code then none
    else (Runs.firstOf? [big5HongKong, big5Basic] code).map ([·])

end Chinese
end Charset
end Text
end Arazzo
