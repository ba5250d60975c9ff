import Arazzo.Text.Charset.Japanese.Basic
import Arazzo.Text.Charset.Japanese.Extended
import Arazzo.Text.Charset.Japanese.Supplement

/-!
# Japanese charsets

The sets of JIS are grids of 94 rows of 94 cells, and a code is a row and a cell, both from 0x21 on. One
family of charsets packs two rows into a lead byte, the other sets the high bits and has prefixes for
the supplementary set and for narrow katakana.
-/

namespace Arazzo
namespace Text
namespace Charset
namespace Japanese

/-- The katakana of half width that a byte stands for. -/
def narrowKatakana? (n : Nat) : Option Char :=
  if 0xA1 ≤ n ∧ n ≤ 0xDF then some (Char.ofNat (0xFEC0 + n)) else none

/-- A code that two bytes spell of which the lead stands for two rows. -/
def unpacked? (lead trail : Nat) : Option Nat :=
  if 0x40 ≤ trail ∧ trail ≤ 0xFC ∧ trail ≠ 0x7F then
    let rows? := if 0x81 ≤ lead ∧ lead < 0xA0 then some (lead - 0x81)
      else if 0xE0 ≤ lead ∧ lead ≤ 0xFC then some (lead - 0xC1) else none
    let cell := if trail < 0x7F then trail - 0x40 else trail - 0x41
    rows?.map fun rows => codeOfPair (0x21 + 2 * rows + cell / 94) (0x21 + cell % 94)
  else none

/-- The number of the row of a code, counted from 1. -/
def rowOf (code : Nat) : Nat := code / 256 - 0x20

/-- The basic set in packed rows. -/
def shiftJis : Doubled where
  single n := (asciiChar? n).or (narrowKatakana? n)
  isLead n := (0x81 ≤ n && n < 0xA0) || (0xE0 ≤ n && n < 0xEB)
  pair lead trail := do
    let c ← jisBasic.get? (← unpacked? lead trail)
    some [c]

/-- The basic set in packed rows with the characters of vendors and private characters. -/
def codePage932 : Doubled where
  single n :=
    if n ≤ 0x80 then some (Char.ofNat n)
    else if n = 0xA0 then some (Char.ofNat 0xF8F0)
    else if 0xFD ≤ n then some (Char.ofNat (0xF8F1 + (n - 0xFD)))
    else narrowKatakana? n
  isLead _ := true
  pair lead trail := do
    let code ← unpacked? lead trail
    if 95 ≤ rowOf code ∧ rowOf code < 115 then
      some [Char.ofNat (0xE000 + (rowOf code - 95) * 94 + (code % 256 - 0x21))]
    else
      let c ← Runs.firstOf? [jisVendor, jisBasic] code
      some [c]

/-- An edition of the extended set. -/
inductive Edition where
  | of2000
  | of2004
deriving DecidableEq, Repr

/-- The codes of the first plane that the edition of 2000 lacks. -/
def codesSince2004 : List Nat :=
  [0x2E21, 0x2F7E, 0x4F54, 0x4F7E, 0x7427, 0x7E7A, 0x7E7B, 0x7E7C, 0x7E7D, 0x7E7E]

/-- Whether an edition lacks a code of the first plane. -/
def Edition.lacks (edition : Edition) (code : Nat) : Bool :=
  edition = .of2000 && codesSince2004.contains code

/-- The text of a code of the first plane. -/
def firstPlane? (code : Nat) : Option (List Char) :=
  match Runs.firstOf? [jisBasic, jisFirstPlane] code with
  | some c => some [c]
  | none => (jisPairs.lookup code).map String.toList

/-- The character of a code of the second plane. -/
def Edition.secondPlane? (edition : Edition) (code : Nat) : Option Char :=
  if edition = .of2000 ∧ code = 0x7D3B then some '鬝' else jisSecondPlane.get? code

/-- The rows of the second plane in packed form. -/
def packedRows : List Nat := [1, 8, 3, 4, 5, 12, 13, 14, 15] ++ (List.range 17).map (78 + ·)

/-- The text of a packed code of the extended set. -/
def Edition.packed? (edition : Edition) (code : Nat) : Option (List Char) :=
  if rowOf code < 95 then
    if code = 0x2140 then some ['\\'] else if code = 0x2232 then some ['~'] else firstPlane? code
  else do
    let row ← packedRows[rowOf code - 95]?
    let c ← edition.secondPlane? (codeOfPair (0x20 + row) (code % 256))
    some [c]

/-- ASCII with the signs of yen and overline. -/
def romanChar? (n : Nat) : Option Char :=
  if n = 0x5C then some '¥' else if n = 0x7E then some '‾' else asciiChar? n

/-- The extended set in packed rows. A code that came with the later edition counts as two wrong bytes. -/
def Edition.packedHead (edition : Edition) (b : UInt8) (bs : List UInt8) : Head :=
  let plain : Doubled :=
    { single := fun n => (romanChar? n).or (narrowKatakana? n)
      isLead := fun n => (0x81 ≤ n && n < 0xA0) || (0xE0 ≤ n && n ≤ 0xFC)
      pair := fun lead trail => (unpacked? lead trail).bind edition.packed? }
  match bs.head?.bind fun trail => unpacked? b.toNat trail.toNat with
  | some code => if edition.lacks code then .wrong 2 else plain.head b bs
  | none => plain.head b bs

/-- A head of two bytes with high bits, of narrow katakana behind one prefix, or of two bytes of a
supplementary set behind another. -/
def prefixedHead (basic : Nat → Head) (supplement : Nat → Option Char) (b : UInt8)
    (bs : List UInt8) : Head :=
  if b < 0x80 then .chars 1 [Char.ofNat b.toNat]
  else if b = 0x8F then match bs with
    | lead :: trail :: _ =>
      match (sevenBits? lead.toNat trail.toNat).bind supplement with
      | some c => .chars 3 [c]
      | none => .wrong 1
    | _ => .unfinished
  else match bs with
    | [] => .unfinished
    | trail :: _ =>
      if b = 0x8E then match narrowKatakana? trail.toNat with
        | some c => .chars 2 [c]
        | none => .wrong 1
      else match sevenBits? b.toNat trail.toNat with
        | some code => basic code
        | none => .wrong 1

/-- A head of two bytes that spell a text, or of one wrong byte. -/
def pairHead (text? : Option (List Char)) : Head :=
  match text? with
  | some cs => .chars 2 cs
  | none => .wrong 1

/-- The basic and the supplementary set with high bits. -/
def eucJapanese : UInt8 → List UInt8 → Head :=
  prefixedHead (fun code => pairHead ((jisBasic.get? code).map ([·]))) jisSupplement.get?

/-- The extended set with high bits; its second plane shares a prefix with the supplementary set. -/
def Edition.eucHead (edition : Edition) : UInt8 → List UInt8 → Head :=
  prefixedHead
    (fun code => if edition.lacks code then .wrong 2 else pairHead (firstPlane? code))
    fun code => (edition.secondPlane? code).or (jisSupplement.get? code)

end Japanese
end Charset
end Text
end Arazzo
