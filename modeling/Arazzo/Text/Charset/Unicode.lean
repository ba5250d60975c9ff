import Arazzo.Text.Charset.Reading
import Arazzo.Text.Class
import Arazzo.Text.Punycode
import Arazzo.Text.Surrogate

/-!
# Unicode in units, escapes and base 64

Text in units of two and four bytes, text in which escapes name characters, and text in which base 64
holds units of two bytes. A half of a pair is refused where the form provides for pairs, and else kept.
-/

namespace Arazzo
namespace Text
namespace Charset

/-! ## Units of two and four bytes -/

/-- The number of two bytes, the most significant one first if `big`. -/
def unitOf (big : Bool) (a b : UInt8) : Nat :=
  if big then a.toNat * 256 + b.toNat else b.toNat * 256 + a.toNat

/-- A unit, or a pair of halves. -/
def head16 (big : Bool) (a : UInt8) (bs : List UInt8) : Head :=
  match bs with
  | [] => .unfinished
  | b :: rest =>
    let u := unitOf big a b
    if u < 0xD800 ∨ 0xE000 ≤ u then .chars 2 [Char.ofNat u]
    else if 0xDC00 ≤ u then .wrong 2
    else match rest with
      | c :: d :: _ =>
        let v := unitOf big c d
        if 0xDC00 ≤ v ∧ v < 0xE000 then
          .chars 4 [Char.ofNat (0x10000 + (u - 0xD800) * 1024 + (v - 0xDC00))]
        else .wrong 2
      | _ => .unfinished

def head32 (big : Bool) (a : UInt8) (bs : List UInt8) : Head :=
  match bs with
  | b :: c :: d :: _ =>
    let n := if big then unitOf true a b * 65536 + unitOf true c d
      else unitOf false c d * 65536 + unitOf false a b
    if n < 0x110000 ∧ ¬isHalf n then .chars 4 [Char.ofNat n] else .wrong 4
  | _ => .unfinished

/-- Units of two bytes whose order a mark in front tells. -/
def readMarked16 (bytes : List UInt8) : Reading :=
  match bytes with
  | 0xFE :: 0xFF :: rest => readHeads (head16 true) rest
  | 0xFF :: 0xFE :: rest => readHeads (head16 false) rest
  | _ :: _ :: _ => .error .unmarked
  | _ => readHeads (head16 false) bytes

/-- Units of four bytes whose order a mark in front tells. -/
def readMarked32 (bytes : List UInt8) : Reading :=
  match bytes with
  | 0x00 :: 0x00 :: 0xFE :: 0xFF :: rest => readHeads (head32 true) rest
  | 0xFF :: 0xFE :: 0x00 :: 0x00 :: rest => readHeads (head32 false) rest
  | _ :: _ :: _ :: _ :: _ => .error .unmarked
  | _ => readHeads (head32 false) bytes

/-! ## Escapes -/

/-- The number of some hexadecimal digits, or how many of them there are. -/
def hexNumber? : Nat → Nat → List Char → Except Nat Nat
  | 0, n, _ => .ok n
  | _ + 1, _, [] => .error 0
  | count + 1, n, c :: cs => match hexDigit? c with
    | some d => match hexNumber? count (n * 16 + d) cs with
      | .ok n => .ok n
      | .error read => .error (read + 1)
    | none => .error 0

/-- A backslash, a letter and hexadecimal digits. -/
def hexHead (count : Nat) (digits : List Char) : Head :=
  match hexNumber? count 0 digits with
  | .ok n => if n < 0x110000 then .chars (2 + count) [ofCode n] else .wrong (2 + count)
  | .error read => .wrong (2 + read)

/-- Octal digits, three at most. -/
def octalDigits (cs : List Char) : List Char :=
  (cs.take 3).takeWhile fun c => '0' ≤ c && c ≤ '7'

/-- The characters that a letter behind a backslash stands for. -/
def plainEscapes : List (Char × List Char) :=
  [('\n', []), ('\\', ['\\']), ('\x27', ['\x27']), ('\x22', ['\x22']), ('b', ['\x08']), ('t', ['\t']),
   ('n', ['\n']), ('r', ['\r']), ('f', ['\x0c']), ('v', ['\x0b']), ('a', ['\x07'])]

/-- How many bytes the malformed or unknown name of a character takes, behind the backslash and the letter. -/
def nameLength (cs : List Char) : Nat :=
  match cs with
  | '\x7b' :: rest =>
    let name := rest.takeWhile (· ≠ '\x7d')
    if name.length < rest.length ∧ name.isEmpty then 1 else 2 + name.length
  | _ => 0

/-- What a backslash and the characters behind it stand for. -/
def escapeHead (cs : List Char) : Head :=
  match cs with
  | [] => .unfinished
  | c :: rest =>
    match plainEscapes.lookup c with
    | some text => .chars 2 text
    | none =>
      if !(octalDigits cs).isEmpty then
        let digits := octalDigits cs
        .chars (1 + digits.length)
          [Char.ofNat (digits.foldl (fun n d => n * 8 + (d.toNat - 0x30)) 0)]
      else match c with
        | 'x' => hexHead 2 rest
        | 'u' => hexHead 4 rest
        | 'U' => hexHead 8 rest
        | 'N' => .wrong (2 + nameLength rest)
        | _ => .chars 2 ['\\', c]

/-- Latin-1 with escapes for all other characters. -/
def escapedHead (b : UInt8) (bs : List UInt8) : Head :=
  if b = 0x5C then escapeHead (bs.map fun b => Char.ofNat b.toNat)
  else .chars 1 [Char.ofNat b.toNat]

/-- Latin-1 in which only code points are escaped. -/
def codePointHead (b : UInt8) (bs : List UInt8) : Head :=
  if b = 0x5C then match bs.map fun b => Char.ofNat b.toNat with
    | 'u' :: rest => hexHead 4 rest
    | 'U' :: rest => hexHead 8 rest
    | c :: _ => .chars 2 ['\\', c]
    | [] => .chars 1 ['\\']
  else .chars 1 [Char.ofNat b.toNat]

/-! ## Base 64 -/

/-- The value of a digit in base 64. -/
def sixBits? (n : Nat) : Option Nat :=
  if 0x41 ≤ n ∧ n ≤ 0x5A then some (n - 0x41)
  else if 0x61 ≤ n ∧ n ≤ 0x7A then some (n - 0x61 + 26)
  else if 0x30 ≤ n ∧ n ≤ 0x39 then some (n - 0x30 + 52)
  else if n = 0x2B then some 62
  else if n = 0x2F then some 63
  else none

/-- A stretch of base 64 under way: how many bits are left over, their number, and a first half. -/
structure Stretch where
  count : Nat
  bits : Nat
  half : Option Nat

def Stretch.start : Stretch := ⟨0, 0, none⟩

/-- The stretch after another digit, and the characters that are complete with it. -/
def Stretch.next (s : Stretch) (digit : Nat) : List Char × Stretch :=
  let bits := s.bits * 64 + digit
  let count := s.count + 6
  if count < 16 then ([], { s with count := count, bits := bits })
  else
    let weight := Nat.pow 2 (count - 16)
    let u := bits / weight
    let left (half : Option Nat) : Stretch := ⟨count - 16, bits % weight, half⟩
    let isFirst := 0xD800 ≤ u ∧ u < 0xDC00
    match s.half with
    | some h =>
      if 0xDC00 ≤ u ∧ u < 0xE000 then
        ([Char.ofNat (0x10000 + (h - 0xD800) * 1024 + (u - 0xDC00))], left none)
      else if isFirst then ([ofCode h], left (some u)) else ([ofCode h, ofCode u], left none)
    | none => if isFirst then ([], left (some u)) else ([ofCode u], left none)

/-- Whether a stretch may not end here. -/
def Stretch.isOpen (s : Stretch) : Bool := 6 ≤ s.count || s.bits != 0

/-- ASCII with stretches of base 64 that a plus sign begins. -/
def head7 (stretch : Option Stretch) (b : UInt8) (bs : List UInt8) : Head × Option Stretch :=
  let c := Char.ofNat b.toNat
  let plain : Head × Option Stretch :=
    if b = 0x2B then match bs with
      | next :: _ =>
        if next = 0x2D then (.chars 2 ['+'], none)
        else if (sixBits? next.toNat).isSome then (.chars 1 [], some .start)
        else (.wrong 2, none)
      | [] => (.chars 1 [], some .start)
    else if b < 0x80 then (.chars 1 [c], none)
    else (.wrong 1, none)
  match stretch with
  | none => plain
  | some s => match sixBits? b.toNat with
    | some digit =>
      let (cs, s) := s.next digit
      let isCutOff := bs.isEmpty && (s.half.isSome || s.isOpen)
      (.read 1 (cs.map some ++ if isCutOff then [none] else []), some s)
    | none =>
      if s.isOpen then (.wrong 1, none)
      else
        let half := (s.half.map ofCode).toList
        if c = '-' then (.chars 1 half, none)
        else if b < 0x80 then (.chars 1 (half ++ [c]), none)
        else plain

/-! ## Punycode -/

/-- A text whose wide characters a numeral behind the last hyphen spells. The numeral must be ASCII. -/
def readPunycode (bytes : List UInt8) : Reading :=
  let cs := bytes.map fun b => Char.ofNat b.toNat
  let (_, digits) := Punycode.cutBasic cs
  if digits.any fun c => 0x80 ≤ c.toNat then .error .notAscii
  else .ok ((Punycode.readLoose (cs.map fun c => if c.toNat < 0x80 then c else '\uFFFD')).map
    fun n => some (ofCode n))

end Charset
end Text
end Arazzo
