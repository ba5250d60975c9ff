import Arazzo.Text.Surrogate

/-!
# Text as bytes

The UTF-8 form of a text and the readers of UTF-8, UTF-16, UTF-32 and Latin-1. The UTF-8 reader
marks every malformed stretch, the longest beginning of a well-formed sequence or a single byte,
so that a strict and a lenient reading are two views of one result.
-/

namespace Arazzo
namespace Text

/-- The character that stands for what could not be read. -/
def replacement : Char := '\uFFFD'

/-- The UTF-8 bytes of a code point. -/
def utf8Char (c : Char) : List UInt8 :=
  let n := c.toNat
  let tail (shift : Nat) : UInt8 := UInt8.ofNat (0x80 + (n >>> shift) % 64)
  if n < 0x80 then [UInt8.ofNat n]
  else if n < 0x800 then [UInt8.ofNat (0xC0 + n / 64), tail 0]
  else if n < 0x10000 then [UInt8.ofNat (0xE0 + n / 4096), tail 6, tail 0]
  else [UInt8.ofNat (0xF0 + n / 262144), tail 12, tail 6, tail 0]

def utf8 (cs : List Char) : List UInt8 := cs.flatMap utf8Char

def utf8String (s : String) : List UInt8 := utf8 s.toList

/-- An unfinished UTF-8 sequence: how many bytes are owed, the range of the next one and the bits
read so far. -/
structure Pending where
  owed : Nat
  low : Nat
  high : Nat
  bits : Nat

/-- How a sequence goes on after its first byte: finished, unfinished or impossible. -/
def utf8First (b : Nat) : Option (Char ⊕ Pending) :=
  if b < 0x80 then some (.inl (Char.ofNat b))
  else if b < 0xC2 then none
  else if b < 0xE0 then some (.inr ⟨1, 0x80, 0xBF, b - 0xC0⟩)
  else if b = 0xE0 then some (.inr ⟨2, 0xA0, 0xBF, 0⟩)
  else if b = 0xED then some (.inr ⟨2, 0x80, 0x9F, 0xD⟩)
  else if b < 0xF0 then some (.inr ⟨2, 0x80, 0xBF, b - 0xE0⟩)
  else if b = 0xF0 then some (.inr ⟨3, 0x90, 0xBF, 0⟩)
  else if b < 0xF4 then some (.inr ⟨3, 0x80, 0xBF, b - 0xF0⟩)
  else if b = 0xF4 then some (.inr ⟨3, 0x80, 0x8F, 4⟩)
  else none

/-- The characters of a UTF-8 byte sequence, with nothing in the place of each malformed stretch. -/
def utf8Items : Option Pending → List UInt8 → List (Option Char)
  | none, [] => []
  | some _, [] => [none]
  | pending, b :: bs =>
    let n := b.toNat
    let start (_ : Unit) : List (Option Char) := match utf8First n with
      | none => none :: utf8Items none bs
      | some (.inl c) => some c :: utf8Items none bs
      | some (.inr next) => utf8Items (some next) bs
    match pending with
    | none => start ()
    | some p =>
      if p.low ≤ n ∧ n ≤ p.high then
        let bits := p.bits * 64 + n % 64
        if p.owed ≤ 1 then some (Char.ofNat bits) :: utf8Items none bs
        else utf8Items (some ⟨p.owed - 1, 0x80, 0xBF, bits⟩) bs
      else none :: start ()

/-- The text of a well-formed UTF-8 byte sequence. -/
def readUtf8? (bytes : List UInt8) : Option (List Char) := (utf8Items none bytes).mapM id

/-- The text of a byte sequence, a replacement character for each malformed stretch. -/
def readUtf8 (bytes : List UInt8) : List Char :=
  (utf8Items none bytes).map fun item => item.getD replacement

/-- The text of UTF-8 bytes in which halves of pairs may have three bytes of their own; halves side by
side are not joined. -/
def readWithHalves? : List UInt8 → Option (List Char) :=
  fun bytes => go [] bytes
where
  /-- Gathers bytes, the last one first, until a half follows. -/
  go (before : List UInt8) : List UInt8 → Option (List Char)
    | a :: b :: c :: rest =>
      if a = 0xED ∧ 0xA0 ≤ b ∧ b ≤ 0xBF ∧ 0x80 ≤ c ∧ c ≤ 0xBF then do
        let cs ← readUtf8? before.reverse
        let more ← go [] rest
        some (cs ++ ofCode (0xD000 + b.toNat % 64 * 64 + c.toNat % 64) :: more)
      else go (a :: before) (b :: c :: rest)
    | bytes => readUtf8? (before.reverse ++ bytes)

/-- Two-byte units, most significant byte first if `big`. -/
def units16? (big : Bool) : List UInt8 → Option (List Nat)
  | [] => some []
  | [_] => none
  | a :: b :: rest =>
    (units16? big rest).map ((if big then a.toNat * 256 + b.toNat else b.toNat * 256 + a.toNat) :: ·)

def readUtf16? (big : Bool) (bytes : List UInt8) : Option (List Char) :=
  (units16? big bytes).map joinUnits

/-- Four-byte units, most significant byte first if `big`. -/
def readUtf32? (big : Bool) : List UInt8 → Option (List Char)
  | [] => some []
  | a :: b :: c :: d :: rest => do
    let weigh (w x y z : UInt8) := ((w.toNat * 256 + x.toNat) * 256 + y.toNat) * 256 + z.toNat
    let n := if big then weigh a b c d else weigh d c b a
    let cs ← readUtf32? big rest
    if n < 0x110000 then some (ofCode n :: cs) else none
  | _ => none

def readLatin1 (bytes : List UInt8) : List Char := bytes.map fun b => Char.ofNat b.toNat

/-- The byte order marks, the longer ones first, and the readers of what stands behind them. -/
def marks : List (List UInt8 × (List UInt8 → Option (List Char))) :=
  [([0x00, 0x00, 0xFE, 0xFF], readUtf32? true), ([0xFF, 0xFE, 0x00, 0x00], readUtf32? false),
   ([0xFE, 0xFF], readUtf16? true), ([0xFF, 0xFE], readUtf16? false),
   ([0xEF, 0xBB, 0xBF], readWithHalves?)]

/-- The text of a byte sequence without a mark, in the encoding that the place of the zero bytes gives
away. -/
def readUnmarked? (bytes : List UInt8) : Option (List Char) :=
  let plain := readWithHalves? bytes
  match bytes with
  | [a, b] => if a = 0 then readUtf16? true bytes else if b = 0 then readUtf16? false bytes else plain
  | a :: b :: c :: d :: _ =>
    if a = 0 then if b = 0 then readUtf32? true bytes else readUtf16? true bytes
    else if b = 0 then
      if c = 0 ∧ d = 0 then readUtf32? false bytes else readUtf16? false bytes
    else plain
  | _ => plain

/-- The text of a byte sequence in the Unicode encoding that its first bytes give away: a byte
order mark, or the place of the zero bytes. -/
def readUnicode? (bytes : List UInt8) : Option (List Char) :=
  match marks.find? fun mark => mark.1.isPrefixOf bytes with
  | some (mark, read) => read (bytes.drop mark.length)
  | none => readUnmarked? bytes

end Text
end Arazzo
