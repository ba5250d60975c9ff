import Arazzo.Http.Coding.Inflate

/-!
# Containers of compressed data

Compressed data may stand in one of two containers: one with a short header and a sum behind the data,
and one with a longer header, which may name a file, and a cyclic check and the length of the output
behind the data. What follows the container does not count.
-/

namespace Arazzo
namespace Inflate

/-! ## Checks -/

/-- The modulus of the sums. -/
def sumModulus : Nat := 65521

/-- Two sums over bytes, of the bytes and of the sums. -/
def adler32 (bytes : Array UInt8) : Nat :=
  let (a, b) := bytes.foldl (fun (a, b) byte =>
    let a := (a + byte.toNat) % sumModulus
    (a, (b + a) % sumModulus)) (1, 0)
  b * 65536 + a

/-- Divides by the polynomial of the cyclic check, one bit at a time. -/
def crcBits : Nat → UInt32 → UInt32
  | 0, r => r
  | count + 1, r => crcBits count (if r % 2 = 1 then (r >>> 1) ^^^ 0xEDB88320 else r >>> 1)

/-- The cyclic check over bytes. -/
def crc32 (bytes : Array UInt8) : Nat :=
  ((bytes.foldl (fun r byte => crcBits 8 (r ^^^ byte.toUInt32)) 0xFFFFFFFF) ^^^ 0xFFFFFFFF).toNat

/-! ## The short container -/

/-- A number of four bytes, the highest first. -/
def bigNumber : Reading Nat := do
  let a ← number 8
  let b ← number 8
  let c ← number 8
  let d ← number 8
  return ((a * 256 + b) * 256 + c) * 256 + d

/-- The method that the headers name. -/
def deflateMethod : Nat := 8

def zlib : Reading Unit := do
  let low ← number 8
  let high ← number 8
  if (low * 256 + high) % 31 ≠ 0 then flawed .header
  if low % 16 ≠ deflateMethod then flawed .method
  if 7 < low / 16 then flawed .window
  if high / 32 % 2 = 1 then
    let _ ← bigNumber
    flawed .dictionary
  body
  if (← bigNumber) ≠ adler32 (← get).output then flawed .dataCheck

/-! ## The long container -/

/-- Whether a flag of the header is set, given its weight. -/
def hasFlag (flags weight : Nat) : Bool := flags / weight % 2 = 1

def skipBytes : Nat → Reading Unit
  | 0 => return
  | count + 1 => do
    let _ ← number 8
    skipBytes count

/-- Passes a text up to the zero behind it. -/
def skipText : Nat → Reading Unit
  | 0 => throw .brokenOff
  | fuel + 1 => do if (← number 8) ≠ 0 then skipText fuel

def gzip : Reading Unit := do
  if (← number 16) ≠ 0x8B1F then flawed .header
  let method ← number 8
  let flags ← number 8
  if method ≠ deflateMethod then flawed .method
  if 32 ≤ flags then flawed .headerFlags
  skipBytes 6
  let size := (← get).data.size
  if hasFlag flags 4 then skipBytes (← number 16)
  if hasFlag flags 8 then skipText (size + 1)
  if hasFlag flags 16 then skipText (size + 1)
  if hasFlag flags 2 then
    let p ← get
    let check := crc32 (p.data.extract 0 (p.bits / 8)) % 65536
    if (← number 16) ≠ check then flawed .headerCheck
  body
  if (← number 32) ≠ crc32 (← get).output then flawed .dataCheck
  if (← number 32) ≠ (← get).output.size % 4294967296 then flawed .lengthCheck

end Inflate
end Arazzo
