/-!
# Base 64

Three bytes are written as four characters of an alphabet of sixty-four; equals signs fill up the
last group.
-/

namespace Arazzo
namespace Text

def base64Alphabet : List Char :=
  "ABCDEFGHIJKLMNOPQRSTUVWXYZabcdefghijklmnopqrstuvwxyz0123456789+/".toList

def base64Digit (n : Nat) : Char := base64Alphabet.getD (n % 64) '='

def base64 : List UInt8 → List Char
  | [] => []
  | [a] => [base64Digit (a.toNat / 4), base64Digit (a.toNat * 16), '=', '=']
  | [a, b] =>
    let n := a.toNat * 256 + b.toNat
    [base64Digit (n / 1024), base64Digit (n / 16), base64Digit (n * 4), '=']
  | a :: b :: c :: rest =>
    let n := (a.toNat * 256 + b.toNat) * 256 + c.toNat
    base64Digit (n / 262144) :: base64Digit (n / 4096) :: base64Digit (n / 64) :: base64Digit n ::
      base64 rest

/-- The value of a character of the alphabet. -/
def base64Value? (c : Char) : Option Nat := base64Alphabet.findIdx? (· = c)

/-- The bytes of a text of whole groups; at most two equals signs may end the last one. -/
def readBase64? : List Char → Option (List UInt8)
  | [] => some []
  | [a, b, '=', '='] => do
    let n := (← base64Value? a) * 64 + (← base64Value? b)
    some [UInt8.ofNat (n / 16)]
  | [a, b, c, '='] => do
    let n := ((← base64Value? a) * 64 + (← base64Value? b)) * 64 + (← base64Value? c)
    some [UInt8.ofNat (n / 1024), UInt8.ofNat (n / 4)]
  | a :: b :: c :: d :: rest => do
    let n := (((← base64Value? a) * 64 + (← base64Value? b)) * 64 + (← base64Value? c)) * 64 +
      (← base64Value? d)
    let bytes ← readBase64? rest
    some (UInt8.ofNat (n / 65536) :: UInt8.ofNat (n / 256) :: UInt8.ofNat n :: bytes)
  | _ => none

/-- The bytes of a text in which characters outside the alphabet do not count. `filled` characters of
the last group have been read, with `bits` left over, and `pads` equals signs behind them; when the
group is full the rest does not count. -/
def looseBytes : (filled bits pads : Nat) → List Char → Option (List UInt8)
  | filled, _, _, [] => if filled = 0 then some [] else none
  | filled, bits, pads, c :: cs =>
    if c = '=' then
      if filled < 2 then looseBytes filled bits pads cs
      else if 4 ≤ filled + pads + 1 then some []
      else looseBytes filled bits (pads + 1) cs
    else match base64Value? c with
      | none => looseBytes filled bits pads cs
      | some d => match filled with
        | 0 => looseBytes 1 d 0 cs
        | 1 => (looseBytes 2 (d % 16) 0 cs).map (UInt8.ofNat (bits * 4 + d / 16) :: ·)
        | 2 => (looseBytes 3 (d % 4) 0 cs).map (UInt8.ofNat (bits * 16 + d / 4) :: ·)
        | _ => (looseBytes 0 0 0 cs).map (UInt8.ofNat (bits * 64 + d) :: ·)

def readLooseBase64? (cs : List Char) : Option (List UInt8) := looseBytes 0 0 0 cs

end Text
end Arazzo
