/-!
# Surrogates

A text may hold one half of a surrogate pair: escapes can spell it, though it is no character. The
private characters from U+10D800 on stand for the 2048 halves, so that a text stays a list of characters.
A text with a half in it has no UTF-8 form.
-/

namespace Arazzo
namespace Text

/-- Whether a number is that of a half. -/
def isHalf (code : Nat) : Bool := 0xD800 ≤ code && code < 0xE000

/-- What is added to the number of a half to give the number of the character that stands for it. -/
def halfShift : Nat := 0x100000

/-- The character that a number stands for, or the one that stands for a half. -/
def ofCode (code : Nat) : Char := Char.ofNat (if isHalf code then code + halfShift else code)

/-- Whether a character stands for a half. -/
def isLent (c : Char) : Bool := halfShift ≤ c.toNat && isHalf (c.toNat - halfShift)

/-- The number of a character, or of the half that it stands for. -/
def codeOf (c : Char) : Nat := if isLent c then c.toNat - halfShift else c.toNat

/-- Whether a text has a UTF-8 form. -/
def isEncodable (cs : List Char) : Bool := !cs.any isLent

/-- The characters of code points and two-byte units: halves that make a pair are joined. -/
def joinUnits : List Nat → List Char
  | [] => []
  | [u] => [ofCode u]
  | u :: v :: rest =>
    if 0xD800 ≤ u ∧ u < 0xDC00 ∧ 0xDC00 ≤ v ∧ v < 0xE000 then
      Char.ofNat (0x10000 + (u - 0xD800) * 1024 + (v - 0xDC00)) :: joinUnits rest
    else ofCode u :: joinUnits (v :: rest)

end Text
end Arazzo
