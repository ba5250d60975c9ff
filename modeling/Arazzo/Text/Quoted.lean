import Arazzo.Text.Printable
import Arazzo.Text.Surrogate

/-!
# Quoted display of a text

How a text is shown inside a message: between apostrophes, or between quotation marks if it holds
an apostrophe and no quotation mark; the delimiter and the backslash are escaped, and so is every
character without a visible form. An escape has the digits of a number in base sixteen: with a fixed
width there is one digit for each power, and each digit reads as its value.
-/

namespace Arazzo
namespace Text

/-- The lower-case digits of a number in base sixteen, at least `width` of them. -/
def hex (width n : Nat) : List Char :=
  let digits := Nat.toDigits 16 n
  List.replicate (width - digits.length) '0' ++ digits

/-- The same with capitals. -/
def hexUpper (width n : Nat) : List Char := (hex width n).map Char.toUpper

theorem hex_one {n : Nat} (h : n < 16) : hex 1 n = [Nat.digitChar n] := by
  simp [hex, Nat.toDigits_of_lt_base h]

/-- The last digit is that of the remainder. -/
theorem hex_succ {width : Nat} (hwidth : 0 < width) (n : Nat) :
    hex (width + 1) n = hex width (n / 16) ++ [Nat.digitChar (n % 16)] := by
  by_cases hn : n < 16
  · have hquotient : n / 16 = 0 := Nat.div_eq_of_lt hn
    have hremainder : n % 16 = n := Nat.mod_eq_of_lt hn
    have hzeros : List.replicate width '0' = List.replicate (width - 1) '0' ++ ['0'] := by
      rw [← List.replicate_succ', Nat.sub_add_cancel hwidth]
    simp [hex, Nat.toDigits_of_lt_base hn, hquotient, hremainder, hzeros]
  · have hlength : width + 1 - ((Nat.toDigits 16 (n / 16)).length + 1) =
        width - (Nat.toDigits 16 (n / 16)).length := by omega
    simp [hex, Nat.toDigits_of_base_le (by decide : 1 < 16) (Nat.not_lt.mp hn), hlength]

theorem hex_two {n : Nat} (h : n < 0x100) :
    hex 2 n = [Nat.digitChar (n / 16), Nat.digitChar (n % 16)] := by
  rw [hex_succ (by decide), hex_one (by omega)]
  rfl

theorem hex_four {n : Nat} (h : n < 0x10000) :
    hex 4 n = [Nat.digitChar (n / 16 / 16 / 16), Nat.digitChar (n / 16 / 16 % 16),
      Nat.digitChar (n / 16 % 16), Nat.digitChar (n % 16)] := by
  rw [hex_succ (by decide), hex_succ (by decide), hex_succ (by decide), hex_one (by omega)]
  rfl

theorem hexDigit?_digitChar {n : Nat} (h : n < 16) : hexDigit? (Nat.digitChar n) = some n := by
  revert n
  decide

theorem hexDigit?_toUpper {n : Nat} (h : n < 16) :
    hexDigit? (Nat.digitChar n).toUpper = some n := by
  revert n
  decide

theorem isAlphanum_toUpper {n : Nat} (h : n < 16) :
    (Nat.digitChar n).toUpper.isAlphanum = true := by
  revert n
  decide

def apostrophe : Char := '\x27'

def quotationMark : Char := '\x22'

/-- A character as it stands in a display delimited by `mark`. -/
def displayChar (mark c : Char) : List Char :=
  if c = mark ∨ c = '\\' then ['\\', c]
  else if c = '\n' then ['\\', 'n']
  else if c = '\r' then ['\\', 'r']
  else if c = '\t' then ['\\', 't']
  else if isHidden c then
    let code := codeOf c
    if code < 0x100 then '\\' :: 'x' :: hex 2 code
    else if code < 0x10000 then '\\' :: 'u' :: hex 4 code
    else '\\' :: 'U' :: hex 8 code
  else [c]

def displayMark (cs : List Char) : Char :=
  if cs.contains apostrophe && !cs.contains quotationMark then quotationMark else apostrophe

def display (cs : List Char) : List Char :=
  let mark := displayMark cs
  mark :: cs.flatMap (displayChar mark) ++ [mark]

def displayString (s : String) : String := String.ofList (display s.toList)

/-- A byte as it stands in a display of bytes delimited by `mark`. -/
def displayByte (mark : Char) (b : UInt8) : List Char :=
  let c := Char.ofNat b.toNat
  if c = mark ∨ c = '\\' then ['\\', c]
  else if c = '\n' then ['\\', 'n']
  else if c = '\r' then ['\\', 'r']
  else if c = '\t' then ['\\', 't']
  else if 0x20 ≤ b.toNat ∧ b.toNat < 0x7F then [c]
  else '\\' :: 'x' :: hex 2 b.toNat

def displayBytes (bytes : List UInt8) : String :=
  let mark := displayMark (bytes.map fun b => Char.ofNat b.toNat)
  String.ofList ('b' :: mark :: bytes.flatMap (displayByte mark) ++ [mark])

end Text
end Arazzo
