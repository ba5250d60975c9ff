import Arazzo.Text.Charset.Reading

/-!
# Charsets of single bytes

A page gives every byte one character or none.
-/

namespace Arazzo
namespace Text
namespace Charset

/-- The bytes below the first one stand for the code points of their numbers. The others have cells, in rows
of sixteen; a replacement character, or no cell, means that a byte stands for nothing. -/
structure Page where
  first : Nat
  rows : List String
deriving DecidableEq, Repr

namespace Page

def cells (page : Page) : List Char := page.rows.flatMap String.toList

/-- The character of a byte. -/
def get? (page : Page) (n : Nat) : Option Char :=
  if n < page.first then some (Char.ofNat n)
  else page.cells[n - page.first]?.filter (· ≠ '\uFFFD')

/-- The characters of bytes, with nothing for those that stand for none. -/
def read (page : Page) (bytes : List UInt8) : List (Option Char) :=
  let cells := page.cells.toArray
  bytes.map fun b =>
    if b.toNat < page.first then some (Char.ofNat b.toNat)
    else cells[b.toNat - page.first]?.filter (· ≠ '\uFFFD')

def ascii : Page := ⟨0x80, []⟩

def latin1 : Page := ⟨0x100, []⟩

end Page
end Charset
end Text
end Arazzo
