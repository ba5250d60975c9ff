import Arazzo.Text.Charset.Switched
import Arazzo.Text.Charset.Unicode

/-!
# Charsets

A charset says which characters bytes stand for. Bytes can be read strictly, as one text or none, or
leniently, with a replacement character in the place of each stretch that cannot be read.
-/

namespace Arazzo
namespace Text

inductive Charset where
  | utf8
  /-- UTF-8 behind a mark that may be missing. -/
  | utf8Marked
  | utf7
  /-- Units of two bytes, most significant byte first or last, or as a mark tells. -/
  | utf16 (big : Option Bool)
  /-- Units of four bytes, most significant byte first or last, or as a mark tells. -/
  | utf32 (big : Option Bool)
  | escaped
  | escapedCodePoints
  | punycode
  | page (p : Charset.Page)
  | shiftJis
  | codePage932
  | shiftJisExtended (edition : Charset.Japanese.Edition)
  | eucJapanese
  | eucJapaneseExtended (edition : Charset.Japanese.Edition)
  | gb2312
  | gbk
  | gb18030
  | gbEscaped
  | big5
  | codePage950
  | hongKong
  | eucKorean
  | codePage949
  | johab
  | switched (family : Charset.Iso2022)
  /-- A coding of bytes as other bytes. -/
  | binary
  /-- An exchange of letters for other letters. -/
  | lettersOnly
  /-- ASCII for host names, which has no lenient reading. -/
  | hostNames
  /-- A name without a charset. -/
  | undefined
deriving DecidableEq, Repr

namespace Charset

/-- UTF-8 without the mark in front. Bytes that could become a mark are kept back. -/
def readMarked8 (bytes : List UInt8) : List (Option Char) :=
  match bytes with
  | 0xEF :: 0xBB :: 0xBF :: rest => utf8Items none rest
  | [0xEF, 0xBB] | [0xEF] => []
  | _ => utf8Items none bytes

/-- The characters of bytes in a charset. -/
def read (charset : Charset) (bytes : List UInt8) : Reading :=
  match charset with
  | .utf8 => .ok (utf8Items none bytes)
  | .utf8Marked => .ok (readMarked8 bytes)
  | .utf7 => readSteps head7 none 0 bytes
  | .utf16 none => readMarked16 bytes
  | .utf16 (some big) => readHeads (head16 big) bytes
  | .utf32 none => readMarked32 bytes
  | .utf32 (some big) => readHeads (head32 big) bytes
  | .escaped => readHeads escapedHead bytes
  | .escapedCodePoints => readHeads codePointHead bytes
  | .punycode => readPunycode bytes
  | .page p => .ok (p.read bytes)
  | .shiftJis => readHeads Japanese.shiftJis.head bytes
  | .codePage932 => readHeads Japanese.codePage932.head bytes
  | .shiftJisExtended edition => readHeads edition.packedHead bytes
  | .eucJapanese => readHeads Japanese.eucJapanese bytes
  | .eucJapaneseExtended edition => readHeads edition.eucHead bytes
  | .gb2312 => readHeads Chinese.gb2312.head bytes
  | .gbk => readHeads Chinese.gbk.head bytes
  | .gb18030 => readHeads Chinese.gb18030 bytes
  | .gbEscaped => readSteps Chinese.gbEscaped false 0 bytes
  | .big5 => readHeads Chinese.big5.head bytes
  | .codePage950 => readHeads Chinese.codePage950.head bytes
  | .hongKong => readHeads Chinese.hongKong.head bytes
  | .eucKorean => readHeads Korean.eucKorean bytes
  | .codePage949 => readHeads Korean.codePage949.head bytes
  | .johab => readHeads Korean.johab.head bytes
  | .switched family => readSteps family.head .start 0 bytes
  | .binary => .error .binary
  | .lettersOnly => .error .lettersOnly
  | .hostNames => .error .strictOnly
  | .undefined => .error .undefined

/-- The text of bytes, a replacement character for each stretch that cannot be read. -/
def decode (charset : Charset) (bytes : List UInt8) : Except CharsetFault (List Char) :=
  (charset.read bytes).map fun items => items.map fun item => item.getD replacement

/-- The items of bytes that are to be read strictly. Without a mark the least significant byte comes
first, and host names are ASCII. -/
def readStrictly (charset : Charset) (bytes : List UInt8) : Reading :=
  match charset with
  | .utf16 none => match readMarked16 bytes with
    | .ok items => .ok items
    | .error _ => readHeads (head16 false) bytes
  | .utf32 none => match readMarked32 bytes with
    | .ok items => .ok items
    | .error _ => readHeads (head32 false) bytes
  | .utf8Marked => match bytes with
    | 0xEF :: 0xBB :: 0xBF :: rest => .ok (utf8Items none rest)
    | _ => .ok (utf8Items none bytes)
  | .hostNames => .ok (Page.ascii.read bytes)
  | .punycode =>
    if bytes.all (· < 0x80) then
      .ok (((Punycode.read? (bytes.map fun b => Char.ofNat b.toNat)).map fun codes =>
        codes.map fun n => some (ofCode n)).getD [none])
    else .ok [none]
  | _ => charset.read bytes

/-- The text of bytes all of which can be read. -/
def decode? (charset : Charset) (bytes : List UInt8) : Except CharsetFault (Option (List Char)) :=
  match charset.readStrictly bytes with
  | .ok items => .ok (items.mapM id)
  | .error .misplacedSet => .error .misplacedSet
  | .error _ => .ok none

end Charset
end Text
end Arazzo
