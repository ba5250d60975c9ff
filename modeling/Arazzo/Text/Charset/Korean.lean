import Arazzo.Text.Charset.Korean.Basic

/-!
# Korean charsets

The basic set has 2350 of the 11172 syllables. One charset spells the others by their letters, one puts
them into codes of their own, and one builds all syllables from three groups of five bits.
-/

namespace Arazzo
namespace Text
namespace Charset
namespace Korean

/-- The letters that begin a syllable. -/
def initialLetters : String := "ㄱㄲㄴㄷㄸㄹㅁㅂㅃㅅㅆㅇㅈㅉㅊㅋㅌㅍㅎ"

/-- The vowels of a syllable. -/
def vowelLetters : String := "ㅏㅐㅑㅒㅓㅔㅕㅖㅗㅘㅙㅚㅛㅜㅝㅞㅟㅠㅡㅢㅣ"

/-- The letters that end a syllable. -/
def finalLetters : String := "ㄱㄲㄳㄴㄵㄶㄷㄹㄺㄻㄼㄽㄾㄿㅀㅁㅂㅄㅅㅆㅇㅈㅊㅋㅌㅍㅎ"

/-- The syllable of an initial letter, a vowel and a final letter; the last counts from 1, and 0 is none. -/
def syllable (first vowel last : Nat) : Char := Char.ofNat (0xAC00 + (first * 21 + vowel) * 28 + last)

/-- The first letter of the basic set, and the filler that stands for no letter. -/
def letterCode (c : Char) : Nat := 0xA1 + (c.toNat - 0x3131)

/-- The place of a letter that a byte stands for behind the lead byte of letters. -/
def placeOfLetter? (letters : String) (n : Nat) : Option Nat :=
  letters.toList.findIdx? fun c => letterCode c = n

def basicKorean? (lead trail : Nat) : Option Char := (sevenBits? lead trail).bind ksBasic.get?

/-- The basic set with high bits. A filler begins a syllable that is spelled with its three letters. -/
def eucKorean (b : UInt8) (bs : List UInt8) : Head :=
  if b < 0x80 then .chars 1 [Char.ofNat b.toNat]
  else match bs with
    | [] => .unfinished
    | trail :: rest =>
      if b = 0xA4 ∧ trail = 0xD4 then match rest with
        | l1 :: first :: l2 :: vowel :: l3 :: last :: _ =>
          let last? :=
            if last = 0xD4 then some 0 else (placeOfLetter? finalLetters last.toNat).map (· + 1)
          match placeOfLetter? initialLetters first.toNat, placeOfLetter? vowelLetters vowel.toNat,
            last? with
          | some f, some v, some l =>
            if l1 = 0xA4 ∧ l2 = 0xA4 ∧ l3 = 0xA4 then .chars 8 [syllable f v l] else .wrong 1
          | _, _, _ => .wrong 1
        | _ => .unfinished
      else match basicKorean? b.toNat trail.toNat with
        | some c => .chars 2 [c]
        | none => .wrong 1

/-- The syllables that the basic set lacks, in their order. -/
def remainingSyllables : Array Char :=
  let present := ksBasic.foldl (fun marks (_, text) => text.toList.foldl (fun marks c =>
    if 0xAC00 ≤ c.toNat then marks.setIfInBounds (c.toNat - 0xAC00) true else marks) marks)
    (Array.replicate 11172 false)
  (((List.range present.size).filter fun i => !(present.getD i true)).map fun i =>
    Char.ofNat (0xAC00 + i)).toArray

/-- The place of a trail byte among the letters and the bytes with a high bit. -/
def trailPlace? (n : Nat) : Option Nat :=
  if 0x41 ≤ n ∧ n ≤ 0x5A then some (n - 0x41)
  else if 0x61 ≤ n ∧ n ≤ 0x7A then some (n - 0x61 + 26)
  else if 0x81 ≤ n ∧ n ≤ 0xFE then some (n - 0x81 + 52)
  else none

/-- The character of a code among those that the remaining syllables fill: whole rows, and then rows that
the basic set leaves less room in. -/
def furtherSyllable? (lead trail : Nat) : Option Char := do
  let cell ← trailPlace? trail
  if 0x81 ≤ lead ∧ lead < 0xA1 then remainingSyllables[(lead - 0x81) * 178 + cell]?
  else if 0xA1 ≤ lead ∧ lead ≤ 0xC6 ∧ cell < 84 then
    remainingSyllables[32 * 178 + (lead - 0xA1) * 84 + cell]?
  else none

def codePage949 : Doubled := .ofPairs fun lead trail =>
  ((basicKorean? lead trail).or (furtherSyllable? lead trail)).map ([·])

/-- What five bits say about a place in a syllable: a letter with a number, or that none stands there. -/
inductive Slot where
  | letter (place : Nat)
  | filler

def initialSlot? (n : Nat) : Option Slot :=
  if n = 1 then some .filler else if 2 ≤ n ∧ n ≤ 20 then some (.letter (n - 2)) else none

def vowelSlot? (n : Nat) : Option Slot :=
  if n = 2 then some .filler
  else if 3 ≤ n ∧ n ≤ 7 then some (.letter (n - 3))
  else if 10 ≤ n ∧ n ≤ 15 then some (.letter (n - 5))
  else if 18 ≤ n ∧ n ≤ 23 then some (.letter (n - 7))
  else if 26 ≤ n ∧ n ≤ 29 then some (.letter (n - 9))
  else none

def finalSlot? (n : Nat) : Option Slot :=
  if n = 1 then some .filler
  else if 2 ≤ n ∧ n ≤ 17 then some (.letter (n - 2))
  else if 19 ≤ n ∧ n ≤ 29 then some (.letter (n - 3))
  else none

/-- The syllable of three slots, or the only letter among them. -/
def composed? : Slot → Slot → Slot → Option Char
  | .filler, .filler, .filler => some '\u3000'
  | .filler, .filler, .letter l => finalLetters.toList[l]?
  | .filler, .letter v, .filler => vowelLetters.toList[v]?
  | .letter f, .filler, .filler => initialLetters.toList[f]?
  | .letter f, .letter v, .filler => some (syllable f v 0)
  | .letter f, .letter v, .letter l => some (syllable f v (l + 1))
  | _, _, _ => none

/-- The character of a syllable in three groups of five bits, or of a packed row of the basic set. -/
def combined? (lead trail : Nat) : Option Char :=
  if lead < 0xD8 then do
    let bits := codeOfPair lead trail
    composed? (← initialSlot? (bits / 1024 % 32)) (← vowelSlot? (bits / 32 % 32))
      (← finalSlot? (bits % 32))
  else if lead = 0xD8 ∨ lead = 0xDF ∨ 0xF9 < lead ∨ trail < 0x31 ∨ (0x80 ≤ trail ∧ trail < 0x91) ∨
      trail % 128 = 127 ∨ (lead = 0xDA ∧ 0xA1 ≤ trail ∧ trail ≤ 0xD3) then none
  else
    let rows := if lead < 0xE0 then 2 * (lead - 0xD9) else 2 * lead - 0x197
    let cell := if trail < 0x91 then trail - 0x31 else trail - 0x43
    ksBasic.get? (codeOfPair (rows + cell / 94 + 0x21) (cell % 94 + 0x21))

def johab : Doubled := .ofPairs fun lead trail => (combined? lead trail).map ([·])

end Korean
end Charset
end Text
end Arazzo
