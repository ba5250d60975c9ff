import Arazzo.Text.Trim

/-!
# Text in TOML

Quoted texts on one line or on several. Between apostrophes every character stands for itself; between
double quotes a backslash escapes one. Control characters other than tabs, and line feeds in texts of
several lines, are refused.
-/

namespace Arazzo
namespace Toml

open Text

def isSpace (c : Char) : Bool := c = ' ' || c = '\t'

def isSpaceOrBreak (c : Char) : Bool := isSpace c || c = '\n'

def skipSpace (cs : List Char) : List Char := cs.dropWhile isSpace

/-- Whether a text may not hold a character. -/
def isRefused (multiline : Bool) (c : Char) : Bool :=
  (c.toNat < 0x20 || c.toNat = 0x7F) && c ≠ '\t' && !(multiline && c = '\n')

/-- The characters that one-letter escapes stand for. -/
def letters : List (Char × Char) :=
  [('b', '\x08'), ('t', '\t'), ('n', '\n'), ('f', '\x0C'), ('r', '\r'), ('\x22', '\x22'),
   ('\\', '\\')]

/-- The character that hexadecimal digits name; a surrogate is none. -/
def character? (ds : List Nat) : Option Char :=
  let n := ds.foldl (fun n d => n * 16 + d) 0
  if n < 0xD800 ∨ (0xE000 ≤ n ∧ n < 0x110000) then some (Char.ofNat n) else none

/-- A number of hexadecimal digits and the character that they name. -/
def hexCharacter? (count : Nat) (cs : List Char) : Option (List Char × List Char) := do
  let ds ← (cs.take count).mapM hexDigit?
  if ds.length < count then none
  else some ([← character? ds], cs.drop count)

/-- What a backslash stands for, given the characters behind it. In a text of several lines it joins
the lines in front of and behind it. -/
def escape? (multiline : Bool) (cs : List Char) : Option (List Char × List Char) :=
  match cs with
  | [] => none
  | c :: rest =>
    if multiline && isSpaceOrBreak c then
      match skipSpace cs with
      | '\n' :: rest => some ([], rest.dropWhile isSpaceOrBreak)
      | _ => none
    else if c = 'u' then hexCharacter? 4 rest
    else if c = 'U' then hexCharacter? 8 rest
    else (letters.lookup c).map fun d => ([d], rest)

/-- Up to two more marks belong to the text in front of its end. -/
def extraMarks (mark : Char) (cs : List Char) : List Char × List Char :=
  let extra := (cs.take 2).takeWhile (· = mark)
  (extra, cs.drop extra.length)

/-- The text up to a double quote, or up to three of them. -/
def basicWithin (multiline : Bool) : Nat → List Char → Option (List Char × List Char)
  | 0, _ => none
  | _ + 1, [] => none
  | fuel + 1, c :: cs =>
    if c = '\x22' ∧ !multiline then some ([], cs)
    else if c = '\x22' ∧ startsWith ['\x22', '\x22'] cs then
      some (extraMarks '\x22' (cs.drop 2))
    else if c = '\\' then do
      let (piece, rest) ← escape? multiline cs
      let (more, rest) ← basicWithin multiline fuel rest
      some (piece ++ more, rest)
    else if isRefused multiline c then none
    else do
      let (more, rest) ← basicWithin multiline fuel cs
      some (c :: more, rest)

/-- Every step takes a character, so the length of the text bounds their number. -/
def basic? (multiline : Bool) (cs : List Char) : Option (List Char × List Char) :=
  basicWithin multiline (cs.length + 1) cs

/-- The text up to an apostrophe, or up to three of them. -/
def literal? (multiline : Bool) : List Char → Option (List Char × List Char)
  | [] => none
  | c :: cs =>
    if c = '\'' ∧ !multiline then some ([], cs)
    else if c = '\'' ∧ startsWith ['\'', '\''] cs then some (extraMarks '\'' (cs.drop 2))
    else if isRefused multiline c then none
    else (literal? multiline cs).map fun (more, rest) => (c :: more, rest)

/-- A text of several lines loses the line feed that it starts with. -/
def withoutFirstBreak (cs : List Char) : List Char :=
  match cs with
  | '\n' :: rest => rest
  | _ => cs

/-- A quoted text and what follows it. -/
def quoted? (cs : List Char) : Option (List Char × List Char) :=
  match cs with
  | '\x22' :: '\x22' :: '\x22' :: rest => basic? true (withoutFirstBreak rest)
  | '\'' :: '\'' :: '\'' :: rest => literal? true (withoutFirstBreak rest)
  | '\x22' :: rest => basic? false rest
  | '\'' :: rest => literal? false rest
  | _ => none

end Toml
end Arazzo
