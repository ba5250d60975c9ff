import Arazzo.Text.Encoding
import Arazzo.Yaml.Spot

/-!
# Plain and quoted text

The text of a scalar that goes on over several lines: one line break between two words becomes a
blank, and of several the first is dropped. A plain text ends at a colon with a gap behind it, at a
comment, in front of a line that is indented too little, and inside brackets at their marks. In double
quotes a backslash escapes a character, and in single quotes a quote is written twice.
-/

namespace Arazzo
namespace Yaml

open Spot

/-- The breaks between two words, blanks left out; nothing if the marks that part documents stand at
the start of a line. `fresh` says that a line starts here. -/
def breaks (isBlank : Char → Bool) : Bool → List Spot → Option (List Char) × List Spot
  | _, [] => (some [], [])
  | fresh, s :: rest =>
    if fresh && atSeparator (s :: rest) then (none, s :: rest)
    else if isBreak s.char then
      let (more, rest) := breaks isBlank true rest
      (more.map (s.char :: ·), rest)
    else if isBlank s.char then breaks isBlank false rest
    else (some [], s :: rest)

/-- What a break and those behind it become. -/
def fold (first : Char) (more : List Char) : List Char :=
  if first ≠ '\n' then first :: more
  else if more.isEmpty then [' ']
  else more

/-! ## Plain text -/

namespace Plain

/-- Whether a plain text ends in front of a character with another one behind it. -/
def stops (inFlow : Bool) (c next : Char) : Bool :=
  isGap c || (c = ':' && (isGap next || (inFlow && isFlowMark next))) ||
    (inFlow && (c = '?' || isFlowMark c))

/-- A word of plain text. -/
def word (inFlow : Bool) : List Spot → List Char × List Spot
  | [] => ([], [])
  | s :: rest =>
    if stops inFlow s.char (peek rest) then ([], s :: rest)
    else
      let (cs, rest) := word inFlow rest
      (s.char :: cs, rest)

/-- What stands between two words, and whether it holds a line break. -/
structure Joint where
  text : List Char
  broken : Bool
  rest : List Spot

def joint (spots : List Spot) : Joint :=
  let (blanks, rest) := takeRun (· = ' ') spots
  let first := peek rest
  if isBreak first then
    match breaks (· = ' ') true (rest.drop 1) with
    | (some more, rest) => ⟨fold first more, true, rest⟩
    | (none, rest) => ⟨[], true, rest⟩
  else ⟨blanks, false, rest⟩

/-- A plain text whose further lines start at column `floor` or behind it, whether a line break
follows it, and the rest. -/
def readWithin (inFlow : Bool) (floor : Nat) : Nat → List Spot → List Char × Bool × List Spot
  | 0, spots => ([], false, spots)
  | fuel + 1, spots =>
    let (cs, rest) := word inFlow spots
    let j := joint rest
    if j.text.isEmpty || peek j.rest = '#' || (!inFlow && columnOf j.rest < floor) ||
        (word inFlow j.rest).1.isEmpty then (cs, j.broken, j.rest)
    else
      let (more, broken, rest) := readWithin inFlow floor fuel j.rest
      (cs ++ j.text ++ more, broken, rest)

/-- Every word has a character, so the length of the text bounds their number. -/
def read (inFlow : Bool) (floor : Nat) (spots : List Spot) : List Char × Bool × List Spot :=
  readWithin inFlow floor spots.length spots

end Plain

/-! ## Quoted text -/

namespace Quoted

/-- The characters that one-letter escapes stand for. -/
def letters : List (Char × Char) :=
  [('0', '\x00'), ('a', '\x07'), ('b', '\x08'), ('t', '\t'), ('\t', '\t'), ('n', '\n'),
   ('v', '\x0B'), ('f', '\x0C'), ('r', '\r'), ('e', '\x1B'), (' ', ' '), ('\x22', '\x22'),
   ('\\', '\\'), ('/', '/'), ('N', '\x85'), ('_', '\xA0'), ('L', '\u2028'), ('P', '\u2029')]

/-- How many hexadecimal digits follow a letter. -/
def digitCount? (c : Char) : Option Nat :=
  if c = 'x' then some 2 else if c = 'u' then some 4 else if c = 'U' then some 8 else none

/-- A code point that an escape names. -/
def codePoint (n : Nat) : Except Refusal Nat :=
  if n < 0x110000 then .ok n
  else if n < 0x80000000 then .error (.defect .characterTooLarge)
  else .error (.defect .numberTooLarge)

/-- A piece of a quoted text, as code points, or its end. -/
inductive Piece where
  | codes (ns : List Nat) (rest : List Spot)
  | done (rest : List Spot)

def ofChars (cs : List Char) : List Nat := cs.map Char.toNat

/-- The breaks behind a break; the marks that part documents are malformed here. -/
def furtherBreaks (spots : List Spot) : Except Refusal (List Char × List Spot) :=
  match breaks isSpace true spots with
  | (some cs, rest) => .ok (cs, rest)
  | (none, _) => .error .malformed

/-- What a backslash and the characters behind it stand for. -/
def escape (spots : List Spot) : Except Refusal Piece :=
  let c := peek spots
  let rest := spots.drop 1
  match letters.lookup c, digitCount? c with
  | some d, _ => .ok (.codes [d.toNat] rest)
  | none, some count =>
    match ((rest.take count).map Spot.char).mapM Text.hexDigit? with
    | some ds => do
      if ds.length < count then .error .malformed
      let n ← codePoint (ds.foldl (fun n d => n * 16 + d) 0)
      .ok (.codes [n] (rest.drop count))
    | none => .error .malformed
  | none, none =>
    if isBreak c then do
      let (cs, rest) ← furtherBreaks rest
      .ok (.codes (ofChars cs) rest)
    else .error .malformed

/-- The blanks or breaks between two words. -/
def joint (spots : List Spot) : Except Refusal Piece :=
  let (blanks, rest) := takeRun isSpace spots
  let c := peek rest
  if c = endMark then .error .malformed
  else if isBreak c then do
    let (more, rest) ← furtherBreaks (rest.drop 1)
    .ok (.codes (ofChars (fold c more)) rest)
  else .ok (.codes (ofChars blanks) rest)

/-- The next piece. -/
def piece (double : Bool) (spots : List Spot) : Except Refusal Piece :=
  let c := peek spots
  let rest := spots.drop 1
  if isGap c then joint spots
  else if double then
    if c = '\x22' then .ok (.done rest)
    else if c = '\\' then escape rest
    else .ok (.codes [c.toNat] rest)
  else if c = '\'' then
    if peek rest = '\'' then .ok (.codes [c.toNat] (rest.drop 1)) else .ok (.done rest)
  else .ok (.codes [c.toNat] rest)

def readWithin (double : Bool) : Nat → List Spot → Except Refusal (List Nat × List Spot)
  | 0, _ => .error .malformed
  | fuel + 1, spots => do
    match ← piece double spots with
    | .done rest => .ok ([], rest)
    | .codes ns rest =>
      let (more, rest) ← readWithin double fuel rest
      .ok (ns ++ more, rest)

/-- The text behind an opening quote, and what follows the closing one. Every piece has a character,
so the length of the text bounds their number. -/
def read (double : Bool) (spots : List Spot) : Except Refusal (List Char × List Spot) := do
  let (ns, rest) ← readWithin double (spots.length + 1) spots
  .ok (ns.map Text.ofCode, rest)

end Quoted
end Yaml
end Arazzo
