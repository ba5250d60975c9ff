import Arazzo.Yaml.Block
import Arazzo.Yaml.Scalar
import Arazzo.Yaml.Token

/-!
# Layout

The tokens of a YAML text. Outside brackets the columns say where lists and mappings start and end: a
dash or a key further to the right than the last starts one, and a token further to the left ends it.
A key need not be announced. Whatever could be one is remembered with its place among the tokens, and
if a colon follows it on the same line, at most 1024 columns behind, the tokens that announce it are
put in at that place.
-/

namespace Arazzo
namespace Yaml

open Spot

/-- A place where a key may have started. It must be one if it stands in the column of a mapping. -/
structure Candidate where
  before : Nat
  line : Nat
  column : Nat
  required : Bool
deriving DecidableEq, Repr

/-- The most columns from the start of a key to its colon. -/
def keyReach : Nat := 1024

/-- The state of the reading. -/
structure Layout where
  /-- The tokens so far, the latest first, and their number. -/
  tokens : List Token
  count : Nat
  /-- The columns of the open lists and mappings, the innermost first. -/
  indents : List Nat
  /-- The possible key among the innermost brackets, and those around them from the inside out. -/
  candidate : Option Candidate
  outer : List (Option Candidate)
  /-- Whether a key may start here. -/
  keyAllowed : Bool

namespace Layout

def start : Layout := ⟨[], 0, [], none, [], true⟩

def inFlow (l : Layout) : Bool := !l.outer.isEmpty

/-- The first column to the right of the innermost open list or mapping. -/
def floor (l : Layout) : Nat := (l.indents.head?.map (· + 1)).getD 0

def push (t : Token) (l : Layout) : Layout :=
  { l with tokens := t :: l.tokens, count := l.count + 1 }

/-- Puts tokens, the latest first, at a place among those before. -/
def insertAt (place : Nat) (ts : List Token) (l : Layout) : Layout :=
  let since := l.count - place
  { l with
    tokens := l.tokens.take since ++ ts ++ l.tokens.drop since
    count := l.count + ts.length }

/-- Forgets a possible key that is out of reach. -/
def refresh (s : Spot) : Option Candidate → Except Refusal (Option Candidate)
  | none => .ok none
  | some c =>
    if c.line = s.line ∧ s.column - c.column ≤ keyReach then .ok (some c)
    else if c.required then .error .malformed
    else .ok none

def refreshAll (s : Spot) (l : Layout) : Except Refusal Layout := do
  let candidate ← refresh s l.candidate
  let outer ← l.outer.mapM (refresh s)
  .ok { l with candidate := candidate, outer := outer }

/-- Gives the possible key up. -/
def dropCandidate (l : Layout) : Except Refusal Layout :=
  match l.candidate with
  | some c => if c.required then .error .malformed else .ok { l with candidate := none }
  | none => .ok l

/-- Remembers that a key may start here. -/
def saveCandidate (s : Spot) (l : Layout) : Except Refusal Layout :=
  if l.keyAllowed then do
    let required := !l.inFlow && l.indents.head? = some s.column
    let l ← l.dropCandidate
    .ok { l with candidate := some ⟨l.count, s.line, s.column, required⟩ }
  else .ok l

/-- Ends the innermost lists and mappings up to the first whose column `keep` holds of. -/
def unwind (keep : Nat → Bool) (l : Layout) : Layout :=
  if l.inFlow then l
  else
    let closed := l.indents.takeWhile (!keep ·)
    closed.foldl (fun l _ => l.push .dedent) { l with indents := l.indents.dropWhile (!keep ·) }

/-- Whether a list or mapping starts at a column that stands here. -/
def startsAt (column : Nat) (l : Layout) : Bool :=
  match l.indents with
  | [] => true
  | c :: _ => c < column

/-- Opens a list or mapping at a column unless one is open there. -/
def openAt (column : Nat) (t : Token) (l : Layout) : Layout :=
  if l.startsAt column then { l with indents := column :: l.indents }.push t else l

/-- A mark in front of which, outside brackets, a key could start. -/
def demandKeyAllowed (l : Layout) : Except Refusal Unit :=
  if l.inFlow || l.keyAllowed then .ok () else .error .malformed

/-! ## The tokens one by one -/

/-- The end of the text, or a line that is about the document. -/
def boundary (t : Token) (l : Layout) : Except Refusal Layout := do
  let l ← (l.unwind fun _ => false).dropCandidate
  .ok ({ l with keyAllowed := false }.push t)

def openBracket (t : Token) (s : Spot) (l : Layout) : Except Refusal Layout := do
  let l ← l.saveCandidate s
  .ok ({ l with outer := l.candidate :: l.outer, candidate := none, keyAllowed := true }.push t)

def closeBracket (t : Token) (l : Layout) : Except Refusal Layout := do
  let l ← l.dropCandidate
  match l.outer with
  | [] => .error .malformed
  | c :: outer => .ok ({ l with candidate := c, outer := outer, keyAllowed := false }.push t)

def comma (l : Layout) : Except Refusal Layout := do
  let l ← l.dropCandidate
  .ok ({ l with keyAllowed := true }.push .comma)

def dash (s : Spot) (l : Layout) : Except Refusal Layout := do
  l.demandKeyAllowed
  let l := if l.inFlow then l else l.openAt s.column .indentList
  let l ← l.dropCandidate
  .ok ({ l with keyAllowed := true }.push .dash)

def key (s : Spot) (l : Layout) : Except Refusal Layout := do
  l.demandKeyAllowed
  let l := if l.inFlow then l else l.openAt s.column .indentMap
  let l ← l.dropCandidate
  .ok ({ l with keyAllowed := !l.inFlow }.push .key)

/-- A colon behind a possible key makes it one; any other colon stands behind an empty or announced
key. -/
def colon (s : Spot) (l : Layout) : Except Refusal Layout :=
  match l.candidate with
  | some c =>
    let starts := !l.inFlow && l.startsAt c.column
    let l := { l with
      candidate := none
      keyAllowed := false
      indents := if starts then c.column :: l.indents else l.indents }
    .ok ((l.insertAt c.before (if starts then [.key, .indentMap] else [.key])).push .colon)
  | none => do
    l.demandKeyAllowed
    let l := if l.inFlow then l else l.openAt s.column .indentMap
    .ok ({ l with keyAllowed := !l.inFlow }.push .colon)

/-- A token that may start a key; no other key may start behind it on its line. -/
def word (s : Spot) (read : Except Refusal (Token × List Spot)) (l : Layout) :
    Except Refusal (Layout × List Spot) := do
  let l ← l.saveCandidate s
  let (t, rest) ← read
  .ok ({ l with keyAllowed := false }.push t, rest)

/-- A plain text; a key may start behind it if a break follows. -/
def plain (s : Spot) (spots : List Spot) (l : Layout) : Except Refusal (Layout × List Spot) := do
  let l ← l.saveCandidate s
  let (cs, broken, rest) := Plain.read l.inFlow l.floor spots
  .ok ({ l with keyAllowed := broken }.push (.scalar (String.ofList cs) true), rest)

def block (folded : Bool) (rest : List Spot) (l : Layout) :
    Except Refusal (Layout × List Spot) := do
  let l ← l.dropCandidate
  let (cs, rest) ← Block.read folded l.floor rest
  .ok ({ l with keyAllowed := true }.push (.scalar (String.ofList cs) false), rest)

def readQuoted (double : Bool) (spots : List Spot) : Except Refusal (Token × List Spot) := do
  let (cs, rest) ← Quoted.read double spots
  .ok (.scalar (String.ofList cs) false, rest)

/-- Passes blanks, comments and breaks; the Boolean says whether there was a break. -/
def skip (inComment : Bool) : List Spot → Bool × List Spot
  | [] => (false, [])
  | s :: rest =>
    if isBreak s.char then (true, (skip false rest).2)
    else if inComment && s.char ≠ endMark then skip true rest
    else if s.char = ' ' then skip false rest
    else if s.char = '#' then skip true rest
    else (false, s :: rest)

/-- Whether a plain text starts with a character in front of another. -/
def startsPlain (inFlow : Bool) (c next : Char) : Bool :=
  !(isGap c || "-?:,[]#&*!|>'%@".toList.contains c || isFlowMark c || c = '\x22' || c = '\x60') ||
    (!isGap next && (c = '-' || (!inFlow && (c = '?' || c = ':'))))

/-- Reads the token that starts at a place. -/
def token (s : Spot) (rest : List Spot) (l : Layout) : Except Refusal (Layout × List Spot) :=
  let c := s.char
  let spots := s :: rest
  let separated := isGap (peek rest)
  let after (l : Except Refusal Layout) : Except Refusal (Layout × List Spot) :=
    l.map fun l => (l, rest)
  if c = endMark then after (l.boundary .finish)
  else if c = '%' ∧ s.column = 0 then do
    let (t, rest) ← readDirective rest
    .ok (← l.boundary t, rest)
  else if s.column = 0 ∧ atMarks '-' spots then do .ok (← l.boundary .documentStart, spots.drop 3)
  else if s.column = 0 ∧ atMarks '.' spots then do .ok (← l.boundary .documentEnd, spots.drop 3)
  else if c = '[' then after (l.openBracket .listOpen s)
  else if c = '\x7b' then after (l.openBracket .mapOpen s)
  else if c = ']' then after (l.closeBracket .listClose)
  else if c = '\x7d' then after (l.closeBracket .mapClose)
  else if c = ',' then after l.comma
  else if c = '-' ∧ separated then after (l.dash s)
  else if c = '?' ∧ (l.inFlow || separated) then after (l.key s)
  else if c = ':' ∧ (l.inFlow || separated) then after (l.colon s)
  else if c = '*' then l.word s (readName .alias rest)
  else if c = '&' then l.word s (readName .anchor rest)
  else if c = '!' then l.word s (readTag spots)
  else if c = '|' ∧ !l.inFlow then l.block false rest
  else if c = '>' ∧ !l.inFlow then l.block true rest
  else if c = '\'' then l.word s (readQuoted false rest)
  else if c = '\x22' then l.word s (readQuoted true rest)
  else if startsPlain l.inFlow c (peek rest) then l.plain s spots
  else .error .malformed

/-- Reads the next token behind blanks. -/
def next (l : Layout) (spots : List Spot) : Except Refusal (Layout × List Spot) := do
  let (broken, spots) := skip false spots
  let l := if broken && !l.inFlow then { l with keyAllowed := true } else l
  match spots with
  | [] => .ok (← l.boundary .finish, [])
  | s :: rest =>
    let l ← l.refreshAll s
    (l.unwind (· ≤ s.column)).token s rest

/-- Reads tokens up to the end or a refusal. -/
def read : Nat → Layout → List Spot → List Token
  | 0, l, _ => l.tokens.reverse
  | fuel + 1, l, spots =>
    match l.next spots with
    | .error r => (Token.fault r :: l.tokens).reverse
    | .ok (l, rest) => if rest.isEmpty || l.tokens.head? = some .finish then l.tokens.reverse
      else read fuel l rest

end Layout

/-- The tokens of a text. Every token but the last has a character, so the length of the text bounds
their number. -/
def tokens (spots : List Spot) : List Token := Layout.start.read (spots.length + 1) spots

end Yaml
end Arazzo
