import Arazzo.Yaml.Spot

/-!
# Block text

A text of whole lines that are indented alike, behind a bar, which keeps the line breaks, or a
greater-than sign, which folds them. A line that starts with a blank keeps the breaks around it. The
header may give the indentation and say what becomes of the breaks at the end.
-/

namespace Arazzo
namespace Yaml
namespace Block

open Spot

/-- What becomes of the breaks behind the last line. -/
inductive Chomping where
  | strip
  | clip
  | keep
deriving DecidableEq, Repr

structure Header where
  chomping : Chomping
  indentation : Option Nat
deriving Repr

def chomping? (c : Char) : Option Chomping :=
  if c = '+' then some .keep else if c = '-' then some .strip else none

/-- The indentation that a digit gives; zero is none. -/
def indentation? (c : Char) : Option (Except Refusal Nat) :=
  (Text.asciiDigit? c).map fun d => if d = 0 then .error .malformed else .ok d

/-- A sign and a digit in any order, each of which may be missing. -/
def header (spots : List Spot) : Except Refusal (Header × List Spot) := do
  let (h, rest) ← match chomping? (peek spots) with
    | some chomping => match indentation? (peekAt 1 spots) with
      | some d => .ok (⟨chomping, some (← d)⟩, spots.drop 2)
      | none => .ok (⟨chomping, none⟩, spots.drop 1)
    | none => match indentation? (peek spots) with
      | some d => match chomping? (peekAt 1 spots) with
        | some chomping => .ok (⟨chomping, some (← d)⟩, spots.drop 2)
        | none => .ok (⟨.clip, some (← d)⟩, spots.drop 1)
      | none => .ok (⟨.clip, none⟩, spots)
  if isLineEnd (peek rest) || peek rest = ' ' then .ok (h, rest) else .error .malformed

/-- The breaks and blanks in front of the first line: the breaks, and the greatest column reached. -/
def leading : List Spot → List Char × Nat × List Spot
  | [] => ([], 0, [])
  | s :: rest =>
    if isBreak s.char then
      let (bs, column, rest) := leading rest
      (s.char :: bs, column, rest)
    else if s.char = ' ' then
      let (bs, column, rest) := leading rest
      (bs, max column (s.column + 1), rest)
    else ([], 0, s :: rest)

/-- The breaks in front of the next line, and its indentation passed over. -/
def nextLine (indent : Nat) : List Spot → List Char × List Spot
  | [] => ([], [])
  | s :: rest =>
    if isBreak s.char then
      let (bs, rest) := nextLine indent rest
      (s.char :: bs, rest)
    else if s.char = ' ' ∧ s.column < indent then nextLine indent rest
    else ([], s :: rest)

/-- Whether a line of the text starts here. -/
def startsLine (indent : Nat) (spots : List Spot) : Bool :=
  columnOf spots = indent && peek spots ≠ endMark

/-- The lines of a text: all but the breaks behind the last line, the first of these, the others, and
what follows. -/
structure Lines where
  text : List Char
  last : List Char
  trailing : List Char
  rest : List Spot

/-- What joins two lines: the break, or its folded form if neither starts with a blank. -/
def joint (folded : Bool) (line next : List Spot) (ended between : List Char) : List Char :=
  if folded && ended = ['\n'] && !isSpace (peek line) && !isSpace (peek next) then
    if between.isEmpty then [' '] else []
  else ended

/-- Reads lines, given the breaks in front of them. -/
def lines (folded : Bool) (indent : Nat) : Nat → List Char → List Spot → Lines
  | 0, before, spots => ⟨[], [], before, spots⟩
  | fuel + 1, before, spots =>
    if !startsLine indent spots then ⟨[], [], before, spots⟩
    else
      let (line, rest) := takeRun (!isLineEnd ·) spots
      let (ended, rest) :=
        if isBreak (peek rest) then ([peek rest], rest.drop 1) else ([], rest)
      let (between, next) := nextLine indent rest
      if startsLine indent next then
        let more := lines folded indent fuel between next
        { more with text := before ++ line ++ joint folded spots next ended between ++ more.text }
      else ⟨before ++ line, ended, between, next⟩

def Lines.chomp (ls : Lines) : Chomping → List Char
  | .strip => ls.text
  | .clip => ls.text ++ ls.last
  | .keep => ls.text ++ ls.last ++ ls.trailing

/-- The text behind its mark, indented at least to column `floor`, and what follows. Every line has a
character, so the length of the text bounds their number. -/
def read (folded : Bool) (floor : Nat) (spots : List Spot) :
    Except Refusal (List Char × List Spot) := do
  let (h, rest) ← header spots
  let rest ← finishLine rest
  let floor := max floor 1
  let (before, indent, rest) := match h.indentation with
    | none =>
      let (before, column, rest) := leading rest
      (before, max floor column, rest)
    | some d =>
      let indent := floor + d - 1
      let (before, rest) := nextLine indent rest
      (before, indent, rest)
  let ls := lines folded indent rest.length before rest
  .ok (ls.chomp h.chomping, ls.rest)

end Block
end Yaml
end Arazzo
