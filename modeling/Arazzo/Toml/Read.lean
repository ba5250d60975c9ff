import Arazzo.Toml.Scalar
import Arazzo.Toml.Table

/-!
# Reading TOML

A document is a sequence of statements, each on a line: headers that declare tables, and keys with
values. Comments go from a number sign to the end of the line. An array may run over several lines, an
inline table may not.
-/

namespace Arazzo
namespace Toml

open Text

/-- A result, or the refusal of a malformed text. -/
def orMalformed {α : Type} : Option α → Except Refusal α
  | some a => .ok a
  | none => .error .malformed

/-- Passes blanks, breaks and comments. -/
def skipFill (inComment : Bool) : List Char → Except Refusal (List Char)
  | [] => .ok []
  | c :: cs =>
    if c = '\n' then skipFill false cs
    else if inComment then if isRefused false c then .error .malformed else skipFill true cs
    else if isSpace c then skipFill false cs
    else if c = '#' then skipFill true cs
    else .ok (c :: cs)

/-- Passes a comment up to the end of its line. -/
def skipComment (cs : List Char) : Except Refusal (List Char) :=
  if cs.head? = some '#' then
    let (text, rest) := cs.span (· ≠ '\n')
    if text.any (isRefused false) then .error .malformed else .ok rest
  else .ok cs

/-! ## Keys -/

def isBareChar (c : Char) : Bool := c.isAlphanum || c = '-' || c = '_'

def isKeyStart (c : Char) : Bool := isBareChar c || c = '\x22' || c = '\''

/-- One name of a key. -/
def keyPart (cs : List Char) : Except Refusal (String × List Char) := do
  let (name, rest) ← match cs with
    | '\x22' :: rest => orMalformed (basic? false rest)
    | '\'' :: rest => orMalformed (literal? false rest)
    | _ => match cs.span isBareChar with
      | ([], _) => .error .malformed
      | found => .ok found
  .ok (String.ofList name, rest)

def keyWithin : Nat → List Char → Except Refusal (Key × List Char)
  | 0, _ => .error .malformed
  | fuel + 1, cs => do
    let (name, rest) ← keyPart cs
    match skipSpace rest with
    | '.' :: rest => do
      let (key, rest) ← keyWithin fuel (skipSpace rest)
      .ok (name :: key, rest)
    | rest => .ok ([name], rest)

/-- Names with points between them. -/
def key (cs : List Char) : Except Refusal (Key × List Char) := keyWithin (cs.length + 1) cs

/-- A key and the equals sign behind it. -/
def keyAndSign (cs : List Char) : Except Refusal (Key × List Char) := do
  match ← key cs with
  | (k, '=' :: rest) => .ok (k, skipSpace rest)
  | _ => .error .malformed

/-! ## Values -/

mutual

/-- A value at the start of a text and what follows it. -/
def valueWithin : Nat → List Char → Except Refusal (Value × List Char)
  | 0, _ => .error .malformed
  | fuel + 1, cs => match cs with
    | '[' :: rest => do
      let (items, rest) ← itemsWithin fuel (← skipFill false rest)
      .ok (.list items, rest)
    | '\x7b' :: rest => match skipSpace rest with
      | '\x7d' :: rest => .ok (.map [], rest)
      | rest => inlineWithin fuel ⟨[], []⟩ rest
    | c :: _ =>
      if c = '\x22' ∨ c = '\'' then do
        let (text, rest) ← orMalformed (quoted? cs)
        .ok (.text (String.ofList text), rest)
      else (scalar cs).map fun (s, rest) => (.scalar s, rest)
    | [] => .error .malformed

/-- The items of an array up to its bracket; a comma may follow the last one. -/
def itemsWithin : Nat → List Char → Except Refusal (List Value × List Char)
  | 0, _ => .error .malformed
  | fuel + 1, cs => match cs with
    | ']' :: rest => .ok ([], rest)
    | _ => do
      let (v, rest) ← valueWithin fuel cs
      match ← skipFill false rest with
      | ']' :: rest => .ok ([v], rest)
      | ',' :: rest =>
        let (items, rest) ← itemsWithin fuel (← skipFill false rest)
        .ok (v :: items, rest)
      | _ => .error .malformed

/-- The entries of an inline table up to its brace. -/
def inlineWithin : Nat → Inline → List Char → Except Refusal (Value × List Char)
  | 0, _, _ => .error .malformed
  | fuel + 1, table, cs => do
    let (k, rest) ← keyAndSign cs
    let (v, rest) ← valueWithin fuel rest
    let table ← orMalformed (table.add k v)
    match skipSpace rest with
    | '\x7d' :: rest => .ok (.map table.entries, rest)
    | ',' :: rest => inlineWithin fuel table (skipSpace rest)
    | _ => .error .malformed

end

/-- Every step takes a character, so the length of the text bounds the depth. -/
def value (cs : List Char) : Except Refusal (Value × List Char) := valueWithin (2 * cs.length + 2) cs

/-! ## Statements -/

/-- A header behind its opening bracket: a table, or with a second bracket the next table of a list. -/
def header (cs : List Char) (t : Tables) : Except Refusal (Tables × List Char) := do
  let t := t.settle
  match cs with
  | '[' :: rest =>
    let (k, rest) ← key (skipSpace rest)
    let t ← orMalformed (t.declareNext k)
    .ok (t, ← orMalformed (after? [']', ']'] rest))
  | rest =>
    let (k, rest) ← key (skipSpace rest)
    let t ← orMalformed (t.declare k)
    .ok (t, ← orMalformed (after? [']'] rest))

def assignment (cs : List Char) (t : Tables) : Except Refusal (Tables × List Char) := do
  let (k, rest) ← keyAndSign cs
  let (v, rest) ← value rest
  .ok (← orMalformed (t.assign k v), rest)

/-- The statement that a line holds, if it holds any. -/
def statement (cs : List Char) (t : Tables) : Except Refusal (Tables × List Char) :=
  match cs with
  | [] => .ok (t, [])
  | c :: rest =>
    if c = '\n' ∨ c = '#' then .ok (t, cs)
    else if isKeyStart c then assignment cs t
    else if c = '[' then header rest t
    else .error .malformed

/-- Reads line after line. -/
def lines : Nat → List Char → Tables → Except Refusal Tables
  | 0, _, _ => .error .malformed
  | fuel + 1, cs, t => do
    let (t, rest) ← statement (skipSpace cs) t
    match ← skipComment (skipSpace rest) with
    | [] => .ok t
    | '\n' :: rest => lines fuel rest t
    | _ => .error .malformed

/-- The table that a text denotes. Every line but the last ends with a character, so the length of the
text bounds their number. -/
def read (cs : List Char) : Except Refusal Entries := do
  let cs := replace ['\r', '\n'] ['\n'] cs
  let t ← lines (cs.length + 1) cs .start
  .ok t.root

end Toml
end Arazzo
