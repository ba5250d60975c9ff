import Arazzo.Expression.Path
import Arazzo.Expression.Path.Token

/-!
# Reading paths

A path is read from left to right with a stack of operators that wait for their right side. Of two
operators the one that binds tighter goes first, equal ones from the left; the order, from loose to
tight, is `..`, `.`, `|`, `&`, `where`, `wherenot`. Square brackets apply to everything in front of
them up to the innermost open parenthesis.
-/

namespace Arazzo
namespace Path

/-- The operators between two paths. -/
inductive Joint where
  | descendants
  | child
  | union
  | intersection
  | having
  | lacking
deriving DecidableEq, Repr

namespace Joint

def rank : Joint → Nat
  | .descendants => 0
  | .child => 1
  | .union => 2
  | .intersection => 3
  | .having => 4
  | .lacking => 5

def apply : Joint → Path → Path → Path
  | .descendants => .descendants
  | .child => .child
  | .union => .union
  | .intersection => .intersection
  | .having => .having
  | .lacking => .lacking

def ofToken? : Token → Option Joint
  | .dots => some .descendants
  | .mark c =>
    if c = '.' then some .child
    else if c = '|' then some .union
    else if c = '&' then some .intersection
    else none
  | .keywordWhere => some .having
  | .keywordWhereNot => some .lacking
  | _ => none

end Joint

/-- What stands to the right of the last waiting operator. -/
inductive Operand where
  | missing
  | complete (path : Path)
  /-- A list of names that a comma may continue; the last one first. -/
  | names (taken : List String)
  /-- The same behind a comma. -/
  | namesOpen (taken : List String)

def Operand.path? : Operand → Option Path
  | .complete path => some path
  | .names taken => some (.fields taken.reverse)
  | _ => none

/-- The part of a path between two parentheses: waiting operators with their left sides, the last
one first, and the operand behind them. -/
structure Level where
  waiting : List (Path × Joint)
  operand : Operand

namespace Level

def empty : Level := ⟨[], .missing⟩

/-- Applies the waiting operators that bind at least as tightly as a rank. -/
def reduce (rank : Nat) : List (Path × Joint) → Path → List (Path × Joint) × Path
  | [], path => ([], path)
  | (left, joint) :: rest, path =>
    if rank ≤ joint.rank then reduce rank rest (joint.apply left path)
    else ((left, joint) :: rest, path)

/-- Applies all waiting operators. -/
def close? (level : Level) : Option Path :=
  level.operand.path?.map fun path => (reduce 0 level.waiting path).2

def put? (level : Level) (path : Path) : Option Level :=
  match level.operand with
  | .missing => some { level with operand := .complete path }
  | _ => none

def join? (level : Level) (joint : Joint) : Option Level :=
  level.operand.path?.map fun path =>
    let (waiting, left) := reduce joint.rank level.waiting path
    ⟨(left, joint) :: waiting, .missing⟩

def name? (level : Level) (s : String) : Option Level :=
  match level.operand with
  | .missing => some { level with operand := .names [s] }
  | .namesOpen taken => some { level with operand := .names (s :: taken) }
  | _ => none

def comma? (level : Level) : Option Level :=
  match level.operand with
  | .names taken => some { level with operand := .namesOpen taken }
  | _ => none

/-- Applies a selection in brackets: to all that stands in front of it, or as an operand. -/
def bracket? (level : Level) (inner : Path) : Option Level :=
  match level.operand with
  | .missing => level.put? inner
  | _ => level.close?.map fun path => ⟨[], .complete (.child path inner)⟩

end Level

/-- Integers or names with commas between them. -/
def separated? {α : Type} (item? : Token → Option α) : List Token → Option (List α)
  | [t] => (item? t).map ([·])
  | t :: .mark ',' :: rest => do
    let item ← item? t
    let items ← separated? item? rest
    some (item :: items)
  | _ => none

def number? : Token → Option Int
  | .number i => some i
  | _ => none

def name? : Token → Option String
  | .name s => some s
  | _ => none

/-- The parts between colons. -/
def splitColons : List Token → List (List Token)
  | [] => [[]]
  | .mark ':' :: rest => [] :: splitColons rest
  | t :: rest => match splitColons rest with
    | part :: parts => (t :: part) :: parts
    | [] => [[t]]

/-- A bound of a slice, which may be left out. -/
def bound? : List Token → Option (Option Int)
  | [] => some none
  | [.number i] => some (some i)
  | _ => none

def slice? (tokens : List Token) : Option Path :=
  match splitColons tokens with
  | [a, b] => do some (.slice (← bound? a) (← bound? b) none)
  | [a, b, c] => do some (.slice (← bound? a) (← bound? b) (← bound? c))
  | _ => none

/-- The selection that the tokens between brackets describe. -/
def bracketed? (tokens : List Token) : Option Path :=
  if tokens = [.mark '*'] then some .every
  else match separated? number? tokens with
    | some positions => some (.index positions)
    | none => match separated? name? tokens with
      | some names => some (.fields names)
      | none => slice? tokens

/-- Where the reader stands: the open levels, the innermost first, and the tokens behind an open
bracket, the last one first. -/
structure Progress where
  level : Level
  outer : List Level
  bracket : Option (List Token)

/-- Reads one token outside brackets. -/
def Progress.step? (progress : Progress) (token : Token) : Option Progress :=
  let continue? (next : Option Level) : Option Progress :=
    next.map fun level => { progress with level := level }
  match Joint.ofToken? token with
  | some joint => continue? (progress.level.join? joint)
  | none => match token with
    | .name s => continue? (progress.level.name? s)
    | .number i => continue? (progress.level.put? (.fields [toString i]))
    | .operator s =>
      if s = "this" then continue? (progress.level.put? .this)
      else if s = "parent" then continue? (progress.level.put? .parent)
      else none
    | .mark '$' => continue? (progress.level.put? .root)
    | .mark '*' => continue? (progress.level.put? .every)
    | .mark ',' => continue? progress.level.comma?
    | .mark '[' => match progress.level.operand with
      | .namesOpen _ => none
      | _ => some { progress with bracket := some [] }
    | .mark '(' => match progress.level.operand with
      | .missing => some ⟨.empty, progress.level :: progress.outer, none⟩
      | _ => none
    | .mark ')' => match progress.outer with
      | level :: outer => do
        let path ← progress.level.close?
        let level ← level.put? path
        some ⟨level, outer, none⟩
      | [] => none
    | _ => none

/-- Reads one token. -/
def Progress.read? (progress : Progress) (token : Token) : Option Progress :=
  match progress.bracket with
  | none => progress.step? token
  | some taken =>
    if token = .mark ']' then do
      let inner ← bracketed? taken.reverse
      let level ← progress.level.bracket? inner
      some { progress with level := level, bracket := none }
    else some { progress with bracket := some (token :: taken) }

/-- The path that a text denotes. -/
def read? (cs : List Char) : Option Path := do
  let tokens ← tokens? cs
  let done ← tokens.foldlM Progress.read? ⟨.empty, [], none⟩
  match done.outer, done.bracket with
  | [], none => done.level.close?
  | _, _ => none

end Path
end Arazzo
