import Arazzo.Number.Numeral

/-!
# Tokens of the path language

A path is cut into names, integers, operators in backquotes and marks. A name starts with a letter,
an underscore, an at sign, a CJK ideograph or a face and goes on with these, digits and hyphens;
between quotes a name may be any text. Blanks, tabs and line feeds separate tokens.
-/

namespace Arazzo
namespace Path

inductive Token where
  | name (s : String)
  | number (i : Int)
  | operator (s : String)
  | keywordWhere
  | keywordWhereNot
  | dots
  | mark (c : Char)
deriving DecidableEq, Repr

def isLetter (c : Char) : Bool :=
  c.isAlpha || c = '_' || c = '@' || (0x4E00 ≤ c.toNat && c.toNat ≤ 0x9FA5) ||
    (0x1F600 ≤ c.toNat && c.toNat ≤ 0x1F64F)

def isNameChar (c : Char) : Bool := isLetter c || ('0' ≤ c && c ≤ '9') || c = '-'

/-- The marks that are tokens on their own. -/
def marks : List Char := ['*', '.', '[', ']', '(', ')', '$', ',', ':', '|', '&', '~']

/-- What the characters read so far belong to; texts under way are kept in reverse. -/
inductive Reading where
  | nothing
  | word (taken : List Char)
  | digits (negative : Bool) (taken : List Nat)
  | minus
  | dot
  | quoted (delimiter : Char) (taken : List Char)
  | escaped (delimiter : Char) (taken : List Char)

def backquote : Char := '\x60'

def wordToken (taken : List Char) : Token :=
  let word := String.ofList taken.reverse
  if word = "where" then .keywordWhere
  else if word = "wherenot" then .keywordWhereNot
  else .name word

def quotedToken (delimiter : Char) (taken : List Char) : Token :=
  let s := String.ofList taken.reverse
  if delimiter = backquote then .operator s else .name s

/-- The integer that digits denote, unless there are too many of them. -/
def numberToken? (negative : Bool) (taken : List Nat) : Option Token :=
  if taken.length > Numeral.digitLimit then none
  else some (.number (Numeral.signed negative (Numeral.valueOf 10 taken.reverse)))

/-- What a character starts when no token is under way: the tokens that it completes and the one
that it begins. -/
def begin? (c : Char) : Option (List Token × Reading) :=
  if c = ' ' ∨ c = '\t' ∨ c = '\n' then some ([], .nothing)
  else if isLetter c then some ([], .word [c])
  else match Text.digit? c with
    | some d => some ([], .digits false [d])
    | none =>
      if c = '-' then some ([], .minus)
      else if c = '\x27' ∨ c = '\x22' ∨ c = backquote then some ([], .quoted c [])
      else if c = '.' then some ([], .dot)
      else if marks.contains c then some ([.mark c], .nothing)
      else none

/-- The tokens that are complete when the text ends. -/
def finish? : Reading → Option (List Token)
  | .nothing => some []
  | .word taken => some [wordToken taken]
  | .digits negative taken => (numberToken? negative taken).map ([·])
  | .dot => some [.mark '.']
  | .minus => none
  | .quoted .. => none
  | .escaped .. => none

/-- Completes the token under way and starts anew with a character. -/
def restart? (reading : Reading) (c : Char) : Option (List Token × Reading) := do
  let done ← finish? reading
  let (tokens, next) ← begin? c
  some (done ++ tokens, next)

/-- Reads one character. -/
def advance? (reading : Reading) (c : Char) : Option (List Token × Reading) :=
  match reading with
  | .nothing => begin? c
  | .word taken => if isNameChar c then some ([], .word (c :: taken)) else restart? reading c
  | .digits negative taken => match Text.digit? c with
    | some d => some ([], .digits negative (d :: taken))
    | none => restart? reading c
  | .minus => (Text.digit? c).map fun d => ([], .digits true [d])
  | .dot => if c = '.' then some ([.dots], .nothing) else restart? reading c
  | .quoted delimiter taken =>
    if c = delimiter then some ([quotedToken delimiter taken], .nothing)
    else if c = '\\' then some ([], .escaped delimiter taken)
    else some ([], .quoted delimiter (c :: taken))
  | .escaped delimiter taken =>
    if c = '\n' then none else some ([], .quoted delimiter (c :: taken))

/-- The tokens of a text, if every part of it belongs to one. -/
def tokensFrom? : Reading → List Char → Option (List Token)
  | reading, [] => finish? reading
  | reading, c :: cs => do
    let (tokens, next) ← advance? reading c
    let rest ← tokensFrom? next cs
    some (tokens ++ rest)

def tokens? (cs : List Char) : Option (List Token) := tokensFrom? .nothing cs

end Path
end Arazzo
