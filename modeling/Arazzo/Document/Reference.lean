import Arazzo.Document.Value
import Arazzo.Error
import Arazzo.Number.Numeral
import Arazzo.Text.Trim

/-!
# References inside a document

A mapping with a text under `$ref` stands for another part of the same document, which the text points
to by a number sign and the keys on the way from the root. Dereferencing puts the part in the place of
the mapping, overlaid with the other entries of the mapping if both are mappings. A reference that is
met again inside the part it stands for is left as it is.
-/

namespace Arazzo
namespace Reference

open Text

def key : Scalar := .text "$ref"

/-- The reference that a mapping holds. -/
def of? (entries : Entries) : Option String := (Entries.find? key entries).bind Value.text?

/-- Undoes the escapes for slash and tilde in a key. -/
def unescape (token : List Char) : List Char :=
  replace ['~', '0'] ['~'] (replace ['~', '1'] ['/'] token)

/-- The position that a key names in a list of a length. -/
def position? (length : Nat) (token : List Char) : Except Fault (Option Nat) :=
  if token.isEmpty ∨ !token.all (fun c => isDigit c || isLooseDigit c) then .ok none
  else match Numeral.digits? token with
    | none => .error (.defect .pointerDigit)
    | some ds =>
      if ds.length > Numeral.digitLimit then .error (.defect .pointerDigit)
      else
        let i := Numeral.valueOf 10 ds
        .ok (if i < length then some i else none)

def unresolvable (reference : String) : Fault :=
  .failure (.loading (.unresolvableReference reference) none none)

/-- The part of a value that a key leads to. -/
def child (reference : String) (value : Value) (token : List Char) : Except Fault Value :=
  match value with
  | .map entries => match Entries.get? entries (String.ofList token) with
    | some v => .ok v
    | none => .error (unresolvable reference)
  | .list items => do
    match ← position? items.length token with
    | some i => match items[i]? with
      | some v => .ok v
      | none => .error (unresolvable reference)
    | none => .error (unresolvable reference)
  | _ => .error (unresolvable reference)

/-- The keys of a pointer; slashes at its start do not count. -/
def tokens (pointer : List Char) : List (List Char) :=
  (splitOnChar '/' (pointer.dropWhile (· = '/'))).map unescape

/-- The part of the root that a reference points to. -/
def resolve (root : Value) (reference : String) : Except Fault Value :=
  match reference.toList.drop 1 with
  | [] => .ok root
  | pointer => (tokens pointer).foldlM (child reference) root

mutual

/-- The references anywhere in a value. -/
def all : Value → List String
  | .list items => allItems items
  | .map entries => (of? entries).toList ++ allEntries entries
  | _ => []

def allItems : List Value → List String
  | [] => []
  | v :: rest => all v ++ allItems rest

def allEntries : List (Scalar × Value) → List String
  | [] => []
  | (_, v) :: rest => all v ++ allEntries rest

end

/-- A mapping that stood for a part, given the part and its own other entries. -/
def merge (part : Value) (siblings : Entries) : Value :=
  match part with
  | .map entries => .map (Entries.insertAll entries siblings)
  | v => v

mutual

/-- Dereferences a value. `active` lists the references whose parts the value lies in, and `follow`
dereferences the part that a further reference points to. -/
def visit (root : Value) (active : List String) (follow : String → Value → Except Fault Value) :
    Value → Except Fault Value
  | .list items => (visitItems root active follow items).map .list
  | .map entries =>
    match of? entries with
    | none => (visitEntries root active follow entries).map .map
    | some reference =>
      if reference.toList.head? ≠ some '#' then
        .error (.failure (.loading (.externalReference reference) none none))
      else if active.contains reference then .ok (.map entries)
      else do
        let part ← follow reference (← resolve root reference)
        let siblings ← visitSiblings root active follow entries
        .ok (merge part siblings)
  | v => .ok v

def visitItems (root : Value) (active : List String) (follow : String → Value → Except Fault Value) :
    List Value → Except Fault (List Value)
  | [] => .ok []
  | v :: rest => do
    let item ← visit root active follow v
    let items ← visitItems root active follow rest
    .ok (item :: items)

def visitEntries (root : Value) (active : List String)
    (follow : String → Value → Except Fault Value) : List (Scalar × Value) → Except Fault Entries
  | [] => .ok []
  | (k, v) :: rest => do
    let item ← visit root active follow v
    let items ← visitEntries root active follow rest
    .ok ((k, item) :: items)

/-- The entries beside a reference. -/
def visitSiblings (root : Value) (active : List String)
    (follow : String → Value → Except Fault Value) : List (Scalar × Value) → Except Fault Entries
  | [] => .ok []
  | (k, v) :: rest =>
    if k.same key then visitSiblings root active follow rest
    else do
      let item ← visit root active follow v
      let items ← visitSiblings root active follow rest
      .ok ((k, item) :: items)

end

/-- Dereferences a value of a document, entering at most `fuel` references inside one another. -/
def dereferenceWithin (root : Value) : Nat → List String → Value → Except Fault Value
  | 0, _, v => .ok v
  | fuel + 1, active, v =>
    visit root active (fun reference => dereferenceWithin root fuel (reference :: active)) v

/-- The document without references, except those that lead back into their own part. Every reference
that is entered inside another one is a further one of the document, so their number bounds the
depth. -/
def dereference (root : Value) : Except Fault Value :=
  dereferenceWithin root ((all root).length + 1) [] root

end Reference
end Arazzo
