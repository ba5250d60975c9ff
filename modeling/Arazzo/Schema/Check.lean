import Arazzo.Document.Named
import Arazzo.Number.Numeral
import Arazzo.Schema.Issue
import Arazzo.Text.Encoding

/-!
# Checks

A check turns a document value into a typed one or lists all that is wrong with it. Checks are
lenient: an integer may be written as a text or as a whole floating-point value, a truth value counts
as 1 or 0. The parts of a record are checked independently and their issues come in the order of the
parts.
-/

namespace Arazzo

abbrev Checked (α : Type) := Except (List Issue) α

namespace Checked

variable {α β : Type}

def issue (problem : Problem) : Checked α := .error [⟨[], problem⟩]

/-- Gives one more checked argument to a checked function; the issues of both are kept. -/
def also (f : Checked (α → β)) (a : Checked α) : Checked β :=
  match f, a with
  | .ok f, .ok a => .ok (f a)
  | .ok _, .error issues => .error issues
  | .error issues, .ok _ => .error issues
  | .error first, .error second => .error (first ++ second)

/-- Places the issues of a part. -/
def under (place : Place) : Checked α → Checked α
  | .ok a => .ok a
  | .error issues => .error (issues.map (Issue.under place))

/-- A first alternative, and a second one if the first fails; the issues of both are kept. -/
def orElse (first second : Checked α) : Checked α :=
  match first, second with
  | .ok a, _ => .ok a
  | .error _, .ok a => .ok a
  | .error i, .error j => .error (i ++ j)

end Checked

namespace Check

open Text Checked

/-- Blanks other than the information separators. -/
def isSpace (c : Char) : Bool := isBlank c && !(0x1C ≤ c.toNat && c.toNat ≤ 0x1F)

def text : Value → Checked String
  | .text s => .ok s
  | .scalar (.bytes bs) => match readUtf8? bs with
    | some cs => .ok (String.ofList cs)
    | none => issue .undecodableText
  | _ => issue .notText

/-- The text that a value is, or that its bytes spell. -/
def spelled? (unreadable : Problem) : Value → Checked (Option (List Char))
  | .text s => if isEncodable s.toList then .ok (some s.toList) else issue .undecodableText
  | .scalar (.bytes bs) => match readUtf8? bs with
    | some cs => .ok (some cs)
    | none => issue unreadable
  | _ => .ok none

/-- Drops underscores that stand alone between other characters. -/
def dropUnderscores? : List Char → Option (List Char)
  | [] => none
  | [c] => if c = '_' then none else some [c]
  | '_' :: _ => none
  | c :: '_' :: cs => (dropUnderscores? cs).map (c :: ·)
  | c :: cs => (dropUnderscores? cs).map (c :: ·)

/-- Drops a point with zeros and nothing else behind it. -/
def dropZeroFraction (cs : List Char) : List Char :=
  match cutAt '.' cs with
  | some (whole, fraction) => if fraction ≠ [] && fraction.all (· = '0') then whole else cs
  | none => cs

def isPositiveDigit (c : Char) : Bool := '1' ≤ c && c ≤ '9'

/-- Passes over zeros and underscores behind a zero or underscore; the last one stays if nothing or
a point follows. -/
def pastZeros (last : Char) : List Char → Option (List Char)
  | [] => some [last]
  | c :: cs =>
    if c = '0' ∨ c = '_' then pastZeros c cs
    else if c = '-' || isPositiveDigit c then some (c :: cs)
    else if c = '.' then some (last :: c :: cs)
    else none

/-- Drops leading zeros, also before a minus but none behind it. A number starts with a digit or a
minus. -/
def dropZeros? : List Char → Option (List Char)
  | '0' :: cs => pastZeros '0' cs
  | c :: cs => if c = '-' || isPositiveDigit c then some (c :: cs) else none
  | [] => none

/-- A text without its plus, leading zeros, empty fraction and underscores. -/
def bareInteger? (cs : List Char) : Option (List Char) := do
  let cs ← match cs with
    | '+' :: rest => if rest.head? = some '-' then none else some rest
    | _ => some cs
  let cs := dropZeroFraction (← dropZeros? cs)
  some ((dropUnderscores? cs).getD cs)

/-- Digits behind at most a minus. -/
def plainInteger? (cs : List Char) : Option Int :=
  let (negative, body) := match cs with
    | '-' :: rest => (true, rest)
    | _ => (false, cs)
  if body.isEmpty then none
  else (body.mapM asciiDigit?).map fun ds => Numeral.signed negative (Numeral.valueOf 10 ds)

/-- How many characters of a text a minus and the digits behind it take. -/
def leadingDigits (cs : List Char) : Nat :=
  match cs with
  | '-' :: rest => (rest.takeWhile (fun c => (asciiDigit? c).isSome)).length + 1
  | _ => (cs.takeWhile fun c => (asciiDigit? c).isSome).length

/-- An integer written as a text. -/
def integerText (cs : List Char) : Checked Int :=
  match bareInteger? (trim isSpace cs) with
  | none => issue .notIntegerText
  | some bare =>
    if leadingDigits bare > Numeral.digitLimit then issue .integerTooLarge
    else match plainInteger? bare with
      | some i => .ok i
      | none => issue .notIntegerText

/-- Below this size an integer may be given as a floating-point value. -/
def wholeLimit : Int := 0x8000000000000000

/-- The integer that a floating-point value is. -/
def wholeNumber (x : Binary64) : Checked Int :=
  if !x.isFinite then issue .notFinite
  else match x.toInt? with
    | some i => if -wholeLimit < i ∧ i < wholeLimit then .ok i else issue .integerTooLarge
    | none => issue .fractional

def integer : Value → Checked Int
  | .int i => .ok i
  | .bool b => .ok (if b then 1 else 0)
  | .float x => wholeNumber x
  | v => do
    match ← spelled? .notIntegerText v with
    | some cs => integerText cs
    | none => issue .notInteger

def numberText (cs : List Char) : Checked Binary64 :=
  let read? (cs : List Char) : Option Binary64 :=
    if isAscii cs then (Numeral.special? cs).or (Numeral.decimal? cs) else none
  let cs := trim isSpace cs
  match (read? cs).or ((dropUnderscores? cs).bind read?) with
  | some x => .ok x
  | none => issue .notNumberText

/-- The floating-point value of an integer, if there is one. -/
def ofInteger (i : Int) : Checked Binary64 :=
  let x := Binary64.ofInt i
  if x.isFinite then .ok x else issue .notNumber

def number : Value → Checked Binary64
  | .float x => .ok x
  | .int i => ofInteger i
  | .bool b => ofInteger (if b then 1 else 0)
  | v => do
    match ← spelled? .notNumberText v with
    | some cs => numberText cs
    | none => issue .notNumber

/-- A text out of a list of allowed ones, each with what it stands for. -/
def among {α : Type} (allowed : List (String × α)) (v : Value) : Checked α :=
  let problem := Problem.notAmong (allowed.map Prod.fst)
  match v with
  | .text s => match allowed.lookup s with
    | some a => .ok a
    | none => issue (if isEncodable s.toList then problem else .undecodableText)
  | _ => issue problem

/-- Null, or what another check accepts. -/
def optional {α : Type} (check : Value → Checked α) : Value → Checked (Option α)
  | .null => .ok none
  | v => (check v).map some

/-- Checks items from an index on. -/
def itemsFrom {α : Type} (check : Value → Checked α) : Nat → List Value → Checked (List α)
  | _, [] => .ok []
  | i, v :: rest =>
    also (((check v).under (.index (i : Int))).map List.cons) (itemsFrom check (i + 1) rest)

def list {α : Type} (check : Value → Checked α) : Value → Checked (List α)
  | .list items => itemsFrom check 0 items
  | .tuple items => itemsFrom check 0 items
  | .set members => itemsFrom check 0 (members.map .scalar)
  | _ => issue .notList

/-- The place of a key: texts stand for themselves, and so do integers in the range of indexes. -/
def keyPlace : Scalar → Place
  | .text s => .name s
  | .int i =>
    if -wholeLimit ≤ i ∧ i < wholeLimit then .index i else .name (Scalar.int i).display
  | .bool b => .index (if b then 1 else 0)
  | s => .name s.display

/-- Checks the keys and values of a mapping. -/
def mappingEntries {α : Type} (check : Value → Checked α) :
    Entries → Checked (List (String × α))
  | [] => .ok []
  | (k, v) :: rest =>
    let key := ((text (.scalar k)).under (.name "[key]")).under (keyPlace k)
    let value := (check v).under (keyPlace k)
    also ((also (key.map Prod.mk) value).map List.cons) (mappingEntries check rest)

/-- A mapping from texts. Of two keys that read as one text the later one gives the value. -/
def mapping {α : Type} (check : Value → Checked α) : Value → Checked (List (String × α))
  | .map entries => (mappingEntries check entries).map (Named.overlay [])
  | _ => issue .notMapping

def anything (v : Value) : Checked Value := .ok v

/-- A field of a record: the key that documents use, and a second key that is accepted too. -/
structure Field where
  key : String
  alternative : String

/-- A field with one key only. -/
def Field.plain (key : String) : Field := ⟨key, key⟩

/-- The key under which a field is there, and its value. -/
def Field.find? (field : Field) (entries : Entries) : Option (String × Value) :=
  match Entries.get? entries field.key with
  | some v => some (field.key, v)
  | none => (Entries.get? entries field.alternative).map fun v => (field.alternative, v)

/-- How well a mapping fits a record that is named by one of its fields: the more fields of the record
it gives the better, and among equals it is better if the name needs no decoding. -/
def fit (entries : Entries) (name : Field) (others : List Field) : Nat :=
  let given := (name :: others).filterMap fun field => field.find? entries
  let decoded := match name.find? entries with
    | some (_, .scalar (.bytes _)) => true
    | _ => false
  2 * given.length + if decoded then 0 else 1

/-- A field that has to be there. -/
def required {α : Type} (entries : Entries) (field : Field) (check : Value → Checked α) :
    Checked α :=
  match field.find? entries with
  | some (key, v) => (check v).under (.name key)
  | none => (issue .missing).under (.name field.key)

/-- A field with a value of its own for the case that it is not there. -/
def withDefault {α : Type} (entries : Entries) (field : Field) (default : α)
    (check : Value → Checked α) : Checked α :=
  match field.find? entries with
  | some (key, v) => (check v).under (.name key)
  | none => .ok default

/-- A field that may be missing or null. -/
def possible {α : Type} (entries : Entries) (field : Field) (check : Value → Checked α) :
    Checked (Option α) :=
  withDefault entries field none (optional check)

/-- Checks that the keys of leftover entries are texts. -/
def textKeys : Entries → Checked (List (String × Value))
  | [] => .ok []
  | (.text s, v) :: rest => Except.map (List.cons (s, v)) (textKeys rest)
  | (k, _) :: rest =>
    also ((issue .keyNotText).under (keyPlace k)) (textKeys rest)

/-- The entries that belong to no field. -/
def leftover (entries : Entries) (fields : List Field) : Checked (List (String × Value)) :=
  let used := fields.filterMap fun field => (field.find? entries).map Prod.fst
  textKeys (entries.filter fun entry => match entry.1 with
    | .text s => !used.contains s
    | _ => true)

/-- Whether a key has no UTF-8 form. -/
def isUnreadableKey : Scalar → Bool
  | .text s => !isEncodable s.toList
  | _ => false

/-- The entries of a record of a kind. A key without a UTF-8 form is all that is said of it. -/
def record {α : Type} (kind : String) (check : Entries → Checked α) : Value → Checked α
  | .map entries =>
    if entries.any fun entry => isUnreadableKey entry.1 then issue .undecodableText else check entries
  | _ => issue (.notRecord kind)

end Check
end Arazzo
