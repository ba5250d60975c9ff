import Arazzo.Document.Value

/-!
# Tables in TOML

The tables that headers and dotted keys build up, and what has been settled about them. A table that a
header declared cannot be declared again, nor can dotted keys of a later part open it. An array or an
inline table is closed once written. A list of tables that grows starts anew with its last table.
-/

namespace Arazzo
namespace Toml

abbrev Key := List String

/-- Changes the table at a path. Missing tables are made on the way; a list stands for its last table
if `throughLists`. -/
def alterAt (throughLists : Bool) (f : Entries → Option Entries) : Key → Entries → Option Entries
  | [], table => f table
  | name :: path, table =>
    let put (v : Value) : Entries := Entries.insert (.text name) v table
    match Entries.get? table name with
    | none => (alterAt throughLists f path []).map fun t => put (.map t)
    | some (.map inner) => (alterAt throughLists f path inner).map fun t => put (.map t)
    | some (.list items) => match throughLists, items.getLast? with
      | true, some (.map inner) => (alterAt throughLists f path inner).map fun t =>
          put (.list (items.dropLast ++ [.map t]))
      | _, _ => none
    | some _ => none

/-- Adds an entry whose name is new. -/
def add (name : String) (v : Value) (table : Entries) : Option Entries :=
  if (Entries.get? table name).isSome then none
  else some (Entries.insert (.text name) v table)

/-- Adds an empty table to a list, which is made if it is missing. -/
def appendTable (name : String) (table : Entries) : Option Entries :=
  match Entries.get? table name with
  | none => some (Entries.insert (.text name) (.list [.map []]) table)
  | some (.list items) =>
    some (Entries.insert (.text name) (.list (items ++ [.map []])) table)
  | some _ => none

/-- Whether a key or a beginning of it is among those closed. -/
def isClosed (closed : List Key) (key : Key) : Bool :=
  !key.isEmpty && closed.any fun c => c.isPrefixOf key

def isCollection : Value → Bool
  | .map _ => true
  | .list _ => true
  | _ => false

/-- The keys of an inline table. -/
structure Inline where
  entries : Entries
  closed : List Key

def Inline.add (table : Inline) (key : Key) (v : Value) : Option Inline := do
  if isClosed table.closed key then none
  let entries ← alterAt false (Toml.add (key.getLastD "") v) key.dropLast table.entries
  some ⟨entries, if isCollection v then key :: table.closed else table.closed⟩

/-- A document so far. -/
structure Tables where
  root : Entries
  /-- The table that keys are relative to. -/
  header : Key
  /-- The tables that cannot be opened again. -/
  settled : List Key
  /-- The tables that cannot be opened again behind the next header. -/
  pending : List Key
  /-- The arrays and inline tables. -/
  closed : List Key

namespace Tables

def start : Tables := ⟨[], [], [], [], []⟩

/-- Leaves the current table. -/
def settle (t : Tables) : Tables := { t with settled := t.pending ++ t.settled, pending := [] }

/-- Declares a table. -/
def declare (key : Key) (t : Tables) : Option Tables := do
  if t.settled.contains key || isClosed t.closed key then none
  let root ← alterAt true some key t.root
  some { t with root := root, header := key, settled := key :: t.settled }

/-- Declares the next table of a list. -/
def declareNext (key : Key) (t : Tables) : Option Tables := do
  if isClosed t.closed key then none
  let root ← alterAt true (appendTable (key.getLastD "")) key.dropLast t.root
  let outside (k : Key) : Bool := !key.isPrefixOf k
  some { t with
    root := root
    header := key
    settled := key :: t.settled.filter outside
    closed := t.closed.filter outside }

/-- The beginnings of a key that are neither empty nor the whole key. -/
def properBeginnings (key : Key) : List Key :=
  (List.range (key.length - 1)).map fun i => key.take (i + 1)

/-- Sets a key of the current table. -/
def assign (key : Key) (v : Value) (t : Tables) : Option Tables := do
  let opened := (properBeginnings key).map (t.header ++ ·)
  if opened.any t.settled.contains then none
  let parent := t.header ++ key.dropLast
  if isClosed t.closed parent then none
  let root ← alterAt true (Toml.add (key.getLastD "") v) parent t.root
  some { t with
    root := root
    pending := opened ++ t.pending
    closed := if isCollection v then (t.header ++ key) :: t.closed else t.closed }

end Tables
end Toml
end Arazzo
