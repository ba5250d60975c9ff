import Arazzo.Document.Value
import Arazzo.Text.Trim

/-!
# Header lines

Names and values in the order in which they are sent. Names are compared without regard to case, and
a name may occur in several lines; read as one value, their values are joined by commas.
-/

namespace Arazzo

abbrev Headers := List (String × String)

namespace Headers

def sameName (a b : String) : Bool := Text.lowerString a == Text.lowerString b

def contains (headers : Headers) (name : String) : Bool := headers.any fun h => sameName h.1 name

/-- The values of a name, in order. -/
def values (headers : Headers) (name : String) : List String :=
  (headers.filter fun h => sameName h.1 name).map Prod.snd

/-- Texts with a comma and a blank between them. -/
def joinValues : List String → String
  | [] => ""
  | [v] => v
  | v :: rest => v ++ ", " ++ joinValues rest

/-- The value of a name, all its lines joined. -/
def get? (headers : Headers) (name : String) : Option String :=
  match headers.values name with
  | [] => none
  | vs => some (joinValues vs)

def erase (headers : Headers) (name : String) : Headers := headers.filter fun h => !sameName h.1 name

/-- Gives a name one value: in the place of its first line, or at the end. -/
def set (name value : String) : Headers → Headers
  | [] => [(name, value)]
  | h :: rest =>
    if sameName h.1 name then (name, value) :: erase rest name else h :: set name value rest

/-- Gives a name a value unless it has one. -/
def setDefault (headers : Headers) (name value : String) : Headers :=
  if headers.contains name then headers else headers ++ [(name, value)]

/-- Replaces all lines whose names occur among other lines, which come behind the rest. -/
def update (headers changed : Headers) : Headers :=
  headers.filter (fun h => !changed.contains h.1) ++ changed

/-- The lines as a document: names in lower case, each with its joined value. -/
def toEntries (headers : Headers) : Entries :=
  Entries.ofPairs (headers.map fun h =>
    (.text (Text.lowerString h.1), .text (joinValues (headers.values h.1))))

end Headers
end Arazzo
