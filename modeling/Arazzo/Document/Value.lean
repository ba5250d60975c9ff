import Arazzo.Document.Calendar
import Arazzo.Number.Exact
import Arazzo.Text.Surrogate

/-!
# Document values

What a document holds: scalars, lists, tuples, sets of scalars, and mappings from scalars to values
in the order in which their keys first came. A mapping finds a key by equality of values: equal
numbers are one key, whatever their kinds, and the truth values count as the numbers 1 and 0. As a
number not-a-number equals nothing, but in a collection it is the same as one with its payload.

What the steps of a run record may hold the mapping of all that they record, itself and not a copy. One
scalar stands for this mapping.
-/

namespace Arazzo

inductive Scalar where
  | null
  | bool (b : Bool)
  | int (i : Int)
  | float (x : Binary64)
  | text (s : String)
  | date (d : Date)
  | time (t : TimeOfDay)
  | dateTime (d : DateTime)
  | bytes (bs : List UInt8)
  /-- The mapping of steps itself. -/
  | steps
deriving DecidableEq, Repr, Inhabited

namespace Scalar

/-- The exact value of a number; the truth values count as 1 and 0. -/
def number? : Scalar → Option Exact
  | .bool b => some (.ofInt (if b then 1 else 0))
  | .int i => some (.ofInt i)
  | .float x => some (.ofBinary x)
  | _ => none

/-- Integers and floating-point values are numbers, truth values are not. -/
def isNumber : Scalar → Bool
  | .int _ => true
  | .float _ => true
  | _ => false

/-- Equality of values. -/
def equal : Scalar → Scalar → Bool
  | .null, .null => true
  | .text s, .text t => s == t
  | .date a, .date b => a == b
  | .time a, .time b => a == b
  | .dateTime a, .dateTime b => a.order? b == some .eq
  | .bytes a, .bytes b => a == b
  | .steps, .steps => true
  | a, b => match a.number?, b.number? with
    | some x, some y => x.same y
    | _, _ => false

/-- Whether two scalars are one key or item: equal ones are, and not-a-number with one payload. -/
def same : Scalar → Scalar → Bool
  | .float (.nan p), .float (.nan q) => p == q
  | a, b => a.equal b

/-- The order of two byte sequences. -/
def orderBytes (a b : List UInt8) : Ordering := compare (a.map UInt8.toNat) (b.map UInt8.toNat)

/-- The order of two texts, by code points. -/
def orderText (s t : String) : Ordering :=
  compare (s.toList.map Text.codeOf) (t.toList.map Text.codeOf)

/-- The order of two values of one kind; between kinds there is none. -/
def order? : Scalar → Scalar → Option Ordering
  | .text s, .text t => some (orderText s t)
  | .date a, .date b => some (compare a.ordinal b.ordinal)
  | .time a, .time b => some (compare a.microseconds b.microseconds)
  | .dateTime a, .dateTime b => a.order? b
  | .bytes a, .bytes b => some (orderBytes a b)
  | a, b => match a.number?, b.number? with
    | some x, some y => x.order? y
    | _, _ => none

end Scalar

inductive Value where
  | scalar (s : Scalar)
  | list (items : List Value)
  | tuple (items : List Value)
  | set (members : List Scalar)
  | map (entries : List (Scalar × Value))
deriving Inhabited

/-- The entries of a mapping, in order. -/
abbrev Entries := List (Scalar × Value)

namespace Value

@[match_pattern] abbrev null : Value := .scalar .null
@[match_pattern] abbrev bool (b : Bool) : Value := .scalar (.bool b)
@[match_pattern] abbrev int (i : Int) : Value := .scalar (.int i)
@[match_pattern] abbrev float (x : Binary64) : Value := .scalar (.float x)
@[match_pattern] abbrev text (s : String) : Value := .scalar (.text s)

def ofOption (o : Option Value) : Value := o.getD .null

def isNull : Value → Bool
  | .null => true
  | _ => false

def text? : Value → Option String
  | .text s => some s
  | _ => none

def map? : Value → Option Entries
  | .map entries => some entries
  | _ => none

/-- Null, false, zero and whatever is empty do not count as true. -/
def truthy : Value → Bool
  | .scalar s => match s with
    | .null => false
    | .bool b => b
    | .int i => i != 0
    | .float x => !x.isZero
    | .text t => t != ""
    | .bytes bs => !bs.isEmpty
    | _ => true
  | .list items => !items.isEmpty
  | .tuple items => !items.isEmpty
  | .set members => !members.isEmpty
  | .map entries => !entries.isEmpty

mutual

/-- The value with another one in the place of each scalar `steps`. -/
def unfold (steps : Value) : Value → Value
  | .scalar .steps => steps
  | .list items => .list (unfoldItems steps items)
  | .tuple items => .tuple (unfoldItems steps items)
  | .map entries => .map (unfoldEntries steps entries)
  | v => v

def unfoldItems (steps : Value) : List Value → List Value
  | [] => []
  | v :: rest => unfold steps v :: unfoldItems steps rest

def unfoldEntries (steps : Value) : List (Scalar × Value) → List (Scalar × Value)
  | [] => []
  | (k, v) :: rest => (k, unfold steps v) :: unfoldEntries steps rest

end

end Value

namespace Entries

/-- The value of a key. -/
def find? (key : Scalar) : Entries → Option Value
  | [] => none
  | (k, v) :: rest => if k.same key then some v else find? key rest

/-- The value of a text key. -/
def get? (entries : Entries) (key : String) : Option Value := find? (.text key) entries

/-- Sets the value of a key: in place if the key is there, else at the end. -/
def insert (key : Scalar) (value : Value) : Entries → Entries
  | [] => [(key, value)]
  | (k, v) :: rest => if k.same key then (k, value) :: rest else (k, v) :: insert key value rest

def erase (key : Scalar) (entries : Entries) : Entries := entries.filter fun entry => !entry.1.same key

/-- Inserts entries one after the other. -/
def insertAll (entries added : Entries) : Entries :=
  added.foldl (fun acc entry => insert entry.1 entry.2 acc) entries

/-- The mapping that pairs in this order make; the last value of a key wins. -/
def ofPairs (pairs : List (Scalar × Value)) : Entries := insertAll [] pairs

def ofTexts (pairs : List (String × Value)) : Entries :=
  pairs.map fun (key, value) => (.text key, value)

end Entries
end Arazzo
