import Arazzo.Document.Value

/-!
# Equality and order of document values

Lists and tuples are equal item by item, sets and mappings without regard to order. Two lists are
ordered by the first items that differ, else by length; one set is below another that holds all its
members and more; mappings have no order.
-/

namespace Arazzo
namespace Value

def memberOf (s : Scalar) (members : List Scalar) : Bool := members.any fun m => m.same s

def subset (a b : List Scalar) : Bool := a.all fun s => memberOf s b

mutual

/-- Whether two values are one item of a collection. -/
def same : Value → Value → Bool
  | .scalar a, .scalar b => a.same b
  | .list as, .list bs => sameItems as bs
  | .tuple as, .tuple bs => sameItems as bs
  | .set as, .set bs => as.length == bs.length && subset as bs
  | .map as, .map bs => as.length == bs.length && sameEntries as bs
  | _, _ => false

def sameItems : List Value → List Value → Bool
  | [], [] => true
  | a :: as, b :: bs => same a b && sameItems as bs
  | _, _ => false

/-- Whether each entry has an equal value in the other mapping. -/
def sameEntries : List (Scalar × Value) → List (Scalar × Value) → Bool
  | [], _ => true
  | (k, v) :: as, bs =>
    (match Entries.find? k bs with
      | some w => same v w
      | none => false) && sameEntries as bs

end

/-- Equality of values. -/
def equal : Value → Value → Bool
  | .scalar a, .scalar b => a.equal b
  | a, b => same a b

mutual

/-- The order of two values, if there is one. -/
def order? : Value → Value → Option Ordering
  | .scalar a, .scalar b => a.order? b
  | .list as, .list bs => orderItems? as bs
  | .tuple as, .tuple bs => orderItems? as bs
  | .set as, .set bs =>
    match subset as bs, subset bs as with
    | true, true => some .eq
    | true, false => some .lt
    | false, true => some .gt
    | false, false => none
  | _, _ => none

def orderItems? : List Value → List Value → Option Ordering
  | [], [] => some .eq
  | [], _ :: _ => some .lt
  | _ :: _, [] => some .gt
  | a :: as, b :: bs => if same a b then orderItems? as bs else order? a b

end

end Value
end Arazzo
