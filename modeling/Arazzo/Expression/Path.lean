import Arazzo.Document.Value
import Arazzo.Error

/-!
# Paths

A path selects values inside a document. Each selected value comes with the values around it, so
that a path can lead back to the parent or the root. A field selects by name in a mapping, an index
or a slice in a list or a tuple, and the wildcard every value of a mapping and every item of a list
or a tuple; on other values they select nothing. Descendants are looked for in mappings and lists.

A scalar `steps` is selected as it is, but a path leads on into the mapping that it stands for. If this
mapping holds itself, there is no end to its descendants.
-/

namespace Arazzo

inductive Path where
  | root
  | this
  | parent
  | fields (names : List String)
  | every
  | index (positions : List Int)
  | slice (start stop step : Option Int)
  | child (outer inner : Path)
  | descendants (outer inner : Path)
  | union (left right : Path)
  | intersection (left right : Path)
  | having (outer inner : Path)
  | lacking (outer inner : Path)
deriving DecidableEq, Repr

/-- What a path is followed in: a value, and the mapping that a scalar `steps` in it stands for. -/
structure Document where
  root : Value
  steps : Entries

namespace Path

/-- A selected value and the values around it, the nearest first, in a document with a mapping of
steps. -/
structure Found where
  value : Value
  around : List Value
  steps : Entries

namespace Found

/-- The whole of a document. -/
def whole (document : Document) : Found := ⟨document.root, [], document.steps⟩

def within (found : Found) (value : Value) : Found :=
  ⟨value, found.value :: found.around, found.steps⟩

def root (found : Found) : Found :=
  ⟨(found.value :: found.around).getLastD found.value, [], found.steps⟩

/-- The entries of a mapping; other values have none. -/
def entries? (found : Found) : Option Entries :=
  match found.value with
  | .map entries => some entries
  | .scalar .steps => some found.steps
  | _ => none

/-- The value of a key, if the found value is a mapping that has it. -/
def field (found : Found) (name : String) : Option Found :=
  (found.entries?.bind fun entries => Entries.get? entries name).map found.within

/-- The items of a list or a tuple; other values have none. -/
def items (found : Found) : List Value :=
  match found.value with
  | .list items => items
  | .tuple items => items
  | _ => []

/-- All values of a mapping, or all items. -/
def all (found : Found) : List Found :=
  match found.entries? with
  | some entries => entries.map fun entry => found.within entry.2
  | none => found.items.map found.within

end Found

/-- The item at a position, counted from the end if it is negative. -/
def itemAt (items : List Value) (position : Int) : Option Value :=
  let i := if position < 0 then position + items.length else position
  if i < 0 then none else items[i.toNat]?

/-- A bound of a slice as a position between `low` and `high`. -/
def clampBound (length low high bound : Int) : Int :=
  let i := if bound < 0 then bound + length else bound
  max low (min high i)

/-- The positions `start`, `start + step`, and so on, as long as they are before `stop`. -/
def progression (step stop : Int) : Nat → Int → List Nat
  | 0, _ => []
  | fuel + 1, i =>
    if (0 < step ∧ i < stop) ∨ (step < 0 ∧ stop < i) then
      i.toNat :: progression step stop fuel (i + step)
    else []

/-- The positions that a slice selects; with a step of zero there are none. -/
def slicePositions (length : Nat) (start stop : Option Int) (step : Int) : List Nat :=
  if step = 0 then []
  else if 0 < step then
    let bound := clampBound length 0 length
    progression step ((stop.map bound).getD length) length ((start.map bound).getD 0)
  else
    let bound := clampBound length (-1) (length - 1)
    progression step ((stop.map bound).getD (-1)) length ((start.map bound).getD (length - 1))

/-- What is come to on the way through a value: a value inside it, or the mapping of steps inside itself. -/
inductive Visit where
  | value (found : Found)
  | steps

section
variable (steps : Entries) (atSteps : List Value → List Visit)

mutual

/-- A value and everything inside it, outer values first. What there is at the mapping of steps depends on
the values around it. -/
def visits (around : List Value) : Value → List Visit
  | .list items => .value ⟨.list items, around, steps⟩ :: visitsOfItems (.list items :: around) items
  | .map entries =>
    .value ⟨.map entries, around, steps⟩ :: visitsOfEntries (.map entries :: around) entries
  | .scalar .steps => atSteps around
  | v => [.value ⟨v, around, steps⟩]

def visitsOfItems (around : List Value) : List Value → List Visit
  | [] => []
  | v :: rest => visits around v ++ visitsOfItems around rest

def visitsOfEntries (around : List Value) : List (Scalar × Value) → List Visit
  | [] => []
  | (_, v) :: rest => visits around v ++ visitsOfEntries around rest

end

end

/-- The mapping of steps and everything inside it. -/
def visitsOfSteps (steps : Entries) (around : List Value) : List Visit :=
  .value ⟨.scalar .steps, around, steps⟩ ::
    visitsOfEntries steps (fun _ => [.steps]) (.scalar .steps :: around) steps

/-- A found value and everything inside it. -/
def Found.descendants (found : Found) : List Visit :=
  visits found.steps (visitsOfSteps found.steps) found.around found.value

/-- Applies a selection to what is come to. -/
def Visit.select (select : Found → Except Defect (List Found)) : Visit → Except Defect (List Found)
  | .value found => select found
  | .steps => .error .endlessValue

/-- Applies a selection to several values in turn. -/
def onEach {α : Type} (select : α → Except Defect (List Found)) :
    List α → Except Defect (List Found)
  | [] => .ok []
  | a :: rest => do
    let here ← select a
    let there ← onEach select rest
    .ok (here ++ there)

/-- Keeps the values on which a selection finds something, or on which it finds nothing. -/
def sift (select : Found → Except Defect (List Found)) (wanted : Bool) :
    List Found → Except Defect (List Found)
  | [] => .ok []
  | found :: rest => do
    let inner ← select found
    let kept ← sift select wanted rest
    .ok (if inner.isEmpty = wanted then kept else found :: kept)

/-- The values that a path selects from a starting point. -/
def select : Path → Found → Except Defect (List Found)
  | .root, found => .ok [found.root]
  | .this, found => .ok [found]
  | .parent, found => match found.around with
    | outer :: around => .ok [⟨outer, around, found.steps⟩]
    | [] => .error .parentOfRoot
  | .fields names, found => .ok (names.filterMap found.field)
  | .every, found => .ok found.all
  | .index positions, found =>
    .ok (positions.filterMap fun i => (itemAt found.items i).map found.within)
  | .slice start stop step, found =>
    .ok ((slicePositions found.items.length start stop (step.getD 1)).filterMap fun (i : Nat) =>
      found.items[i]?.map found.within)
  | .child outer inner, found => do onEach inner.select (← outer.select found)
  | .descendants outer inner, found => do
    onEach (Visit.select inner.select) ((← outer.select found).flatMap Found.descendants)
  | .union left right, found => do .ok ((← left.select found) ++ (← right.select found))
  | .intersection .., _ => .error .pathIntersection
  | .having outer inner, found => do sift inner.select true (← outer.select found)
  | .lacking outer inner, found => do sift inner.select false (← outer.select found)

/-- The first value that a path selects in a document, null if there is none. -/
def first (path : Path) (document : Document) : Except Defect Value :=
  (path.select (.whole document)).map fun found => match found with
    | f :: _ => f.value
    | [] => .null

end Path
end Arazzo
