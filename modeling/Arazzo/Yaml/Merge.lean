import Arazzo.Error
import Arazzo.Yaml.Graph

/-!
# Merging

A merge key says that its mapping takes over the entries of another mapping, or of several, whose own
merge keys are settled first. Entries that are taken over come before the others, so that the others
win. A default key counts as a text from then on. Settling changes the graph, so a mapping that takes
itself over finds the entries that it has without the merge key.
-/

namespace Arazzo
namespace Yaml
namespace Graph

/-- The entries that a list of mappings gives, the last mapping first. `settle` settles one. -/
def sourcesAll (settle : Nat → Graph → Except Refusal Graph) :
    List Nat → Graph → Except Refusal (List (Nat × Nat) × Graph)
  | [], g => .ok ([], g)
  | i :: rest, g => match g.contentAt i with
    | .map _ => do
      let g ← settle i g
      let own := g.entriesAt i
      let (more, g) ← sourcesAll settle rest g
      .ok (more ++ own, g)
    | _ => .error .malformed

/-- The entries that the value of a merge key gives. -/
def sources (settle : Nat → Graph → Except Refusal Graph) (i : Nat) (g : Graph) :
    Except Refusal (List (Nat × Nat) × Graph) :=
  match g.contentAt i with
  | .map _ => do
    let g ← settle i g
    .ok (g.entriesAt i, g)
  | .list items => sourcesAll settle items g
  | .scalar _ => .error .malformed

/-- Settles the entries of a mapping from left to right, behind those that stay, the last of them
first, and after those that have been taken over. If the mapping was settled on the way, nothing is left
to be done. -/
def settleEntries (settle : Nat → Graph → Except Refusal Graph) (i : Nat) :
    List (Nat × Nat) → List (Nat × Nat) → List (Nat × Nat) → Graph → Except Refusal Graph
  | kept, taken, [], g =>
    .ok (if taken.isEmpty then g else g.setEntries i (taken ++ kept.reverse))
  | kept, taken, (k, v) :: rest, g =>
    if g.tagAt k = .merge then do
      let others := kept.reverse ++ rest
      let (more, g) ← sources settle v (g.setEntries i others)
      let left := g.entriesAt i
      if left = others then settleEntries settle i kept (taken ++ more) rest g
      else .ok (g.setEntries i (taken ++ more ++ left))
    else
      let g := if g.tagAt k = .default then g.setTag k .text else g
      settleEntries settle i ((k, v) :: kept) taken rest g

/-- Settles a mapping; the bound is on how deep merges lie in each other. -/
def settleWithin : Nat → Nat → Graph → Except Refusal Graph
  | 0, _, _ => .error .malformed
  | fuel + 1, i, g => settleEntries (settleWithin fuel) i [] [] (g.entriesAt i) g

/-- Settles a mapping. Each merge within another has a key less to settle, so the number of entries
bounds their depth. -/
def settle (i : Nat) (g : Graph) : Except Refusal Graph := settleWithin (g.entryCount + 1) i g

end Graph
end Yaml
end Arazzo
