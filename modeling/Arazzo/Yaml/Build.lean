import Arazzo.Document.Value
import Arazzo.Yaml.Meaning
import Arazzo.Yaml.Merge

/-!
# Building values

The value that a graph of nodes denotes. Scalars are built where they are met. A list, a mapping, a set
or a list of pairs waits until all that were met before it are built, so of several flaws the first in
this order counts. The keys of mappings and the members of sets are scalars.
-/

namespace Arazzo
namespace Yaml

/-- A value with the collections in it left as places of the graph. -/
inductive Part where
  | scalar (s : Scalar)
  | collection (i : Nat)

/-- What a collection consists of. -/
inductive Contents where
  | list (items : List Part)
  | pairs (items : List (Part × Part))
  | set (members : List Scalar)
  | map (entries : List (Scalar × Part))

/-- The graph, the collections that have been met, those of them that wait, the last one first, and
what the others consist of. -/
structure Building where
  graph : Graph
  met : Array Bool
  waiting : List Nat
  built : Array (Option Contents)

abbrev Build := StateT Building (Except Refusal)

namespace Build

def refuse {α : Type} (r : Refusal) : Build α := fun _ => .error r

def malformed {α : Type} : Build α := refuse .malformed

/-- The text that a scalar has, or a mapping under its default key. A mapping whose default value
is itself has no end. -/
def defaultText (g : Graph) : Nat → Nat → Except Refusal String
  | 0, _ => .error (.defect .endlessValue)
  | fuel + 1, i => match g.contentAt i with
    | .scalar text => .ok text
    | .map entries => match entries.find? fun entry => g.tagAt entry.1 = .default with
      | some (_, v) => defaultText g fuel v
      | none => .error .malformed
    | .list _ => .error .malformed

/-- The payload of not-a-number at a place, different from those of other places and of its word. -/
def payloadAt (i : Nat) : Nat := 2 * i + 2

/-- The scalar that a node is. A mapping with a default key is one, but no date. -/
def scalarAt (g : Graph) (i : Nat) : Except Refusal Scalar := do
  let tag := g.tagAt i
  let text ← defaultText g (g.size + 1) i
  match g.contentAt i with
  | .scalar _ => scalarOf (payloadAt i) tag text
  | _ =>
    if tag = .timestamp then .error (.defect .wrongKind) else scalarOf (payloadAt i) tag text

/-- The tags of values that are built when it is their turn. -/
def isCollection (tag : Tag) : Bool :=
  [Tag.list, .map, .set, .pairs, .orderedMap].contains tag

/-- Meets a node. -/
def part (i : Nat) : Build Part := do
  let b ← get
  let tag := b.graph.tagAt i
  if isCollection tag then
    if b.met[i]? = some false then
      modify fun b => { b with met := b.met.setIfInBounds i true, waiting := i :: b.waiting }
    pure (.collection i)
  else if tag = .merge ∨ tag = .default ∨ tag = .unknown then malformed
  else match scalarAt b.graph i with
    | .ok s => pure (.scalar s)
    | .error r => refuse r

/-- Meets a key, which is a scalar. -/
def key (i : Nat) : Build Scalar := do
  match ← part i with
  | .scalar s => pure s
  | .collection _ => malformed

def entry (pair : Nat × Nat) : Build (Scalar × Part) := do
  let k ← key pair.1
  pure (k, ← part pair.2)

/-- The entries of a mapping, its merge keys settled. -/
def entries (i : Nat) : Build (List (Scalar × Part)) := do
  let g := (← get).graph
  match g.contentAt i with
  | .map _ => match g.settle i with
    | .ok g =>
      modify fun b => { b with graph := g }
      (g.entriesAt i).mapM entry
    | .error r => refuse r
  | _ => malformed

/-- The pair that a mapping with one entry is. -/
def pair (i : Nat) : Build (Part × Part) := do
  match (← get).graph.contentAt i with
  | .map [(k, v)] => do
    let k ← part k
    pure (k, ← part v)
  | _ => malformed

/-- What a collection consists of. -/
def contents (i : Nat) : Build Contents := do
  let g := (← get).graph
  match g.tagAt i, g.contentAt i with
  | .map, _ => .map <$> entries i
  | .set, _ => (fun entries => .set (entries.map Prod.fst)) <$> entries i
  | .list, .list items => .list <$> items.mapM part
  | .pairs, .list items => .pairs <$> items.mapM pair
  | .orderedMap, .list items => .pairs <$> items.mapM pair
  | _, _ => malformed

/-- Builds the collections that wait, then those that were met meanwhile, and so on. -/
def all : Nat → Build Unit
  | 0 => pure ()
  | fuel + 1 => do
    match (← get).waiting with
    | [] => pure ()
    | waiting =>
      modify fun b => { b with waiting := [] }
      waiting.reverse.forM fun i => do
        let c ← contents i
        modify fun b => { b with built := b.built.setIfInBounds i (some c) }
      all fuel

/-! ## Values -/

/-- The value of a part; the bound is on how deep collections lie in each other. -/
def value (built : Array (Option Contents)) : Nat → Part → Except Refusal Value
  | _, .scalar s => .ok (.scalar s)
  | 0, .collection _ => .error (.defect .endlessValue)
  | fuel + 1, .collection i => match built[i]?.join with
    | some (.list items) => do .ok (.list (← items.mapM (value built fuel)))
    | some (.pairs items) => do
      .ok (.list (← items.mapM fun (k, v) => do
        let k ← value built fuel k
        let v ← value built fuel v
        .ok (.tuple [k, v])))
    | some (.set members) =>
      .ok (.set ((Entries.ofPairs (members.map fun s => (s, .null))).map Prod.fst))
    | some (.map entries) => do
      .ok (.map (Entries.ofPairs (← entries.mapM fun (k, v) => do
        let v ← value built fuel v
        .ok (k, v))))
    | none => .error .malformed

/-- The value of a node. Every collection is built once, so their number bounds the turns; if none
contains itself it bounds the depth as well. -/
def ofNode (g : Graph) (root : Nat) : Except Refusal Value := do
  let start : Building :=
    ⟨g, Array.replicate g.size false, [], Array.replicate g.size none⟩
  let (p, b) ← (do let p ← part root; all (g.size + 1); pure p : Build Part).run start
  value b.built (g.size + 1) p

end Build
end Yaml
end Arazzo
