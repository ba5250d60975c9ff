import Arazzo.Yaml.Tag

/-!
# Node graphs

The scalars, lists and mappings of a document, each with its tag. Nodes refer to each other by their
places in the graph, so an alias is the place of the node with its anchor; a node may contain itself.
-/

namespace Arazzo
namespace Yaml

inductive Content where
  | scalar (text : String)
  | list (items : List Nat)
  | map (entries : List (Nat × Nat))
deriving DecidableEq, Repr

structure Node where
  tag : Tag
  content : Content
deriving DecidableEq, Repr

abbrev Graph := Array Node

namespace Graph

def tagAt (g : Graph) (i : Nat) : Tag :=
  match g[i]? with
  | some n => n.tag
  | none => .unknown

def contentAt (g : Graph) (i : Nat) : Content :=
  match g[i]? with
  | some n => n.content
  | none => .scalar ""

/-- The entries of a mapping; other nodes have none. -/
def entriesAt (g : Graph) (i : Nat) : List (Nat × Nat) :=
  match g.contentAt i with
  | .map entries => entries
  | _ => []

def setTag (g : Graph) (i : Nat) (tag : Tag) : Graph := g.modify i fun n => { n with tag := tag }

def setEntries (g : Graph) (i : Nat) (entries : List (Nat × Nat)) : Graph :=
  g.modify i fun n => { n with content := .map entries }

/-- How many entries the mappings have in all. -/
def entryCount (g : Graph) : Nat :=
  g.foldl (fun count n => match n.content with
    | .map entries => count + entries.length
    | _ => count) 0

end Graph
end Yaml
end Arazzo
