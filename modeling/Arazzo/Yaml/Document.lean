import Arazzo.Yaml.Graph
import Arazzo.Yaml.Token

/-!
# Documents

The graph of nodes that the tokens of a document make up. An alias is the node with its anchor, which
must have begun before it. Where a node is missing, a null stands.
-/

namespace Arazzo
namespace Yaml
namespace Document

/-! ## Tokens in turn -/

/-- The tokens still to be read, what the handles of tags stand for, the nodes so far, and the places
of those with an anchor. -/
structure Reading where
  tokens : List Token
  handles : List (String × String)
  nodes : Graph
  anchors : List (String × Nat)

abbrev Parse := StateT Reading (Except Refusal)

def refuse {α : Type} (r : Refusal) : Parse α := fun _ => .error r

def malformed {α : Type} : Parse α := refuse .malformed

/-- The next token. -/
def peek : Parse Token := do
  match (← get).tokens with
  | [] => malformed
  | .fault r :: _ => refuse r
  | t :: _ => pure t

def advance : Parse Unit := modify fun r => { r with tokens := r.tokens.drop 1 }

/-- Passes a token of a kind. -/
def expect (t : Token) : Parse Unit := do
  if (← peek) = t then advance else malformed

/-! ## Properties -/

/-- The tag that a handle and a suffix make. -/
def tagUri (handle : Option String) (suffix : String) : Parse String := do
  match handle with
  | none => pure suffix
  | some h => match (← get).handles.lookup h with
    | some replaced => pure (replaced ++ suffix)
    | none => malformed

def anchor? : Parse (Option String) := do
  match ← peek with
  | .anchor name => advance; pure (some name)
  | _ => pure none

def tag? : Parse (Option String) := do
  match ← peek with
  | .tag handle suffix => advance; some <$> tagUri handle suffix
  | _ => pure none

/-- An anchor and a tag in any order, each of which may be missing. -/
def properties : Parse (Option String × Option String) := do
  match ← anchor? with
  | some name => pure (some name, ← tag?)
  | none =>
    match ← tag? with
    | some uri => pure (← anchor?, some uri)
    | none => pure (none, none)

/-- A place for a node that is still to be read. -/
def reserve : Parse Nat := do
  let place := (← get).nodes.size
  modify fun r => { r with nodes := r.nodes.push ⟨.null, .scalar ""⟩ }
  pure place

def fill (place : Nat) (n : Node) : Parse Unit :=
  modify fun r => { r with nodes := r.nodes.setIfInBounds place n }

def add (n : Node) : Parse Nat := do
  let place ← reserve
  fill place n
  pure place

/-- Stands where a node is missing. -/
def empty : Parse Nat := add ⟨.null, .scalar ""⟩

/-- Gives a place an anchor, which must be new. -/
def setAnchor (place : Nat) : Option String → Parse Unit
  | none => pure ()
  | some name => do
    if ((← get).anchors.lookup name).isSome then malformed
    else modify fun r => { r with anchors := (name, place) :: r.anchors }

def ofAlias (name : String) : Parse Nat := do
  match (← get).anchors.lookup name with
  | some place => pure place
  | none => malformed

/-- The tag of a scalar: the one written, or the one that its form says. An exclamation mark alone
says that it is plain. -/
def scalarTag (written : Option String) (text : String) (plain : Bool) : Tag :=
  match written with
  | some uri => if uri = "!" then Tag.ofPlain text else Tag.ofUri uri
  | none => if plain then Tag.ofPlain text else .text

/-- The tag of a list or mapping: the one written, or its own. -/
def collectionTag (written : Option String) (own : Tag) : Tag :=
  match written with
  | some uri => if uri = "!" then own else Tag.ofUri uri
  | none => own

/-! ## Nodes -/

/-- Where a node stands: between brackets, in a column of its own, or behind a key, where the dashes of
a list may stand in the column of the mapping. -/
inductive Place where
  | flow
  | block
  | behindKey
deriving DecidableEq, Repr

/-- Whether a node is missing in front of a token, given the tokens that end its place. -/
def missing (ends : List Token) : Parse Bool := do return ends.contains (← peek)

mutual

/-- The place of the next node. -/
def node (place : Place) : Nat → Parse Nat
  | 0 => malformed
  | fuel + 1 => do
    match ← peek with
    | .alias name => advance; ofAlias name
    | _ =>
      let (anchor, tag) ← properties
      let i ← reserve
      setAnchor i anchor
      fill i (← content place (anchor.isSome || tag.isSome) tag fuel)
      pure i

/-- The node behind its properties; if it has any, it may be missing. -/
def content (place : Place) (hasProperties : Bool) (tag : Option String) : Nat → Parse Node
  | 0 => malformed
  | fuel + 1 => do
    let otherwise : Parse Node :=
      if hasProperties then pure ⟨scalarTag tag "" true, .scalar ""⟩ else malformed
    let list (items : Parse (List Nat)) : Parse Node :=
      return ⟨collectionTag tag .list, .list (← items)⟩
    let map (entries : Parse (List (Nat × Nat))) : Parse Node :=
      return ⟨collectionTag tag .map, .map (← entries)⟩
    match ← peek with
    | .scalar text plain => advance; pure ⟨scalarTag tag text plain, .scalar text⟩
    | .listOpen => advance; list (flowItems true fuel)
    | .mapOpen => advance; map (flowEntries true fuel)
    | .indentList => if place = .flow then otherwise else do advance; list (blockItems fuel)
    | .indentMap => if place = .flow then otherwise else do advance; map (blockEntries fuel)
    | .dash => if place = .behindKey then list (dashedItems fuel) else otherwise
    | _ => otherwise

/-- A node, or null in front of a token that ends its place. -/
def nodeBefore (ends : List Token) (place : Place) : Nat → Parse Nat
  | 0 => malformed
  | fuel + 1 => do if ← missing ends then empty else node place fuel

/-- The items of a list in a column of its own. -/
def blockItems : Nat → Parse (List Nat)
  | 0 => malformed
  | fuel + 1 => do
    match ← peek with
    | .dash =>
      advance
      let item ← nodeBefore [.dash, .dedent] .block fuel
      return item :: (← blockItems fuel)
    | .dedent => advance; pure []
    | _ => malformed

/-- The items of a list in the column of a mapping. -/
def dashedItems : Nat → Parse (List Nat)
  | 0 => malformed
  | fuel + 1 => do
    match ← peek with
    | .dash =>
      advance
      let item ← nodeBefore [.dash, .key, .colon, .dedent] .block fuel
      return item :: (← dashedItems fuel)
    | _ => pure []

/-- The value behind a key, null if there is no colon. -/
def valueBefore (ends : List Token) (place : Place) : Nat → Parse Nat
  | 0 => malformed
  | fuel + 1 => do
    match ← peek with
    | .colon => advance; nodeBefore ends place fuel
    | _ => empty

/-- The entries of a mapping in a column. -/
def blockEntries : Nat → Parse (List (Nat × Nat))
  | 0 => malformed
  | fuel + 1 => do
    match ← peek with
    | .key =>
      advance
      let k ← nodeBefore [.key, .colon, .dedent] .behindKey fuel
      let v ← valueBefore [.key, .colon, .dedent] .behindKey fuel
      return (k, v) :: (← blockEntries fuel)
    | .dedent => advance; pure []
    | _ => malformed

/-- A key and its value between brackets. -/
def flowPair (close : Token) : Nat → Parse (Nat × Nat)
  | 0 => malformed
  | fuel + 1 => do
    let k ← nodeBefore [.colon, .comma, close] .flow fuel
    let v ← valueBefore [.comma, close] .flow fuel
    pure (k, v)

/-- The items of a list up to its bracket; a pair is a mapping with one entry. -/
def flowItems (first : Bool) : Nat → Parse (List Nat)
  | 0 => malformed
  | fuel + 1 => do
    if ← missing [.listClose] then advance; pure []
    else
      if !first then expect .comma
      match ← peek with
      | .listClose => advance; pure []
      | .key =>
        advance
        let pair ← flowPair .listClose fuel
        let item ← add ⟨.map, .map [pair]⟩
        return item :: (← flowItems false fuel)
      | _ =>
        let item ← node .flow fuel
        return item :: (← flowItems false fuel)

/-- The entries of a mapping up to its brace; an item alone is a key. -/
def flowEntries (first : Bool) : Nat → Parse (List (Nat × Nat))
  | 0 => malformed
  | fuel + 1 => do
    if ← missing [.mapClose] then advance; pure []
    else
      if !first then expect .comma
      match ← peek with
      | .mapClose => advance; pure []
      | .key =>
        advance
        let pair ← flowPair .mapClose fuel
        return pair :: (← flowEntries false fuel)
      | _ =>
        let k ← node .flow fuel
        let v ← empty
        return (k, v) :: (← flowEntries false fuel)

end

/-! ## Roots -/

def defaultHandles : List (String × String) := [("!", "!"), ("!!", Tag.space)]

/-- Checks the directives in front of a document and returns the handles that they define. Only
version 1 is known, and neither the version nor a handle is given twice. -/
def directives : Nat → Bool → List (String × String) → Parse (List (String × String))
  | 0, _, _ => malformed
  | fuel + 1, versioned, handles => do
    match ← peek with
    | .directive d =>
      advance
      match d with
      | .version major =>
        if versioned || major ≠ 1 then malformed else directives fuel true handles
      | .handle name replaced =>
        if (handles.lookup name).isSome then malformed
        else directives fuel versioned ((name, replaced) :: handles)
      | .other => directives fuel versioned handles
    | _ => pure handles

/-- Whether a token ends the content of a document. -/
def endsDocument : Token → Bool
  | .directive _ => true
  | .documentStart => true
  | .documentEnd => true
  | .finish => true
  | _ => false

/-- The root of the only document, if there is one. -/
def root? (fuel : Nat) : Parse (Option Nat) := do
  match ← peek with
  | .finish => pure none
  | t =>
    if t = .documentStart ∨ t matches .directive _ then do
      let handles ← directives fuel false []
      expect .documentStart
      modify fun r => { r with handles := handles ++ defaultHandles }
      if endsDocument (← peek) then some <$> empty else some <$> node .block fuel
    else some <$> node .block fuel

/-- Passes the ends of the document; nothing may follow. -/
def finish : Nat → Parse Unit
  | 0 => malformed
  | fuel + 1 => do
    match ← peek with
    | .documentEnd => advance; finish fuel
    | .finish => pure ()
    | _ => malformed

/-- The nodes of the document that tokens make up, and the place of its root. Between two tokens that
are passed at most three calls are made, so their number bounds the depth. -/
def ofTokens (ts : List Token) : Except Refusal (Graph × Option Nat) := do
  let fuel := 4 * ts.length + 4
  let (root, r) ← (root? fuel).run ⟨ts, defaultHandles, #[], []⟩
  let _ ← (finish fuel).run r
  .ok (r.nodes, root)

end Document
end Yaml
end Arazzo
