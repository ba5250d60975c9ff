import Arazzo.Proofs.Yaml.Parsing
import Mathlib.Logic.Relation

/-!
# What keeps a value from being built

Settling the merge keys of mappings moves entries up but leaves all else in place, so whatever is met while
a value is built is a part of the root of the document. A defect is the fault of one of these parts: it is
a scalar whose text does not fit its tag, a date that is no scalar, or a node that contains itself. A search
that gets deeper than the graph has nodes has met a node of the last kind.
-/

namespace Arazzo
namespace Yaml

/-! ## Nodes and their parts -/

namespace Graph

/-- A node of which another one is a part. -/
inductive Edge (g : Graph) (i : Nat) : Nat → Prop
  | item {items : List Nat} {j : Nat} : g.contentAt i = .list items → j ∈ items → Edge g i j
  | key {entries : List (Nat × Nat)} {entry : Nat × Nat} : g.contentAt i = .map entries →
      entry ∈ entries → Edge g i entry.1
  | value {entries : List (Nat × Nat)} {entry : Nat × Nat} : g.contentAt i = .map entries →
      entry ∈ entries → Edge g i entry.2

/-- A node that contains another one. -/
abbrev Contains (g : Graph) : Nat → Nat → Prop := Relation.TransGen (Edge g)

/-- Entries of which a node contains all. -/
def ContainsEntries (g : Graph) (i : Nat) (entries : List (Nat × Nat)) : Prop :=
  ∀ entry ∈ entries, g.Contains i entry.1 ∧ g.Contains i entry.2

/-- What settling mappings makes of a graph: entries may move up, and a default key is a text. -/
structure Settled (g g' : Graph) : Prop where
  size_eq : g'.size = g.size
  tag : ∀ i, g'.tagAt i = g.tagAt i ∨ g'.tagAt i = .text
  scalar : ∀ {i text}, g'.contentAt i = .scalar text → g.contentAt i = .scalar text
  list : ∀ {i items}, g'.contentAt i = .list items → g.contentAt i = .list items
  map : ∀ {i entries}, g'.contentAt i = .map entries →
    (∃ old, g.contentAt i = .map old) ∧ g.ContainsEntries i entries

section
variable {g : Graph} {i : Nat} {entries : List (Nat × Nat)}

theorem ContainsEntries.of_contentAt (h : g.contentAt i = .map entries) :
    g.ContainsEntries i entries :=
  fun _ hentry => ⟨.single (.key h hentry), .single (.value h hentry)⟩

theorem ContainsEntries.nil : g.ContainsEntries i [] :=
  List.forall_mem_nil _

theorem ContainsEntries.append {more : List (Nat × Nat)} (h : g.ContainsEntries i entries)
    (hmore : g.ContainsEntries i more) : g.ContainsEntries i (entries ++ more) :=
  fun entry hentry => (List.mem_append.mp hentry).elim (h entry) (hmore entry)

theorem ContainsEntries.reverse (h : g.ContainsEntries i entries) :
    g.ContainsEntries i entries.reverse :=
  fun entry hentry => h entry (List.mem_reverse.mp hentry)

theorem ContainsEntries.trans {j : Nat} (hij : g.Contains i j)
    (h : g.ContainsEntries j entries) : g.ContainsEntries i entries :=
  fun entry hentry => ⟨hij.trans (h entry hentry).1, hij.trans (h entry hentry).2⟩

theorem lt_size_of_contentAt_map (h : g.contentAt i = .map entries) : i < g.size := by
  by_contra hle
  rw [contentAt, Array.getElem?_eq_none (by omega)] at h
  cases h

end

theorem tagAt_setTag (g : Graph) (i j : Nat) (tag : Tag) :
    (g.setTag i tag).tagAt j = g.tagAt j ∨ (g.setTag i tag).tagAt j = tag := by
  unfold setTag tagAt
  rw [Array.getElem?_modify]
  split_ifs
  · cases g[j]? with
    | none => exact .inl rfl
    | some n => exact .inr rfl
  · exact .inl rfl

theorem contentAt_setTag (g : Graph) (i j : Nat) (tag : Tag) :
    (g.setTag i tag).contentAt j = g.contentAt j := by
  unfold setTag contentAt
  rw [Array.getElem?_modify]
  split_ifs
  · cases g[j]? <;> rfl
  · rfl

theorem tagAt_setEntries (g : Graph) (i j : Nat) (entries : List (Nat × Nat)) :
    (g.setEntries i entries).tagAt j = g.tagAt j := by
  unfold setEntries tagAt
  rw [Array.getElem?_modify]
  split_ifs
  · cases g[j]? <;> rfl
  · rfl

theorem contentAt_setEntries (g : Graph) (i j : Nat) (entries : List (Nat × Nat)) :
    (g.setEntries i entries).contentAt j = g.contentAt j ∨
      i = j ∧ (g.setEntries i entries).contentAt j = .map entries := by
  unfold setEntries contentAt
  rw [Array.getElem?_modify]
  split_ifs with hij
  · cases g[j]? with
    | none => exact .inl rfl
    | some n => exact .inr ⟨hij, rfl⟩
  · exact .inl rfl

namespace Settled

variable {g g' : Graph}

theorem refl (g : Graph) : Settled g g where
  size_eq := rfl
  tag _ := .inl rfl
  scalar h := h
  list h := h
  map h := ⟨⟨_, h⟩, .of_contentAt h⟩

theorem setText (h : Settled g g') (i : Nat) : Settled g (g'.setTag i .text) where
  size_eq := by rw [setTag, Array.size_modify, h.size_eq]
  tag j := by
    rcases tagAt_setTag g' i j .text with heq | heq
    · rw [heq]
      exact h.tag j
    · exact .inr heq
  scalar hj := h.scalar (by rwa [contentAt_setTag] at hj)
  list hj := h.list (by rwa [contentAt_setTag] at hj)
  map hj := h.map (by rwa [contentAt_setTag] at hj)

theorem setEntries (h : Settled g g') {i : Nat} {old entries : List (Nat × Nat)}
    (hi : g.contentAt i = .map old) (hentries : g.ContainsEntries i entries) :
    Settled g (g'.setEntries i entries) where
  size_eq := by rw [Graph.setEntries, Array.size_modify, h.size_eq]
  tag j := by
    rw [tagAt_setEntries]
    exact h.tag j
  scalar {j _} hj := by
    rcases contentAt_setEntries g' i j entries with heq | ⟨rfl, heq⟩
    · exact h.scalar (heq ▸ hj)
    · cases heq.symm.trans hj
  list {j _} hj := by
    rcases contentAt_setEntries g' i j entries with heq | ⟨rfl, heq⟩
    · exact h.list (heq ▸ hj)
    · cases heq.symm.trans hj
  map {j _} hj := by
    rcases contentAt_setEntries g' i j entries with heq | ⟨rfl, heq⟩
    · exact h.map (heq ▸ hj)
    · cases heq.symm.trans hj
      exact ⟨⟨old, hi⟩, hentries⟩

theorem containsEntries (h : Settled g g') (i : Nat) : g.ContainsEntries i (g'.entriesAt i) := by
  unfold entriesAt
  split
  · next hi => exact (h.map hi).2
  · exact .nil

theorem not_scalar (h : Settled g g') {i : Nat} (hi : ∀ text, g'.contentAt i ≠ .scalar text)
    (text : String) : g.contentAt i ≠ .scalar text := by
  intro hscalar
  cases hcontent : g'.contentAt i with
  | scalar text' => exact hi text' hcontent
  | list items => cases hscalar.symm.trans (h.list hcontent)
  | map entries =>
    obtain ⟨⟨old, hold⟩, -⟩ := h.map hcontent
    cases hscalar.symm.trans hold

end Settled

/-! ## Settling -/

section
variable {g : Graph} {settle : Nat → Graph → Except Refusal Graph}

/-- A mapping is settled, or it is malformed. -/
def Settles (g : Graph) (settle : Nat → Graph → Except Refusal Graph) : Prop :=
  ∀ i g', Settled g g' → EndsIn (Settled g) (· = .malformed) (settle i g')

theorem sourcesAll_ends (hsettle : Settles g settle) {i : Nat} {items : List Nat}
    (hitems : ∀ j ∈ items, g.Contains i j) {g' : Graph} (h : Settled g g') :
    EndsIn (fun p => g.ContainsEntries i p.1 ∧ Settled g p.2) (· = .malformed)
      (sourcesAll settle items g') := by
  induction items generalizing g' with
  | nil => exact ⟨.nil, h⟩
  | cons j rest ih =>
    obtain ⟨hj, hrest⟩ := List.forall_mem_cons.mp hitems
    rw [sourcesAll]
    split
    · refine (hsettle j g' h).bind fun next hnext => (ih hrest hnext).bind fun p hp => ?_
      exact ⟨hp.1.append (.trans hj (hnext.containsEntries j)), hp.2⟩
    · rfl

theorem sources_ends (hsettle : Settles g settle) {i v : Nat} (hv : g.Contains i v) {g' : Graph}
    (h : Settled g g') : EndsIn (fun p => g.ContainsEntries i p.1 ∧ Settled g p.2) (· = .malformed)
      (sources settle v g') := by
  unfold sources
  split
  · refine (hsettle v g' h).bind fun next hnext => ?_
    exact ⟨.trans hv (hnext.containsEntries v), hnext⟩
  · next items hitems =>
    exact sourcesAll_ends hsettle (fun j hj => hv.tail (.item (h.list hitems) hj)) h
  · rfl

theorem settleEntries_ends (hsettle : Settles g settle) {i : Nat}
    {old kept taken rest : List (Nat × Nat)} (hi : g.contentAt i = .map old)
    (hkept : g.ContainsEntries i kept) (htaken : g.ContainsEntries i taken)
    (hrest : g.ContainsEntries i rest) {g' : Graph} (h : Settled g g') :
    EndsIn (Settled g) (· = .malformed) (settleEntries settle i kept taken rest g') := by
  induction rest generalizing kept taken g' with
  | nil =>
    rw [settleEntries]
    split_ifs
    · exact h
    · exact h.setEntries hi (htaken.append hkept.reverse)
  | cons entry rest ih =>
    obtain ⟨k, v⟩ := entry
    obtain ⟨hentry, hrest⟩ := List.forall_mem_cons.mp hrest
    have hkept' : g.ContainsEntries i ((k, v) :: kept) := List.forall_mem_cons.mpr ⟨hentry, hkept⟩
    rw [settleEntries]
    split_ifs with hmerge hdefault
    · have hothers : g.ContainsEntries i (kept.reverse ++ rest) := hkept.reverse.append hrest
      refine (sources_ends hsettle hentry.2 (h.setEntries hi hothers)).bind fun p hp => ?_
      dsimp only
      split_ifs
      · exact ih hkept (htaken.append hp.1) hrest hp.2
      · exact hp.2.setEntries hi ((htaken.append hp.1).append (hp.2.containsEntries i))
    · exact ih hkept' htaken hrest (h.setText k)
    · exact ih hkept' htaken hrest h

theorem settleWithin_settles (g : Graph) (fuel : Nat) : Settles g (settleWithin fuel) := by
  induction fuel with
  | zero =>
    intro i g' h
    rfl
  | succ fuel ih =>
    intro i g' h
    rw [settleWithin, entriesAt]
    split
    · next entries hentries =>
      obtain ⟨⟨old, hold⟩, hbelow⟩ := h.map hentries
      exact settleEntries_ends ih hold .nil .nil hbelow h
    · exact h

theorem Settled.settle_ends {g' : Graph} (h : Settled g g') (i : Nat) :
    EndsIn (Settled g) (· = .malformed) (g'.settle i) :=
  settleWithin_settles g _ i g' h

end

end Graph

/-! ## Scalars by their tags -/

/-- Why a text is no scalar by a tag: it is no truth word, or a numeral without digits or that is not
understood, a part of it weighs too much, it is no date, or it is a date that does not exist. -/
inductive Misfits : Tag → Refusal → Prop
  | malformed (tag : Tag) : Misfits tag .malformed
  | truth : Misfits .bool (.defect .unknownTruthWord)
  | emptyInteger : Misfits .int (.defect .emptyNumeral)
  | integer : Misfits .int (.defect .unbuildableScalar)
  | emptyDecimal : Misfits .float (.defect .emptyNumeral)
  | decimal : Misfits .float (.defect .unbuildableScalar)
  | weight : Misfits .float (.defect .numberTooLarge)
  | timestamp : Misfits .timestamp (.defect .malformedTimestamp)
  | date : Misfits .timestamp (.defect .dateOutOfRange)

theorem built_errors {α : Type} {K : Refusal → Prop} (h : K (.defect .unbuildableScalar))
    (a : Option α) : ErrorsIn K (built a) := by
  cases a with
  | none => exact .error h
  | some a => exact .ok a

theorem magnitude_errors (cs : List Char) : ErrorsIn (Misfits .int) (magnitude cs) := by
  unfold magnitude
  split
  · exact .error .emptyInteger
  · exact .ok _
  · exact built_errors .integer _
  · exact built_errors .integer _
  · exact built_errors .integer _
  · split_ifs
    · refine ErrorsIn.bind (.mapM fun part _ => ?_) fun _ => .ok _
      exact built_errors .integer _
    · exact built_errors .integer _

theorem intOf_errors (text : String) : ErrorsIn (Misfits .int) (intOf text) :=
  (magnitude_errors _).bind fun _ => .ok _

theorem sixtiethSum_errors (sum : Binary64) (weight : Int) (parts : List Binary64) :
    ErrorsIn (Misfits .float) (sixtiethSum sum weight parts) := by
  induction parts generalizing sum weight with
  | nil => exact .ok sum
  | cons part parts ih =>
    rw [sixtiethSum]
    split_ifs
    · exact ih _ _
    · exact .error .weight

theorem floatOf_errors (payload : Nat) (text : String) :
    ErrorsIn (Misfits .float) (floatOf payload text) := by
  unfold floatOf
  dsimp only
  split
  · exact .error .emptyDecimal
  · split
    · exact .ok _
    · have hparts : ∀ parts : List (List Char), ErrorsIn (Misfits .float)
          (parts.mapM fun part => built (Numeral.float? part)) :=
        fun parts => .mapM fun part _ => built_errors .decimal _
      split
      · refine ErrorsIn.bind (.ok _) fun x => ?_
        split <;> exact .ok _
      · split
        · refine (hparts _).bind fun parts => (sixtiethSum_errors _ _ _).bind fun x => ?_
          split <;> exact .ok _
        · refine (built_errors Misfits.decimal _).bind fun x => ?_
          split <;> exact .ok _

theorem scalarOf_errors (payload : Nat) (tag : Tag) (text : String) :
    ErrorsIn (Misfits tag) (scalarOf payload tag text) := by
  unfold scalarOf
  split
  · exact .ok _
  · unfold boolOf
    split
    · exact .ok _
    · exact .error .truth
  · exact intOf_errors text
  · exact floatOf_errors payload text
  · unfold binaryOf
    dsimp only
    split
    · exact .ok _
    · exact .error (.malformed _)
  · unfold timestampOf
    split
    · exact .error .timestamp
    · split
      · exact .ok _
      · exact .error .date
  · exact .ok _
  · exact .error (.malformed _)

/-! ## Ways down -/

namespace Graph

/-- A node that is another one or one of its parts. -/
abbrev Reaches (g : Graph) : Nat → Nat → Prop := Relation.ReflTransGen (Edge g)

/-- A way down from a node through nodes of the graph, of a number of steps. -/
inductive Descends (g : Graph) : Nat → Nat → Prop
  | zero (i : Nat) : Descends g i 0
  | succ {i j n : Nat} : i < g.size → g.Contains i j → Descends g j n → Descends g i (n + 1)

variable {g : Graph} {i n : Nat}

/-- The nodes that are passed on a way down. -/
theorem Descends.exists_list (h : g.Descends i n) : ∃ nodes : List Nat, nodes.length = n ∧
    nodes.Pairwise g.Contains ∧ ∀ k ∈ nodes, k < g.size ∧ g.Reaches i k := by
  induction h with
  | zero i => exact ⟨[], rfl, .nil, List.forall_mem_nil _⟩
  | @succ i j n hi hij _ ih =>
    obtain ⟨nodes, hlength, hpairs, hnodes⟩ := ih
    have hbelow : ∀ k ∈ nodes, g.Contains i k := by
      intro k hk
      exact hij.trans_left (hnodes k hk).2
    refine ⟨i :: nodes, by simp [hlength], List.pairwise_cons.mpr ⟨hbelow, hpairs⟩, ?_⟩
    intro k hk
    rcases List.mem_cons.mp hk with rfl | hk
    · exact ⟨hi, .refl⟩
    · exact ⟨(hnodes k hk).1, (hbelow k hk).to_reflTransGen⟩

/-- On a way with more steps than the graph has nodes, a node is met again. -/
theorem Descends.exists_contains_self (h : g.Descends i n) (hn : g.size < n) :
    ∃ k, g.Reaches i k ∧ g.Contains k k := by
  obtain ⟨nodes, hlength, hpairs, hnodes⟩ := h.exists_list
  by_contra hnone
  have hnodup : nodes.Nodup := by
    refine hpairs.imp_of_mem fun {a b} ha _ hab heq => hnone ⟨a, (hnodes a ha).2, ?_⟩
    rwa [← heq] at hab
  have hsub : nodes ⊆ List.range g.size := by
    intro k hk
    rw [List.mem_range]
    exact (hnodes k hk).1
  have hle := hnodup.length_le_of_subset hsub
  rw [List.length_range] at hle
  omega

end Graph

open Arazzo.Yaml.Graph

/-- The scalar that a node is, or its place. -/
def Part.IsOf (i : Nat) : Part → Prop
  | .scalar _ => True
  | .collection j => j = i

/-- A part that lies in a node. -/
def Part.IsIn (g : Graph) (i : Nat) : Part → Prop
  | .scalar _ => True
  | .collection j => g.Contains i j

theorem Part.IsOf.isIn {g : Graph} {i j : Nat} {p : Part} (h : p.IsOf j) (hij : g.Contains i j) :
    p.IsIn g i := by
  cases p with
  | scalar s => trivial
  | collection k => exact (h : k = j) ▸ hij

/-- A node consists of parts that lie in it. -/
def Contents.AreIn (g : Graph) (i : Nat) : Contents → Prop
  | .list items => ∀ p ∈ items, p.IsIn g i
  | .pairs items => ∀ p ∈ items, p.1.IsIn g i ∧ p.2.IsIn g i
  | .set _ => True
  | .map entries => ∀ entry ∈ entries, entry.2.IsIn g i

/-- Why no value can be built from a node: a scalar in it has none by its tag or by that of a mapping
around it, a date is no scalar, or something contains itself. -/
inductive Flaw (g : Graph) (root : Nat) : Defect → Prop
  | scalar {i j payload : Nat} {text : String} {d : Defect} : g.Reaches root i → g.Reaches i j →
      g.contentAt j = .scalar text → Misfits (g.tagAt i) (.defect d) →
      scalarOf payload (g.tagAt i) text = .error (.defect d) → Flaw g root d
  | date {i : Nat} : g.Reaches root i → g.tagAt i = .timestamp →
      (∀ text, g.contentAt i ≠ .scalar text) → Flaw g root .wrongKind
  | endless {i : Nat} : g.Reaches root i → g.Contains i i → Flaw g root .endlessValue

/-- A refusal that is malformed or has a flaw. -/
def IsFlawed (g : Graph) (root : Nat) (e : Refusal) : Prop := ∀ d, e = .defect d → Flaw g root d

theorem isFlawed_malformed (g : Graph) (root : Nat) : IsFlawed g root .malformed :=
  fun _ h => nomatch h

namespace Build

variable {g : Graph} {root i j : Nat}

/-! ## Scalars -/

/-- A text is found in a node that was reached, or the search went down too far. -/
theorem defaultText_ends {g' : Graph} (h : Settled g g') (fuel i : Nat) :
    EndsIn (fun text => ∃ j, g.Reaches i j ∧ g.contentAt j = .scalar text)
      (fun e => e = .malformed ∨ e = .defect .endlessValue ∧ g.Descends i fuel)
      (defaultText g' fuel i) := by
  induction fuel generalizing i with
  | zero => exact .inr ⟨rfl, .zero i⟩
  | succ fuel ih =>
    rw [defaultText]
    split
    · next text htext => exact ⟨i, .refl, h.scalar htext⟩
    · next entries hentries =>
      split
      · next k v hfind =>
        obtain ⟨⟨old, hold⟩, hbelow⟩ := h.map hentries
        have hv : g.Contains i v := (hbelow (k, v) (List.mem_of_find?_eq_some hfind)).2
        refine (ih v).mono ?_ ?_
        · rintro text ⟨j, hj, htext⟩
          exact ⟨j, hv.to_reflTransGen.trans hj, htext⟩
        · rintro e (he | ⟨he, hdown⟩)
          · exact .inl he
          · exact .inr ⟨he, .succ (lt_size_of_contentAt_map hold) hv hdown⟩
      · exact .inl rfl
    · exact .inl rfl

theorem scalarOf_isFlawed {g' : Graph} (h : Settled g g') (hi : g.Reaches root i)
    (hij : g.Reaches i j) {payload : Nat} {text : String} (htext : g.contentAt j = .scalar text) :
    ErrorsIn (IsFlawed g root) (scalarOf payload (g'.tagAt i) text) := by
  rcases h.tag i with htag | htag
  · rintro e he d rfl
    rw [htag] at he
    exact .scalar hi hij htext (scalarOf_errors _ _ _ _ he) he
  · -- A tag that was changed is that of texts, which all have a value.
    rw [htag]
    exact .ok _

theorem scalarAt_isFlawed {g' : Graph} (h : Settled g g') (hi : g.Reaches root i) :
    ErrorsIn (IsFlawed g root) (scalarAt g' i) := by
  have hdefault : EndsIn (fun text => ∃ j, g.Reaches i j ∧ g.contentAt j = .scalar text)
      (IsFlawed g root) (defaultText g' (g'.size + 1) i) := by
    refine (defaultText_ends h _ i).mono (fun _ ht => ht) ?_
    rintro e (rfl | ⟨rfl, hdown⟩)
    · exact isFlawed_malformed g root
    · rw [h.size_eq] at hdown
      obtain ⟨k, hk, hself⟩ := hdown.exists_contains_self (Nat.lt_succ_self _)
      rintro d ⟨⟩
      exact .endless (hi.trans hk) hself
  refine (hdefault.bind fun text ht => ?_ : EndsIn (fun _ => True) _ (scalarAt g' i)).errorsIn
  obtain ⟨j, hij, htext⟩ := ht
  split
  · exact (scalarOf_isFlawed h hi hij htext).endsIn
  · next hnone =>
    split_ifs with htag
    · rintro d ⟨⟩
      have htag' : g.tagAt i = .timestamp := by
        rcases h.tag i with heq | heq
        · rw [← heq, htag]
        · cases htag.symm.trans heq
      exact .date hi htag' (h.not_scalar hnone)
    · exact (scalarOf_isFlawed h hi hij htext).endsIn

/-! ## Collections -/

/-- The graph is settled, nodes wait that are parts of the root, and what the others consist of lies in
them. -/
structure Invariant (g : Graph) (root : Nat) (b : Building) : Prop where
  settled : Settled g b.graph
  waiting : ∀ i ∈ b.waiting, g.Reaches root i
  size_eq : b.built.size = g.size
  built : ∀ i (c : Contents), b.built[i]? = some (some c) → c.AreIn g i

/-- A step of the building keeps the invariant and refuses what is flawed. -/
abbrev Builds {α : Type} (g : Graph) (root : Nat) (P : α → Prop) (m : Build α) : Prop :=
  Maintains (Invariant g root) (IsFlawed g root) P m

theorem malformed_builds {α : Type} {P : α → Prop} : Builds g root P (malformed : Build α) :=
  .fail (isFlawed_malformed g root)

theorem part_builds (hi : g.Reaches root i) : Builds g root (Part.IsOf i) (part i) := by
  unfold part
  refine .bind .get fun b hb => ?_
  dsimp only
  refine .ite (fun _ => ?_) fun _ => .ite (fun _ => malformed_builds) fun _ => ?_
  · have hmeet : Builds g root (fun _ => True) (modify fun b : Building =>
        { b with met := b.met.setIfInBounds i true, waiting := i :: b.waiting }) :=
      .modify fun b hb => ⟨hb.settled, List.forall_mem_cons.mpr ⟨hi, hb.waiting⟩, hb.size_eq, hb.built⟩
    split_ifs
    · exact hmeet.bind fun _ _ => .pure rfl
    · exact .pure rfl
  · split
    · exact .pure trivial
    · next r hr => exact .fail (scalarAt_isFlawed hb.settled hi r hr)

theorem partOf_builds (hi : g.Reaches root i) (hij : g.Contains i j) :
    Builds g root (Part.IsIn g i) (part j) :=
  (part_builds (hi.trans hij.to_reflTransGen)).mono fun _ hp => hp.isIn hij

theorem key_builds (hi : g.Reaches root i) : Builds g root (fun _ => True) (key i) := by
  refine (part_builds hi).bind fun p _ => ?_
  split
  · exact .pure trivial
  · exact malformed_builds

theorem entry_builds (hi : g.Reaches root i) {pair : Nat × Nat}
    (hpair : g.Contains i pair.1 ∧ g.Contains i pair.2) :
    Builds g root (fun entry => entry.2.IsIn g i) (entry pair) := by
  refine (key_builds (hi.trans hpair.1.to_reflTransGen)).bind fun k _ => ?_
  exact (partOf_builds hi hpair.2).bind fun v hv => .pure hv

theorem entries_builds (hi : g.Reaches root i) :
    Builds g root (fun entries => ∀ entry ∈ entries, entry.2.IsIn g i) (entries i) := by
  unfold entries
  refine .bind .get fun b hb => ?_
  dsimp only
  split
  · have hsettle := hb.settled.settle_ends i
    split
    · next g' hg' =>
      have hnext : Settled g g' := hsettle.of_ok hg'
      refine .bind (.modify fun b hb => ⟨hnext, hb.waiting, hb.size_eq, hb.built⟩) fun _ _ => ?_
      exact .mapM fun entry hentry => entry_builds hi (hnext.containsEntries i entry hentry)
    · next r hr =>
      have hr : r = .malformed := hsettle.errorsIn r hr
      exact .fail (hr ▸ isFlawed_malformed g root)
  · exact malformed_builds

theorem pair_builds (hi : g.Reaches root i) (hij : g.Contains i j) :
    Builds g root (fun p => p.1.IsIn g i ∧ p.2.IsIn g i) (pair j) := by
  unfold pair
  refine .bind .get fun b hb => ?_
  split
  · next k v hcontent =>
    obtain ⟨hk, hv⟩ := (hb.settled.map hcontent).2 (k, v) List.mem_cons_self
    refine (partOf_builds hi (hij.trans hk)).bind fun p hp => ?_
    exact (partOf_builds hi (hij.trans hv)).bind fun q hq => .pure ⟨hp, hq⟩
  · exact malformed_builds

theorem contents_builds (hi : g.Reaches root i) :
    Builds g root (Contents.AreIn g i) (contents i) := by
  unfold contents
  refine .bind .get fun b hb => ?_
  have hitem : ∀ {items : List Nat}, b.graph.contentAt i = .list items → ∀ j ∈ items,
      g.Contains i j := fun hitems j hj => .single (.item (hb.settled.list hitems) hj)
  dsimp only
  split
  · exact (entries_builds hi).map fun _ h => h
  · exact (entries_builds hi).map fun _ _ => trivial
  · next hitems =>
    exact (Maintains.mapM fun j hj => partOf_builds hi (hitem hitems j hj)).map fun _ h => h
  · next hitems =>
    exact (Maintains.mapM fun j hj => pair_builds hi (hitem hitems j hj)).map fun _ h => h
  · next hitems =>
    exact (Maintains.mapM fun j hj => pair_builds hi (hitem hitems j hj)).map fun _ h => h
  · exact malformed_builds

theorem Invariant.build {b : Building} (hb : Invariant g root b) {c : Contents} (hc : c.AreIn g i) :
    Invariant g root { b with built := b.built.setIfInBounds i (some c) } where
  settled := hb.settled
  waiting := hb.waiting
  size_eq := by simp [hb.size_eq]
  built := by
    intro k c' hk
    rw [Array.getElem?_setIfInBounds] at hk
    split_ifs at hk with hik hlt
    · obtain rfl := Option.some.inj (Option.some.inj hk)
      exact hik ▸ hc
    · exact hb.built k c' hk

theorem all_builds (fuel : Nat) : Builds g root (fun _ => True) (all fuel) := by
  induction fuel with
  | zero => exact .pure trivial
  | succ fuel ih =>
    rw [all]
    refine .bind .get fun b hb => ?_
    split
    · exact .pure trivial
    · refine .bind (.modify fun b hb => ⟨hb.settled, List.forall_mem_nil _, hb.size_eq, hb.built⟩)
        fun _ _ => .bind (.forM fun i hi => ?_) fun _ _ => ih
      have hreaches := hb.waiting i (List.mem_reverse.mp hi)
      exact (contents_builds hreaches).bind fun c hc => .modify fun b hb => hb.build hc

/-! ## Values -/

/-- A value that is not found within a depth leads so far down. -/
theorem value_errors {built : Array (Option Contents)} (hsize : built.size = g.size)
    (hbuilt : ∀ i (c : Contents), built[i]? = some (some c) → c.AreIn g i) (fuel : Nat) {p : Part}
    (hp : p.IsOf i) : ErrorsIn (fun e => e = .malformed ∨ e = .defect .endlessValue ∧ g.Descends i fuel)
      (value built fuel p) := by
  induction fuel generalizing i p with
  | zero =>
    cases p with
    | scalar s => exact .ok _
    | collection j => exact .error (.inr ⟨rfl, .zero i⟩)
  | succ fuel ih =>
    cases p with
    | scalar s => exact .ok _
    | collection j =>
      obtain rfl : j = i := hp
      have hfound : ∀ {c : Contents}, built[j]?.join = some c → j < g.size ∧ c.AreIn g j := by
        intro c hc
        have hc := Option.join_eq_some_iff.mp hc
        obtain ⟨hlt, -⟩ := Array.getElem?_eq_some_iff.mp hc
        exact ⟨hsize ▸ hlt, hbuilt j c hc⟩
      have hpart : ∀ {q : Part}, j < g.size → q.IsIn g j →
          ErrorsIn (fun e => e = .malformed ∨ e = .defect .endlessValue ∧ g.Descends j (fuel + 1))
            (value built fuel q) := by
        intro q hj hq
        cases q with
        | scalar s => cases fuel <;> exact .ok _
        | collection k =>
          refine (@ih k (.collection k) rfl).mono ?_
          rintro e (he | ⟨he, hdown⟩)
          · exact .inl he
          · exact .inr ⟨he, .succ hj hq hdown⟩
      rw [value]
      split
      · next items hc =>
        obtain ⟨hj, hitems⟩ := hfound hc
        exact (ErrorsIn.mapM fun q hq => hpart hj (hitems q hq)).bind fun _ => .ok _
      · next items hc =>
        obtain ⟨hj, hitems⟩ := hfound hc
        refine (ErrorsIn.mapM fun q hq => ?_).bind fun _ => .ok _
        exact (hpart hj (hitems q hq).1).bind fun _ => (hpart hj (hitems q hq).2).bind fun _ => .ok _
      · exact .ok _
      · next entries hc =>
        obtain ⟨hj, hentries⟩ := hfound hc
        refine (ErrorsIn.mapM fun entry hentry => ?_).bind fun _ => .ok _
        exact (hpart hj (hentries entry hentry)).bind fun _ => .ok _
      · exact .error (.inl rfl)

/-- Where no value is built from a node, it is malformed or has a flaw. -/
theorem ofNode_errors (g : Graph) (root : Nat) : ErrorsIn (IsFlawed g root) (ofNode g root) := by
  have hstart : Invariant g root
      ⟨g, Array.replicate g.size false, [], Array.replicate g.size none⟩ := by
    refine ⟨.refl g, List.forall_mem_nil _, by simp, ?_⟩
    intro i c hc
    rw [Array.getElem?_replicate] at hc
    split_ifs at hc
    cases hc
  have hbuild : Builds g root (Part.IsOf root) (do let p ← part root; all (g.size + 1); pure p) :=
    (part_builds .refl).bind fun p hp => (all_builds _).bind fun _ _ => .pure hp
  refine ((hbuild _ hstart).bind fun p hp => ?_ : EndsIn (fun _ => True) _ (ofNode g root)).errorsIn
  refine (value_errors hp.1.size_eq hp.1.built (g.size + 1) hp.2).endsIn.mono (fun _ h => h) ?_
  rintro e (rfl | ⟨rfl, hdown⟩)
  · exact isFlawed_malformed g root
  · obtain ⟨k, hk, hself⟩ := hdown.exists_contains_self (Nat.lt_succ_self _)
    rintro d ⟨⟩
    exact .endless hk hself

end Build

/-- What keeps a text from denoting a value: the reading of its tokens stops at a number that is too
large, or no value can be built from its root. -/
inductive Spoils (cs : List Char) : Defect → Prop
  | token {d : Defect} : Token.fault (.defect d) ∈ tokens (Spot.ofText cs) →
      StopsTokens (.defect d) → Spoils cs d
  | node {g : Graph} {root : Nat} {d : Defect} :
      Document.ofTokens (tokens (Spot.ofText cs)) = .ok (g, some root) → Flaw g root d → Spoils cs d

/-- A text that is neither malformed nor denotes a value is spoilt. -/
theorem spoils_of_read {cs : List Char} {d : Defect} (h : read cs = .error (.defect d)) :
    Spoils cs d := by
  unfold read at h
  split at h
  · rcases bind_error_iff.mp h with h | ⟨⟨g, root⟩, hparse, h⟩
    · rcases Document.ofTokens_errors _ _ h with hmalformed | hmem
      · cases hmalformed
      · exact .token hmem (stopsTokens_of_mem hmem)
    · cases root with
      | none => cases h
      | some root => exact .node hparse (Build.ofNode_errors g root _ h d rfl)
  · cases h

end Yaml
end Arazzo
