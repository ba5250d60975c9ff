import Arazzo.Proofs.Document.Circular

/-!
# What stands for a reference

Where no reference leads back to itself, none is ever met inside its own part. What is put in the place
of a value then does not depend on the parts that the value lies in, and one and the same part comes out
of every occurrence of a reference. It is what the reference points to in the dereferenced document,
since a walk keeps the places and keys of whatever is not a reference itself.
-/

namespace Arazzo
namespace Reference

/-- The keys of a reference, none for the whole document. -/
def path (reference : String) : List (List Char) :=
  match reference.toList.drop 1 with
  | [] => []
  | pointer => tokens pointer

/-- The keys lead on from values that are no references themselves. -/
def Passes (reference : String) : List (List Char) → Value → Prop
  | [], _ => True
  | token :: rest, v =>
    ofValue? v = none ∧ ∀ w, child reference v token = .ok w → Passes reference rest w

/-- A reference that passes through no other one on the way to its part. -/
def IsDirect (root : Value) (reference : String) : Prop := Passes reference (path reference) root

/-- The values that dereferencing a document comes to, with the references whose parts they lie in. -/
inductive Met (root : Value) : List String → Value → Prop
  | root : Met root [] root
  | item {active : List String} {items : List Value} {v : Value} : Met root active (.list items) →
      v ∈ items → Met root active v
  | entry {active : List String} {entries : Entries} {k : Scalar} {v : Value} :
      Met root active (.map entries) → of? entries = none → (k, v) ∈ entries → Met root active v
  | sibling {active : List String} {entries : Entries} {q : String} {k : Scalar} {v : Value} :
      Met root active (.map entries) → of? entries = some q → q ∉ active → (k, v) ∈ entries →
      k ≠ key → Met root active v
  | part {active : List String} {entries : Entries} {q : String} {part : Value} :
      Met root active (.map entries) → of? entries = some q → q ∉ active →
      resolve root q = .ok part → Met root (q :: active) part

/-- What dereferencing a document puts in the place of a value that lies in the parts of `active`. -/
def replacement (root : Value) (active : List String) (v : Value) : Except Fault Value :=
  dereferenceWithin root ((all root).length + 1 - active.length) active v

/-- Entries over a value: a mapping keeps its keys in their places, and the entries go before its own;
any other value stays as it is. -/
inductive Overlaid (above : Entries) : Value → Value → Prop
  | map {below merged : Entries} : below.map Prod.fst <+: merged.map Prod.fst →
      (∀ k, Entries.find? k merged = (Entries.find? k above).or (Entries.find? k below)) →
      Overlaid above (.map below) (.map merged)
  | other {v : Value} : (∀ entries, v ≠ .map entries) → Overlaid above v v

/-! ## Following a reference through a walk -/

theorem resolve_eq (root : Value) (reference : String) :
    resolve root reference = (path reference).foldlM (child reference) root := by
  unfold resolve path
  cases reference.toList.drop 1 <;> rfl

section
variable {root : Value} {active : List String} {follow : String → Value → Except Fault Value}

/-- A key leads on from what a walk has made of a value as it does from the value. -/
theorem child_of_visit {reference : String} {v w part : Value} {token : List Char}
    (hvisit : visit root active follow v = .ok w) (hv : ofValue? v = none)
    (hchild : child reference v token = .ok part) :
    ∃ t, visit root active follow part = .ok t ∧ child reference w token = .ok t := by
  cases visited_of_ok hvisit with
  | list hitems =>
    obtain ⟨i, hposition, hitem⟩ := child_list_ok_iff.mp hchild
    obtain ⟨t, ht, hvisit⟩ := getElem?_of_forall₂ hitems hitem
    rw [hitems.length_eq] at hposition
    exact ⟨t, hvisit, child_list_ok_iff.mpr ⟨i, hposition, ht⟩⟩
  | map hof hentries =>
    have hget := child_map_ok_iff.mp hchild
    rcases hentries.find? (.text (String.ofList token)) with ⟨hnone, -⟩ | ⟨part', t, hpart, ht, hvisit⟩
    · cases hnone.symm.trans hget
    · obtain rfl := Option.some.inj (hpart.symm.trans hget)
      exact ⟨t, hvisit, child_map_ok_iff.mpr ht⟩
  | again hof => cases hv.symm.trans hof
  | part hof => cases hv.symm.trans hof
  | _ => cases hchild

/-- Where a reference passes through no other one, it leads on from what a walk has made of a value
to what the walk has made of its part. -/
theorem foldlM_of_visit {reference : String} {path : List (List Char)} {v w part : Value}
    (hvisit : visit root active follow v = .ok w) (hpasses : Passes reference path v)
    (hpart : path.foldlM (child reference) v = .ok part) :
    ∃ t, visit root active follow part = .ok t ∧ path.foldlM (child reference) w = .ok t := by
  induction path generalizing v w with
  | nil =>
    cases hpart
    exact ⟨w, hvisit, rfl⟩
  | cons token rest ih =>
    obtain ⟨hv, hrest⟩ := hpasses
    rw [List.foldlM_cons] at hpart
    obtain ⟨next, hchild, hpart⟩ := bind_eq_ok hpart
    obtain ⟨next', hvisit', hchild'⟩ := child_of_visit hvisit hv hchild
    obtain ⟨t, ht, hfold⟩ := ih hvisit' (hrest next hchild) hpart
    refine ⟨t, ht, ?_⟩
    rw [List.foldlM_cons, hchild']
    exact hfold

end

/-! ## Documents in which no reference leads back to itself -/

section
variable {root v : Value} {active : List String}

theorem Reached.not_mem (h : Reached root active v) (hacyclic : IsAcyclic root) {r : String}
    (hr : Holds r v) : r ∉ active :=
  fun hmem => hacyclic r (h.holds hr) (h.leads r hmem r hr)

/-- What is put in the place of a value does not depend on the parts that it lies in. -/
theorem Reached.dereferenceCut_eq {active' : List String} {fuel fuel' : Nat}
    {cut cut' : List String → Value → Except Fault Value} (hacyclic : IsAcyclic root)
    (h : Reached root active v) (he : Entered root active v)
    (h' : Reached root active' v) (he' : Entered root active' v)
    (hfuel : (all root).length < fuel + active.length)
    (hfuel' : (all root).length < fuel' + active'.length) :
    dereferenceCut root cut fuel active v = dereferenceCut root cut' fuel' active' v := by
  have hlength := he.length_le
  have hlength' := he'.length_le
  induction fuel generalizing fuel' active active' v with
  | zero => omega
  | succ fuel ih =>
    cases fuel' with
    | zero => omega
    | succ fuel' =>
      refine visit_congr (fun r hr => ?_) fun r part hr hactive hpart => ?_
      · simp [h.not_mem hacyclic hr, h'.not_mem hacyclic hr]
      · have hactive' := h'.not_mem hacyclic hr
        have hentered := he.follow hr hactive hpart
        have hentered' := he'.follow hr hactive' hpart
        refine ih (h.follow hr hpart) hentered (h'.follow hr hpart) hentered' ?_ ?_
          hentered.length_le hentered'.length_le
        · rw [List.length_cons]
          omega
        · rw [List.length_cons]
          omega

theorem Entered.mono {w : Value} (h : Entered root active v) (hw : ∀ r, Holds r w → Holds r v) :
    Entered root active w :=
  ⟨h.nodup, h.subset, fun r hr => h.within r (hw r hr)⟩

theorem Reached.mono {w : Value} (h : Reached root active v) (hw : ∀ P, Has P w → Has P v) :
    Reached root active w where
  within := fun P hP => h.within P (hw P hP)
  leads := fun a ha q hq => h.leads a ha q (holds_iff_has.mpr (hw _ (holds_iff_has.mp hq)))

theorem Reached.unentered (h : Reached root active v) : Reached root [] v := ⟨h.within, by simp⟩

theorem Entered.unentered (h : Entered root active v) : Entered root [] v :=
  ⟨List.nodup_nil, List.nil_subset _, h.within⟩

/-- Dereferencing comes to a value only through references that lead to all that it holds. -/
theorem Met.reached_entered (h : Met root active v) : Reached root active v ∧ Entered root active v := by
  have hmember : ∀ {active w v}, (∀ P, Has P w → Has P v) →
      Reached root active v ∧ Entered root active v → Reached root active w ∧ Entered root active w :=
    fun hw h => ⟨h.1.mono hw, h.2.mono fun r hr => holds_iff_has.mpr (hw _ (holds_iff_has.mp hr))⟩
  induction h with
  | root => exact ⟨reached_root root, entered_root root⟩
  | item _ hv ih => exact hmember (fun P => .item hv) ih
  | entry _ hof hv ih => exact hmember (fun P => .entry hv fun hne => absurd hof hne) ih
  | sibling _ _ _ hv hk ih => exact hmember (fun P => .entry hv fun _ => hk) ih
  | part _ hof hactive hpart ih =>
    exact ⟨ih.1.follow (.here hof) hpart, ih.2.follow (.here hof) hactive hpart⟩

/-- What is put in the place of a value, in terms of what is put in the place of further parts. -/
theorem Entered.replacement_eq (h : Entered root active v) : replacement root active v =
    visit root active (fun q => replacement root (q :: active)) v := by
  have hfuel : (all root).length + 1 - active.length = ((all root).length - active.length) + 1 := by
    have hlength := h.length_le
    omega
  have hfollow : ∀ q, replacement root (q :: active) =
      dereferenceWithin root ((all root).length - active.length) (q :: active) := fun q => by
    funext part
    rw [replacement, List.length_cons, Nat.add_sub_add_right]
  rw [replacement, hfuel, dereferenceWithin]
  simp only [hfollow]

theorem Met.replacement_eq (h : Met root active v) (hacyclic : IsAcyclic root) :
    replacement root active v = replacement root [] v := by
  obtain ⟨hreached, hentered⟩ := h.reached_entered
  rw [replacement, replacement, dereferenceWithin_eq_cut, dereferenceWithin_eq_cut]
  have hlength := hentered.length_le
  refine hreached.dereferenceCut_eq hacyclic hentered hreached.unentered hentered.unentered ?_ ?_
  · omega
  · simp

end

theorem overlaid_merge {above : Entries} (h : above.HasDistinctKeys) (v : Value) :
    Overlaid above v (merge v above) := by
  cases v with
  | map below =>
    exact .map (Entries.keys_prefix_insertAll below above) (Entries.find?_insertAll h below)
  | _ => exact .other (by simp)

section
variable {root result v : Value} {active : List String} {r : String}

/-- Where a document is dereferenced, all that dereferencing comes to is. -/
theorem Met.exists_replacement (hmet : Met root active v) (h : dereference root = .ok result) :
    ∃ w, replacement root active v = .ok w :=
  hmet.reached_entered.2.exists_ok _ fun _ hr => hr.isGood_of_visit h

/-- What a direct reference points to in the dereferenced document has taken the place of what it
points to in the document. -/
theorem IsDirect.exists_resolve (hdirect : IsDirect root r) (h : dereference root = .ok result)
    (hresolve : resolve root r = .ok v) :
    ∃ w, replacement root [] v = .ok w ∧ resolve result r = .ok w := by
  rw [resolve_eq] at hresolve ⊢
  exact foldlM_of_visit h hdirect hresolve

/-- Every occurrence of a reference is replaced by the same value, overlaid with what has become of
the entries beside it. -/
theorem Met.replacement_reference {entries : Entries} {part inside : Value}
    (hmet : Met root active (.map entries)) (h : dereference root = .ok result)
    (hacyclic : IsAcyclic root) (hof : of? entries = some r) (hpart : resolve root r = .ok part)
    (hinside : replacement root [] part = .ok inside) :
    ∃ siblings, Entrywise (fun v w => replacement root active v = .ok w)
        (Entries.erase key entries) siblings ∧
      replacement root active (.map entries) = .ok (merge inside siblings) := by
  obtain ⟨hreached, hentered⟩ := hmet.reached_entered
  have hactive : r ∉ active := hreached.not_mem hacyclic (.here hof)
  have hgood : IsGood root r := (hreached.holds (.here hof)).isGood_of_visit h
  have hsibling : ∀ entry ∈ entries, entry.1 ≠ key → Met root active entry.2 :=
    fun entry hmem hk => .sibling hmet hof hactive hmem hk
  obtain ⟨siblings, hsiblings⟩ := exists_visitSiblings_ok.mpr fun entry hmem hk => by
    rw [← (hsibling entry hmem hk).reached_entered.2.replacement_eq]
    exact (hsibling entry hmem hk).exists_replacement h
  refine ⟨siblings, ?_, ?_⟩
  · rw [visitSiblings_eq, visitEntries_ok_iff] at hsiblings
    refine hsiblings.mono fun k v w hv hvisit => ?_
    obtain ⟨hmem, hk⟩ := mem_erase_key.mp hv
    rw [(hsibling (k, v) hmem hk).reached_entered.2.replacement_eq]
    exact hvisit
  · rw [hentered.replacement_eq, visit_reference_ok_iff hof hactive]
    refine ⟨hgood.fragment, part, hpart, inside, ?_, siblings, hsiblings, rfl⟩
    rw [(Met.part hmet hof hactive hpart).replacement_eq hacyclic, hinside]

end

/-- Where no reference leads back to itself, what stands at a direct reference in the dereferenced
document has been put there for what stands at it in the document. A reference that is direct itself
is replaced everywhere by the value that it points to in the dereferenced document, overlaid with what
has become of the entries beside it. -/
theorem dereference_replaces {root result : Value} (h : dereference root = .ok result)
    (hacyclic : IsAcyclic root) :
    (∀ p v, IsDirect root p → resolve root p = .ok v →
      ∃ w, replacement root [] v = .ok w ∧ resolve result p = .ok w) ∧
    ∀ r, Holds r root → IsDirect root r → ∃ target, resolve result r = .ok target ∧
      ∀ active entries, Met root active (.map entries) → of? entries = some r →
        ((∀ entry ∈ entries, entry.1 = key) →
          replacement root active (.map entries) = .ok target) ∧
        (Entries.HasDistinctKeys entries → ∃ siblings w,
          Entrywise (fun v w => replacement root active v = .ok w) (Entries.erase key entries)
            siblings ∧
          replacement root active (.map entries) = .ok w ∧ Overlaid siblings target w) := by
  refine ⟨fun p v hdirect hresolve => hdirect.exists_resolve h hresolve, fun r hr hdirect => ?_⟩
  obtain ⟨part, hpart⟩ := (hr.isGood_of_visit h).resolves
  obtain ⟨target, hinside, htarget⟩ := hdirect.exists_resolve h hpart
  refine ⟨target, htarget, fun active entries hmet hof => ?_⟩
  obtain ⟨siblings, hsiblings, heq⟩ := hmet.replacement_reference h hacyclic hof hpart hinside
  refine ⟨fun halone => ?_, fun hkeys => ⟨siblings, _, hsiblings, heq, overlaid_merge ?_ target⟩⟩
  · have hnone : Entries.erase key entries = [] :=
      List.eq_nil_iff_forall_not_mem.mpr fun entry hmem =>
        (mem_erase_key.mp hmem).2 (halone entry (mem_erase_key.mp hmem).1)
    rw [hnone] at hsiblings
    cases hsiblings
    rw [heq]
    cases target <;> rfl
  · rw [Entries.hasDistinctKeys_iff, hsiblings.keys_eq, ← Entries.hasDistinctKeys_iff]
    exact hkeys.erase key

/-- A reference with an entry beside it, to a part that holds another one. -/
def layered : Value :=
  .map [(.text "a", .map [(key, .text "#/b"), (.text "x", .int 1)]),
    (.text "b", .map [(.text "x", .int 0), (.text "y", .map [(key, .text "#/c")])]),
    (.text "c", .int 2)]

/-- The entry wins over that of the part. -/
def flattened : Value :=
  .map [(.text "a", .map [(.text "x", .int 1), (.text "y", .int 2)]),
    (.text "b", .map [(.text "x", .int 0), (.text "y", .int 2)]), (.text "c", .int 2)]

theorem dereference_replaces_layered :
    dereference layered = .ok flattened ∧ IsAcyclic layered ∧ Holds "#/b" layered ∧
    IsDirect layered "#/b" ∧ ∃ target, resolve flattened "#/b" = .ok target ∧
      ∀ active entries, Met layered active (.map entries) → of? entries = some "#/b" →
        ((∀ entry ∈ entries, entry.1 = key) →
          replacement layered active (.map entries) = .ok target) ∧
        (Entries.HasDistinctKeys entries → ∃ siblings w,
          Entrywise (fun v w => replacement layered active v = .ok w) (Entries.erase key entries)
            siblings ∧
          replacement layered active (.map entries) = .ok w ∧ Overlaid siblings target w) := by
  have hleaf : ∀ r, ¬ Leads layered "#/c" r := by
    rintro r ⟨part, hpart, hr⟩
    cases (show resolve layered "#/c" = .ok (.int 2) from rfl).symm.trans hpart
    exact not_has_scalar _ _ (holds_iff_has.mp hr)
  have hnext : ∀ r, Leads layered "#/b" r → r = "#/c" := by
    rintro r ⟨part, hpart, hr⟩
    cases (show resolve layered "#/b" = .ok (.map [(.text "x", .int 0),
      (.text "y", .map [(key, .text "#/c")])]) from rfl).symm.trans hpart
    exact List.mem_singleton.mp hr.mem_all
  have hacyclic : IsAcyclic layered := by
    intro r hr hrecurs
    obtain ⟨r', hfirst, hrest⟩ := Relation.TransGen.head'_iff.mp hrecurs
    rcases List.mem_pair.mp ((show all layered = ["#/b", "#/c"] from rfl) ▸ hr.mem_all) with
      rfl | rfl
    · obtain rfl := hnext r' hfirst
      rcases hrest.cases_head with heq | ⟨r'', hstep, -⟩
      · simp at heq
      · exact hleaf r'' hstep
    · exact hleaf r' hfirst
  have hholds : Holds "#/b" layered :=
    .entry List.mem_cons_self (fun hne => absurd rfl hne) (.here rfl)
  have hdirect : IsDirect layered "#/b" := ⟨rfl, fun _ _ => trivial⟩
  exact ⟨rfl, hacyclic, hholds, hdirect, (dereference_replaces rfl hacyclic).2 _ hholds hdirect⟩

end Reference
end Arazzo
