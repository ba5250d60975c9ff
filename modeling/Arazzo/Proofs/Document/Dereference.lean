import Arazzo.Document.Reference
import Arazzo.Proofs.Document.Entries
import Arazzo.Proofs.Except
import Mathlib.Data.List.Perm.Subperm

/-!
# Dereferencing a document

Parts that are entered inside one another belong to different references of the document, so a
document of finitely many references is left again, whatever cycles the references form. What comes
back is a document if and only if all references anywhere in it are good: the walk over the document
itself meets each of them outside of any part, where none is passed over as circular.
-/

namespace Arazzo

namespace Reference

/-- A mapping anywhere in a value holds the reference. What stands under the key of a mapping's own
reference is the text of that reference. -/
inductive Holds (reference : String) : Value → Prop
  | here {entries : Entries} : of? entries = some reference → Holds reference (.map entries)
  | item {items : List Value} {v : Value} : v ∈ items → Holds reference v →
      Holds reference (.list items)
  | entry {entries : Entries} {k : Scalar} {v : Value} : (k, v) ∈ entries →
      (of? entries ≠ none → k ≠ key) → Holds reference v → Holds reference (.map entries)

/-- A reference to a part of this document that is there. -/
structure IsGood (root : Value) (reference : String) : Prop where
  fragment : reference.toList.head? = some '#'
  resolves : ∃ part, resolve root reference = .ok part

theorem same_key_iff (k : Scalar) : k.same key = true ↔ k = key := Scalar.same_text_iff k "$ref"

/-! ## What a value holds -/

theorem mem_allItems {reference : String} {items : List Value} {v : Value} (hv : v ∈ items)
    (h : reference ∈ all v) : reference ∈ allItems items := by
  induction items with
  | nil => simp at hv
  | cons first rest ih =>
    rw [allItems, List.mem_append]
    rcases List.mem_cons.mp hv with rfl | hv
    · exact .inl h
    · exact .inr (ih hv)

theorem mem_allEntries {reference : String} {entries : Entries} {k : Scalar} {v : Value}
    (hv : (k, v) ∈ entries) (h : reference ∈ all v) : reference ∈ allEntries entries := by
  induction entries with
  | nil => simp at hv
  | cons first rest ih =>
    rw [allEntries, List.mem_append]
    rcases List.mem_cons.mp hv with rfl | hv
    · exact .inl h
    · exact .inr (ih hv)

theorem Holds.mem_all {reference : String} {v : Value} (h : Holds reference v) :
    reference ∈ all v := by
  induction h with
  | here hof =>
    rw [all, hof]
    exact List.mem_append_left _ (List.mem_singleton_self reference)
  | item hv _ ih =>
    rw [all]
    exact mem_allItems hv ih
  | entry hv _ _ ih =>
    rw [all]
    exact List.mem_append_right _ (mem_allEntries hv ih)

/-- A mapping of a kind stands anywhere in a value. -/
inductive Has (P : Entries → Prop) : Value → Prop
  | here {entries : Entries} : P entries → Has P (.map entries)
  | item {items : List Value} {v : Value} : v ∈ items → Has P v → Has P (.list items)
  | entry {entries : Entries} {k : Scalar} {v : Value} : (k, v) ∈ entries →
      (of? entries ≠ none → k ≠ key) → Has P v → Has P (.map entries)

theorem holds_iff_has {reference : String} {v : Value} :
    Holds reference v ↔ Has (fun entries => of? entries = some reference) v := by
  constructor
  · intro h
    induction h with
    | here hof => exact .here hof
    | item hv _ ih => exact .item hv ih
    | entry hv hk _ ih => exact .entry hv hk ih
  · intro h
    induction h with
    | here hof => exact .here hof
    | item hv _ ih => exact .item hv ih
    | entry hv hk _ ih => exact .entry hv hk ih

theorem not_has_scalar (P : Entries → Prop) (s : Scalar) : ¬ Has P (.scalar s) :=
  fun h => by cases h

/-- What stands in the entry that a key leads to stands in the mapping. -/
theorem Has.of_get? {P : Entries → Prop} {entries : Entries} {name : String} {v : Value}
    (hget : Entries.get? entries name = some v) (h : Has P v) : Has P (.map entries) := by
  obtain ⟨k, hmem, hsame⟩ := Entries.exists_of_find? hget
  obtain rfl := (Scalar.same_text_iff k name).mp hsame
  refine .entry hmem (fun hof hkey => ?_) h
  have hfind : Entries.find? key entries = some v := hkey ▸ hget
  obtain ⟨text, htext⟩ := Option.ne_none_iff_exists'.mp hof
  rw [of?, hfind, Option.bind_some] at htext
  cases v with
  | scalar s => exact not_has_scalar P s h
  | _ => simp [Value.text?] at htext

theorem child_map_ok_iff {reference : String} {entries : Entries} {token : List Char}
    {part : Value} : child reference (.map entries) token = .ok part ↔
      Entries.get? entries (String.ofList token) = some part := by
  rw [child]
  cases Entries.get? entries (String.ofList token) <;> simp

theorem child_list_ok_iff {reference : String} {items : List Value} {token : List Char}
    {part : Value} : child reference (.list items) token = .ok part ↔
      ∃ i, position? items.length token = .ok (some i) ∧ items[i]? = some part := by
  rw [child, bind_ok_iff]
  constructor
  · rintro ⟨position, hposition, hpart⟩
    cases position with
    | none => cases hpart
    | some i =>
      refine ⟨i, hposition, ?_⟩
      cases hitem : items[i]? with
      | none => simp [hitem] at hpart
      | some v => simpa [hitem] using hpart
  · rintro ⟨i, hposition, hitem⟩
    exact ⟨some i, hposition, by simp [hitem]⟩

theorem Has.of_child {P : Entries → Prop} {pointer : String} {v part : Value} {token : List Char}
    (hchild : child pointer v token = .ok part) (h : Has P part) : Has P v := by
  cases v with
  | map entries => exact h.of_get? (child_map_ok_iff.mp hchild)
  | list items =>
    obtain ⟨i, -, hitem⟩ := child_list_ok_iff.mp hchild
    exact .item (List.mem_of_getElem? hitem) h
  | _ => cases hchild

/-- What stands in a part of the root stands in the root. -/
theorem Has.of_resolve {P : Entries → Prop} {pointer : String} {root part : Value}
    (hresolve : resolve root pointer = .ok part) (h : Has P part) : Has P root := by
  have hfold : ∀ (tokens : List (List Char)) (v : Value),
      tokens.foldlM (child pointer) v = .ok part → Has P v := by
    intro tokens
    induction tokens with
    | nil =>
      intro v hv
      exact Except.ok.inj hv ▸ h
    | cons token tokens ih =>
      intro v hv
      rw [List.foldlM_cons] at hv
      obtain ⟨w, hchild, hrest⟩ := bind_eq_ok hv
      exact .of_child hchild (ih w hrest)
  unfold resolve at hresolve
  split at hresolve
  · exact Except.ok.inj hresolve ▸ h
  · exact hfold _ _ hresolve

theorem Holds.of_resolve {reference pointer : String} {root part : Value}
    (hresolve : resolve root pointer = .ok part) (h : Holds reference part) :
    Holds reference root :=
  holds_iff_has.mpr (.of_resolve hresolve (holds_iff_has.mp h))

/-! ## One walk -/

section
variable {root : Value} {active : List String} {follow : String → Value → Except Fault Value}

theorem exists_visitItems_ok {items : List Value} :
    (∃ vs, visitItems root active follow items = .ok vs) ↔
      ∀ v ∈ items, ∃ w, visit root active follow v = .ok w := by
  refine exists_traverse_ok ?_ (fun v rest => ?_) items
  · exact ⟨[], rfl⟩
  · rw [visitItems]
    simp [exists_bind_ok]

theorem exists_visitEntries_ok {entries : Entries} :
    (∃ vs, visitEntries root active follow entries = .ok vs) ↔
      ∀ entry ∈ entries, ∃ w, visit root active follow entry.2 = .ok w := by
  refine exists_traverse_ok ?_ (fun entry rest => ?_) entries
  · exact ⟨[], rfl⟩
  · rw [visitEntries]
    simp [exists_bind_ok]

theorem exists_visitSiblings_ok {entries : Entries} :
    (∃ vs, visitSiblings root active follow entries = .ok vs) ↔
      ∀ entry ∈ entries, entry.1 ≠ key → ∃ w, visit root active follow entry.2 = .ok w := by
  refine exists_traverse_ok ?_ (fun entry rest => ?_) entries
  · exact ⟨[], rfl⟩
  · rw [visitSiblings]
    by_cases hkey : entry.1 = key
    · simp [hkey, same_key_iff]
    · simp [hkey, same_key_iff, exists_bind_ok]

/-- Following a reference takes a number sign, the part it points to, what following that part gives
and the entries beside the reference. -/
theorem visit_reference_ok_iff {entries : Entries} {reference : String} {w : Value}
    (hof : of? entries = some reference) (hactive : reference ∉ active) :
    visit root active follow (.map entries) = .ok w ↔
      reference.toList.head? = some '#' ∧ ∃ part, resolve root reference = .ok part ∧
        ∃ inside, follow reference part = .ok inside ∧
        ∃ siblings, visitSiblings root active follow entries = .ok siblings ∧
          merge inside siblings = w := by
  rw [visit, hof]
  by_cases hhead : reference.toList.head? = some '#'
  · simp [hhead, hactive, bind_ok_iff]
  · simp [hhead]

/-- A walk comes to an end without an error if it can leave every reference that it meets. -/
theorem exists_visit_ok {v : Value}
    (h : ∀ r, Holds r v → r.toList.head? = some '#' ∧
      (r ∉ active → ∃ part, resolve root r = .ok part ∧ ∃ inside, follow r part = .ok inside)) :
    ∃ w, visit root active follow v = .ok w := by
  induction v using Value.induction_members with
  | scalar s => exact ⟨_, rfl⟩
  | tuple items => exact ⟨_, rfl⟩
  | set members => exact ⟨_, rfl⟩
  | list items ih =>
    rw [visit, exists_map_ok, exists_visitItems_ok]
    exact fun v hv => ih v hv fun r hr => h r (.item hv hr)
  | map entries ih =>
    cases hof : of? entries with
    | none =>
      simp only [visit, hof]
      rw [exists_map_ok, exists_visitEntries_ok]
      exact fun (k, v) hv => ih k v hv fun r hr =>
        h r (.entry hv (fun hne => absurd hof hne) hr)
    | some reference =>
      obtain ⟨hhead, hreach⟩ := h reference (.here hof)
      by_cases hactive : reference ∈ active
      · exact ⟨.map entries, by simp [visit, hof, hhead, hactive]⟩
      · obtain ⟨part, hpart, inside, hinside⟩ := hreach hactive
        obtain ⟨siblings, hsiblings⟩ := exists_visitSiblings_ok.mpr fun (k, v) hv hk =>
          ih k v hv fun r hr => h r (.entry hv (fun _ => hk) hr)
        exact ⟨merge inside siblings, (visit_reference_ok_iff hof hactive).mpr
          ⟨hhead, part, hpart, inside, hinside, siblings, hsiblings, rfl⟩⟩

/-- What a walk outside of any part has passed without an error is good. -/
theorem Holds.isGood_of_visit {reference : String} {v w : Value} (h : Holds reference v)
    (hvisit : visit root [] follow v = .ok w) : IsGood root reference := by
  induction h generalizing w with
  | here hof =>
    obtain ⟨hhead, part, hpart, -⟩ := (visit_reference_ok_iff hof List.not_mem_nil).mp hvisit
    exact ⟨hhead, part, hpart⟩
  | item hv _ ih =>
    obtain ⟨vs, hvs⟩ := exists_map_ok.mp ⟨_, hvisit⟩
    obtain ⟨w, hw⟩ := exists_visitItems_ok.mp ⟨vs, hvs⟩ _ hv
    exact ih hw
  | @entry entries k v hv hk _ ih =>
    cases hof : of? entries with
    | none =>
      simp only [visit, hof] at hvisit
      obtain ⟨vs, hvs⟩ := exists_map_ok.mp ⟨_, hvisit⟩
      obtain ⟨w, hw⟩ := exists_visitEntries_ok.mp ⟨vs, hvs⟩ _ hv
      exact ih hw
    | some other =>
      obtain ⟨-, -, -, -, -, siblings, hsiblings, -⟩ :=
        (visit_reference_ok_iff hof List.not_mem_nil).mp hvisit
      obtain ⟨w, hw⟩ :=
        exists_visitSiblings_ok.mp ⟨siblings, hsiblings⟩ _ hv (hk (by simp [hof]))
      exact ih hw

variable {active' : List String} {follow' : String → Value → Except Fault Value}

theorem visitItems_congr {items : List Value}
    (h : ∀ v ∈ items, visit root active follow v = visit root active' follow' v) :
    visitItems root active follow items = visitItems root active' follow' items := by
  refine traverse_congr ?_ (fun v rest hv hrest => ?_) h
  · rfl
  · rw [visitItems, visitItems, hv, hrest]

theorem visitEntries_congr {entries : Entries}
    (h : ∀ entry ∈ entries,
      visit root active follow entry.2 = visit root active' follow' entry.2) :
    visitEntries root active follow entries = visitEntries root active' follow' entries := by
  refine traverse_congr ?_ (fun entry rest hentry hrest => ?_) h
  · rfl
  · rw [visitEntries, visitEntries, hentry, hrest]

theorem visitSiblings_congr {entries : Entries}
    (h : ∀ entry ∈ entries, entry.1 ≠ key →
      visit root active follow entry.2 = visit root active' follow' entry.2) :
    visitSiblings root active follow entries = visitSiblings root active' follow' entries := by
  refine traverse_congr ?_ (fun entry rest hentry hrest => ?_) h
  · rfl
  · rw [visitSiblings, visitSiblings]
    by_cases hkey : entry.1 = key
    · rw [if_pos ((same_key_iff _).mpr hkey), if_pos ((same_key_iff _).mpr hkey), hrest]
    · rw [hrest, hentry hkey]

/-- A walk depends on the references that are met again only as far as it meets them, and on what
following a reference gives only where it follows one. -/
theorem visit_congr {v : Value} (hactive : ∀ r, Holds r v → (r ∈ active ↔ r ∈ active'))
    (hfollow : ∀ r part, Holds r v → r ∉ active → resolve root r = .ok part →
      follow r part = follow' r part) :
    visit root active follow v = visit root active' follow' v := by
  induction v using Value.induction_members with
  | scalar s => rfl
  | tuple items => rfl
  | set members => rfl
  | list items ih =>
    rw [visit, visit, visitItems_congr fun v hv => ih v hv (fun r hr => hactive r (.item hv hr))
      fun r part hr => hfollow r part (.item hv hr)]
  | map entries ih =>
    cases hof : of? entries with
    | none =>
      have hentries := visitEntries_congr fun (k, v) hv =>
        have hentry : ∀ r, Holds r v → Holds r (.map entries) := fun r =>
          .entry hv fun hne => absurd hof hne
        ih k v hv (fun r hr => hactive r (hentry r hr)) fun r part hr =>
          hfollow r part (hentry r hr)
      simp only [visit, hof, hentries]
    | some reference =>
      have hsiblings := visitSiblings_congr fun (k, v) hv hk =>
        have hentry : ∀ r, Holds r v → Holds r (.map entries) := fun r => .entry hv fun _ => hk
        ih k v hv (fun r hr => hactive r (hentry r hr)) fun r part hr =>
          hfollow r part (hentry r hr)
      have hsame := hactive reference (.here hof)
      by_cases hin : reference ∈ active
      · simp [visit, hof, hin, hsame.mp hin]
      · have hin' : reference ∉ active' := fun h => hin (hsame.mpr h)
        cases hresolve : resolve root reference with
        | error f => simp [visit, hof, hin, hin', hresolve, bind, Except.bind]
        | ok part =>
          have hinside := hfollow reference part (.here hof) hin hresolve
          simp [visit, hof, hin, hin', hresolve, hinside, hsiblings, bind, Except.bind]

end

/-! ## The whole document -/

/-- Dereferencing with the recursion cut off: a part that lies in `fuel` others is handed over. -/
def dereferenceCut (root : Value) (cut : List String → Value → Except Fault Value) :
    Nat → List String → Value → Except Fault Value
  | 0, active, v => cut active v
  | fuel + 1, active, v =>
    visit root active (fun reference => dereferenceCut root cut fuel (reference :: active)) v

theorem dereferenceWithin_eq_cut (root : Value) (fuel : Nat) :
    dereferenceWithin root fuel = dereferenceCut root (fun _ v => .ok v) fuel := by
  induction fuel with
  | zero => rfl
  | succ fuel ih =>
    funext active v
    rw [dereferenceWithin, dereferenceCut, ih]

/-- The references whose parts a value lies in: each once, and all from the document, like those that
the value holds itself. -/
structure Entered (root : Value) (active : List String) (v : Value) : Prop where
  nodup : active.Nodup
  subset : active ⊆ all root
  within : ∀ r, Holds r v → Holds r root

variable {root : Value} {active : List String} {v : Value}

theorem entered_root (root : Value) : Entered root [] root :=
  ⟨List.nodup_nil, List.nil_subset _, fun _ => id⟩

theorem Entered.length_le (h : Entered root active v) : active.length ≤ (all root).length :=
  (List.subperm_of_subset h.nodup h.subset).length_le

theorem Entered.follow (h : Entered root active v) {reference : String} {part : Value}
    (hholds : Holds reference v) (hactive : reference ∉ active)
    (hresolve : resolve root reference = .ok part) : Entered root (reference :: active) part :=
  ⟨List.nodup_cons.mpr ⟨hactive, h.nodup⟩,
    List.cons_subset.mpr ⟨(h.within reference hholds).mem_all, h.subset⟩,
    fun _ => .of_resolve hresolve⟩

/-- The recursion ends before it is cut off. -/
theorem Entered.dereferenceCut_eq {cut cut' : List String → Value → Except Fault Value}
    {fuel fuel' : Nat} (h : Entered root active v) (hfuel : (all root).length < fuel + active.length)
    (hfuel' : (all root).length < fuel' + active.length) :
    dereferenceCut root cut fuel active v = dereferenceCut root cut' fuel' active v := by
  have hlength := h.length_le
  induction fuel generalizing fuel' active v with
  | zero => omega
  | succ fuel ih =>
    cases fuel' with
    | zero => omega
    | succ fuel' =>
      refine visit_congr (fun _ _ => .rfl) fun reference part hholds hactive hresolve => ?_
      have hentered := h.follow hholds hactive hresolve
      refine ih hentered ?_ ?_ hentered.length_le
      · rw [List.length_cons]
        omega
      · rw [List.length_cons]
        omega

theorem Entered.exists_ok (h : Entered root active v) (fuel : Nat)
    (hgood : ∀ r, Holds r root → IsGood root r) :
    ∃ w, dereferenceWithin root fuel active v = .ok w := by
  induction fuel generalizing active v with
  | zero => exact ⟨v, rfl⟩
  | succ fuel ih =>
    refine exists_visit_ok fun r hr => ?_
    have hr' := hgood r (h.within r hr)
    refine ⟨hr'.fragment, fun hactive => ?_⟩
    obtain ⟨part, hpart⟩ := hr'.resolves
    exact ⟨part, hpart, ih (h.follow hr hactive hpart)⟩

theorem dereference_eq_cut (root : Value) (cut : List String → Value → Except Fault Value) :
    dereference root = dereferenceCut root cut ((all root).length + 1) [] root := by
  rw [dereference, dereferenceWithin_eq_cut]
  exact (entered_root root).dereferenceCut_eq (by simp) (by simp)

/-- Dereferencing ends: parts are never entered inside more parts than there are references, so that
it does not matter how the recursion is cut off behind them. It gives a document if and only if all
references anywhere in the document are good. -/
theorem dereference_ends (root : Value) :
    (∀ cut fuel, (all root).length < fuel →
      dereferenceCut root cut fuel [] root = dereference root) ∧
    ((∃ v, dereference root = .ok v) ↔
      ∀ r, Holds r root → r.toList.head? = some '#' ∧ ∃ part, resolve root r = .ok part) := by
  refine ⟨fun cut fuel hfuel => ?_, ?_, fun hgood => ?_⟩
  · rw [dereference, dereferenceWithin_eq_cut]
    exact (entered_root root).dereferenceCut_eq (by simpa using hfuel) (by simp)
  · rintro ⟨v, hv⟩ r hr
    obtain ⟨hfragment, hresolves⟩ := hr.isGood_of_visit hv
    exact ⟨hfragment, hresolves⟩
  · exact (entered_root root).exists_ok _ fun r hr => ⟨(hgood r hr).1, (hgood r hr).2⟩

/-- A document that refers to itself. -/
example : dereference (.map [(.text "a", .map [(key, .text "#")])]) =
    .ok (.map [(.text "a", .map [(.text "a", .map [(key, .text "#")])])]) := rfl

end Reference
end Arazzo
