import Arazzo.Proofs.Document.Dereference
import Arazzo.Proofs.Document.Keys

/-!
# What a walk puts in the place of a value

A walk that comes to an end has put something in the place of each member of a list or a mapping, and
the members keep their places and their keys. In the place of a reference stands the part that it
points to, overlaid with what the walk has made of the entries beside it.
-/

namespace Arazzo
namespace Reference

variable {root : Value} {active : List String} {follow : String → Value → Except Fault Value}

/-- What one mapping has become of another, entry by entry. -/
def Entrywise (R : Value → Value → Prop) : Entries → Entries → Prop :=
  List.Forall₂ fun a b => b.1 = a.1 ∧ R a.2 b.2

theorem visitItems_ok_iff {items ws : List Value} :
    visitItems root active follow items = .ok ws ↔
      List.Forall₂ (fun v w => visit root active follow v = .ok w) items ws := by
  refine traverse_ok_iff ?_ fun v rest bs => ?_
  · rfl
  · rw [visitItems]
    simp only [bind_ok_iff, Except.ok.injEq]

theorem visitEntries_ok_iff {entries ws : Entries} :
    visitEntries root active follow entries = .ok ws ↔
      Entrywise (fun v w => visit root active follow v = .ok w) entries ws := by
  refine traverse_keyed_ok_iff (R := fun v w => visit root active follow v = .ok w) ?_
    fun entry rest bs => ?_
  · rfl
  · rw [visitEntries]
    simp only [bind_ok_iff, Except.ok.injEq]

/-- Beside a reference are the entries without its key. -/
theorem visitSiblings_eq (entries : Entries) :
    visitSiblings root active follow entries =
      visitEntries root active follow (Entries.erase key entries) := by
  induction entries with
  | nil => rfl
  | cons entry rest ih =>
    obtain ⟨k, v⟩ := entry
    rw [visitSiblings, ih]
    by_cases hkey : k.same key = true
    · rw [if_pos hkey, Entries.erase, Entries.erase, List.filter_cons_of_neg (by simp [hkey])]
    · rw [if_neg hkey, Entries.erase, Entries.erase, List.filter_cons_of_pos (by simp [hkey]),
        visitEntries]

theorem mem_erase_key {entries : Entries} {entry : Scalar × Value} :
    entry ∈ Entries.erase key entries ↔ entry ∈ entries ∧ entry.1 ≠ key := by
  simp [Entries.erase, Bool.eq_false_iff, same_key_iff]

namespace Entrywise

variable {R : Value → Value → Prop} {as bs : Entries}

theorem exists_mem (h : Entrywise R as bs) {k : Scalar} {w : Value} (hw : (k, w) ∈ bs) :
    ∃ v, (k, v) ∈ as ∧ R v w := by
  obtain ⟨⟨k', v⟩, hv, rfl, hR⟩ := exists_mem_of_forall₂ h hw
  exact ⟨v, hv, hR⟩

/-- What is found under a key has become what is found there now. -/
theorem find? (h : Entrywise R as bs) (k : Scalar) :
    (Entries.find? k as = none ∧ Entries.find? k bs = none) ∨
      ∃ v w, Entries.find? k as = some v ∧ Entries.find? k bs = some w ∧ R v w := by
  induction h with
  | nil => exact .inl ⟨rfl, rfl⟩
  | @cons a b as bs hab _ ih =>
    obtain ⟨k', v⟩ := a
    obtain ⟨k'', w⟩ := b
    obtain ⟨rfl, hR⟩ := hab
    rw [Entries.find?, Entries.find?]
    split_ifs
    · exact .inr ⟨v, w, rfl, rfl, hR⟩
    · exact ih

theorem keys_eq (h : Entrywise R as bs) : bs.map Prod.fst = as.map Prod.fst := by
  induction h with
  | nil => rfl
  | cons hab _ ih => rw [List.map_cons, List.map_cons, hab.1, ih]

theorem mono {R' : Value → Value → Prop} (h : Entrywise R as bs)
    (hR : ∀ k v w, (k, v) ∈ as → R v w → R' v w) : Entrywise R' as bs := by
  induction h with
  | nil => exact .nil
  | @cons a b as bs hab hrest ih =>
    exact .cons ⟨hab.1, hR a.1 _ _ List.mem_cons_self hab.2⟩
      (ih fun k v w hv => hR k v w (List.mem_cons_of_mem _ hv))

end Entrywise

/-- All that a walk can put in the place of a value. -/
inductive Visited (root : Value) (active : List String)
    (follow : String → Value → Except Fault Value) : Value → Value → Prop
  | scalar (s : Scalar) : Visited root active follow (.scalar s) (.scalar s)
  | tuple (items : List Value) : Visited root active follow (.tuple items) (.tuple items)
  | set (members : List Scalar) : Visited root active follow (.set members) (.set members)
  | list {items ws : List Value} :
      List.Forall₂ (fun v w => visit root active follow v = .ok w) items ws →
      Visited root active follow (.list items) (.list ws)
  | map {entries ws : Entries} : of? entries = none →
      Entrywise (fun v w => visit root active follow v = .ok w) entries ws →
      Visited root active follow (.map entries) (.map ws)
  | again {entries : Entries} {q : String} : of? entries = some q → q ∈ active →
      Visited root active follow (.map entries) (.map entries)
  | part {entries siblings : Entries} {q : String} {part inside : Value} :
      of? entries = some q → q ∉ active → resolve root q = .ok part → follow q part = .ok inside →
      Entrywise (fun v w => visit root active follow v = .ok w) (Entries.erase key entries)
        siblings →
      Visited root active follow (.map entries) (merge inside siblings)

theorem visited_of_ok {v w : Value} (h : visit root active follow v = .ok w) :
    Visited root active follow v w := by
  cases v with
  | scalar s =>
    cases h
    exact .scalar s
  | tuple items =>
    cases h
    exact .tuple items
  | set members =>
    cases h
    exact .set members
  | list items =>
    rw [visit] at h
    cases hitems : visitItems root active follow items with
    | error f => simp [hitems, Except.map] at h
    | ok ws =>
      rw [hitems] at h
      cases h
      exact .list (visitItems_ok_iff.mp hitems)
  | map entries =>
    cases hof : of? entries with
    | none =>
      simp only [visit, hof] at h
      cases hentries : visitEntries root active follow entries with
      | error f => simp [hentries, Except.map] at h
      | ok ws =>
        rw [hentries] at h
        cases h
        exact .map hof (visitEntries_ok_iff.mp hentries)
    | some q =>
      by_cases hactive : q ∈ active
      · simp only [visit, hof] at h
        split_ifs at h with hhead hin
        · cases h
          exact .again hof hactive
        · simp [hactive] at hin
      · obtain ⟨-, part, hpart, inside, hinside, siblings, hsiblings, rfl⟩ :=
          (visit_reference_ok_iff hof hactive).mp h
        rw [visitSiblings_eq, visitEntries_ok_iff] at hsiblings
        exact .part hof hactive hpart hinside hsiblings

/-- A mapping keeps its reference when entries with other keys are laid over it. -/
theorem of?_insertAll {entries added : Entries} (h : ∀ entry ∈ added, entry.1 ≠ key) :
    of? (Entries.insertAll entries added) = of? entries := by
  rw [of?, of?, Entries.find?_insertAll_of_forall fun entry hmem => ?_]
  rw [Bool.eq_false_iff, ne_eq, same_key_iff]
  exact h entry hmem

/-- What lies beside a reference has other keys. -/
theorem Entrywise.ne_key {R : Value → Value → Prop} {entries siblings : Entries}
    (h : Entrywise R (Entries.erase key entries) siblings) : ∀ entry ∈ siblings, entry.1 ≠ key := by
  rintro ⟨k, w⟩ hw
  obtain ⟨v, hv, -⟩ := h.exists_mem hw
  exact (mem_erase_key.mp hv).2

/-! ## Values without references -/

/-- The reference that a value itself is. -/
def ofValue? : Value → Option String
  | .map entries => of? entries
  | _ => none

/-- A walk changes nothing where there is no reference. -/
theorem visit_eq_self {v : Value} (h : ∀ r, ¬ Holds r v) : visit root active follow v = .ok v := by
  induction v using Value.induction_members with
  | scalar s => rfl
  | tuple items => rfl
  | set members => rfl
  | list items ih =>
    have hitems : visitItems root active follow items = .ok items :=
      visitItems_ok_iff.mpr (List.forall₂_same.mpr fun v hv =>
        ih v hv fun r hr => h r (.item hv hr))
    rw [visit, hitems]
    rfl
  | map entries ih =>
    cases hof : of? entries with
    | some r => exact absurd (.here hof) (h r)
    | none =>
      have hentries : visitEntries root active follow entries = .ok entries := by
        refine visitEntries_ok_iff.mpr (List.forall₂_same.mpr ?_)
        rintro ⟨k, v⟩ hv
        exact ⟨rfl, ih k v hv fun r hr => h r (.entry hv (fun hne => absurd hof hne) hr)⟩
      simp only [visit, hof, hentries]
      rfl

end Reference
end Arazzo
