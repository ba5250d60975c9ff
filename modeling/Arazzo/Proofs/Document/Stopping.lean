import Arazzo.Proofs.Document.Dereference

/-!
# What keeps a document from being dereferenced

A walk meets references one after the other, those of a part as soon as a reference to it is followed.
It stops at the first one that points outside of the document, or to nothing, or into a list by digits
that are no position. Its error is the one of this reference, and without such a reference there is none.
-/

namespace Arazzo
namespace Reference

open Text

/-! ## References that cannot be followed -/

/-- A key of digits that is no position: one of them has no decimal value, or they are too many. -/
inductive IsBadPosition (token : List Char) : Prop
  | undecimal : token ≠ [] → (∀ c ∈ token, isDigit c ∨ isLooseDigit c) →
      Numeral.digits? token = none → IsBadPosition token
  | overlong {digits : List Nat} : (∀ c ∈ token, isDigit c ∨ isLooseDigit c) →
      Numeral.digits? token = some digits → Numeral.digitLimit < digits.length → IsBadPosition token

theorem IsBadPosition.ne_nil {token : List Char} (h : IsBadPosition token) : token ≠ [] := by
  rintro rfl
  cases h with
  | undecimal hne => exact hne rfl
  | overlong _ hds => cases hds

theorem position?_error_iff {length : Nat} {token : List Char} {f : Fault} :
    position? length token = .error f ↔ f = .defect .pointerDigit ∧ IsBadPosition token := by
  have hclass : ¬ (token.isEmpty ∨ !token.all fun c => isDigit c || isLooseDigit c) ↔
      token ≠ [] ∧ ∀ c ∈ token, isDigit c ∨ isLooseDigit c := by
    rw [not_or, List.isEmpty_iff, Bool.not_eq_true', Bool.not_eq_false, List.all_eq_true]
    simp only [Bool.or_eq_true]
  unfold position?
  constructor
  · intro h
    split at h
    · cases h
    · next hdigits =>
      obtain ⟨hne, hall⟩ := hclass.mp hdigits
      split at h
      · next hnone => exact ⟨(Except.error.inj h).symm, .undecimal hne hall hnone⟩
      · next ds hds =>
        split at h
        · next hlong => exact ⟨(Except.error.inj h).symm, .overlong hall hds hlong⟩
        · cases h
  · rintro ⟨rfl, hbad⟩
    have hne := hbad.ne_nil
    cases hbad with
    | undecimal _ hall hnone => rw [if_neg (hclass.mpr ⟨hne, hall⟩), hnone]
    | overlong hall hds hlong =>
      rw [if_neg (hclass.mpr ⟨hne, hall⟩), hds]
      exact if_pos hlong

/-- A reference that leads into a list by a key that is no position. -/
inductive LeadsNowhere (root : Value) (reference : String) : Prop
  | intro {front later : List (List Char)} {token : List Char} {items : List Value} :
      tokens (reference.toList.drop 1) = front ++ token :: later →
      front.foldlM (child reference) root = .ok (.list items) → IsBadPosition token →
      LeadsNowhere root reference

theorem child_error {reference : String} {v : Value} {token : List Char} {f : Fault}
    (h : child reference v token = .error f) : f = unresolvable reference ∨
      f = .defect .pointerDigit ∧ IsBadPosition token ∧ ∃ items, v = .list items := by
  unfold child at h
  split at h
  · split at h
    · cases h
    · exact .inl (Except.error.inj h).symm
  · next items =>
    rcases bind_error_iff.mp h with h | ⟨position, -, h⟩
    · obtain ⟨rfl, hbad⟩ := position?_error_iff.mp h
      exact .inr ⟨rfl, hbad, items, rfl⟩
    · split at h
      · split at h
        · cases h
        · exact .inl (Except.error.inj h).symm
      · exact .inl (Except.error.inj h).symm
  · exact .inl (Except.error.inj h).symm

theorem resolve_error {root : Value} {reference : String} {f : Fault}
    (h : resolve root reference = .error f) :
    f = unresolvable reference ∨ f = .defect .pointerDigit ∧ LeadsNowhere root reference := by
  unfold resolve at h
  split at h
  · cases h
  · obtain ⟨front, token, later, v, htokens, hfront, htoken⟩ := foldlM_error_iff.mp h
    obtain rfl | ⟨rfl, hbad, items, rfl⟩ := child_error htoken
    · exact .inl rfl
    · exact .inr ⟨rfl, .intro htokens hfront hbad⟩

theorem LeadsNowhere.resolve_eq {root : Value} {reference : String}
    (h : LeadsNowhere root reference) : resolve root reference = .error (.defect .pointerDigit) := by
  obtain ⟨htokens, hfront, hbad⟩ := h
  unfold resolve
  split
  · next hnil =>
    -- A pointer without a way has one empty key, which is no bad position.
    rw [hnil] at htokens
    have hmem : _ ∈ tokens [] := htokens ▸ List.mem_append_right _ List.mem_cons_self
    exact absurd (List.mem_singleton.mp hmem) hbad.ne_nil
  · refine foldlM_error_iff.mpr ⟨_, _, _, _, htokens, hfront, ?_⟩
    rw [child, position?_error_iff.mpr ⟨rfl, hbad⟩]
    rfl

/-- Why a reference cannot be followed: it points outside, or to nothing, or leads nowhere. -/
inductive Refuses (root : Value) (reference : String) : Fault → Prop
  | external : reference.toList.head? ≠ some '#' →
      Refuses root reference (.failure (.loading (.externalReference reference) none none))
  | unresolvable : reference.toList.head? = some '#' → (∀ part, resolve root reference ≠ .ok part) →
      ¬ LeadsNowhere root reference → Refuses root reference (unresolvable reference)
  | pointer : reference.toList.head? = some '#' → LeadsNowhere root reference →
      Refuses root reference (.defect .pointerDigit)

/-- Whether a reference can be followed, else why not. -/
def check (root : Value) (reference : String) : Except Fault Unit :=
  if reference.toList.head? ≠ some '#' then
    .error (.failure (.loading (.externalReference reference) none none))
  else (resolve root reference).map fun _ => ()

theorem check_ok_iff {root : Value} {reference : String} :
    check root reference = .ok () ↔ IsGood root reference := by
  unfold check
  split_ifs with hhead
  · exact ⟨nofun, fun h => absurd h.fragment hhead⟩
  · rw [map_ok_iff]
    simp only [and_true]
    exact ⟨fun h => ⟨not_not.mp hhead, h⟩, IsGood.resolves⟩

theorem check_error_iff {reference : String} {f : Fault} :
    check root reference = .error f ↔ Refuses root reference f := by
  unfold check
  constructor
  · intro h
    split_ifs at h with hhead
    · exact Except.error.inj h ▸ .external hhead
    · have hresolve := map_error_iff.mp h
      obtain rfl | ⟨rfl, hnowhere⟩ := resolve_error hresolve
      · refine .unresolvable (not_not.mp hhead) (fun part hpart => ?_) fun hnowhere => ?_
        · cases hpart.symm.trans hresolve
        · cases hnowhere.resolve_eq.symm.trans hresolve
      · exact .pointer (not_not.mp hhead) hnowhere
  · intro h
    cases h with
    | external hhead => rw [if_pos hhead]
    | unresolvable hhead hnone hnot =>
      rw [if_neg (not_not.mpr hhead), map_error_iff]
      cases hresolve : resolve root reference with
      | ok part => exact absurd hresolve (hnone part)
      | error f =>
        obtain rfl | ⟨-, hnowhere⟩ := resolve_error hresolve
        · rfl
        · exact absurd hnowhere hnot
    | pointer hhead hnowhere =>
      rw [if_neg (not_not.mpr hhead), hnowhere.resolve_eq]
      rfl

/-! ## What a walk meets -/

mutual

/-- The references that a walk meets, in its order. `follow` gives those that it meets in the part that a
reference points to. -/
def met (root : Value) (active : List String) (follow : String → Value → List String) :
    Value → List String
  | .list items => metItems root active follow items
  | .map entries => match of? entries with
    | none => metEntries root active follow false entries
    | some reference =>
      reference :: if active.contains reference then [] else match resolve root reference with
        | .ok part => follow reference part ++ metEntries root active follow true entries
        | .error _ => []
  | _ => []

def metItems (root : Value) (active : List String) (follow : String → Value → List String) :
    List Value → List String
  | [] => []
  | v :: rest => met root active follow v ++ metItems root active follow rest

/-- What a walk meets in the entries of a mapping, beside a reference or not. -/
def metEntries (root : Value) (active : List String) (follow : String → Value → List String)
    (beside : Bool) : List (Scalar × Value) → List String
  | [] => []
  | (k, v) :: rest =>
    if beside && k.same key then metEntries root active follow beside rest
    else met root active follow v ++ metEntries root active follow beside rest

end

def metWithin (root : Value) : Nat → List String → Value → List String
  | 0, _, _ => []
  | fuel + 1, active, v =>
    met root active (fun reference => metWithin root fuel (reference :: active)) v

variable {root : Value} {active : List String} {follow : String → Value → Except Fault Value}
  {follow' : String → Value → List String}

theorem exists_of_mem_metItems {items : List Value} {q : String}
    (h : q ∈ metItems root active follow' items) : ∃ v ∈ items, q ∈ met root active follow' v := by
  induction items with
  | nil => cases h
  | cons v rest ih =>
    rw [metItems, List.mem_append] at h
    rcases h with h | h
    · exact ⟨v, List.mem_cons_self, h⟩
    · obtain ⟨w, hw, hmet⟩ := ih h
      exact ⟨w, List.mem_cons_of_mem v hw, hmet⟩

theorem exists_of_mem_metEntries {beside : Bool} {entries : Entries} {q : String}
    (h : q ∈ metEntries root active follow' beside entries) : ∃ entry ∈ entries,
      (beside = true → entry.1 ≠ key) ∧ q ∈ met root active follow' entry.2 := by
  induction entries with
  | nil => cases h
  | cons entry rest ih =>
    have hlater : q ∈ metEntries root active follow' beside rest → ∃ entry' ∈ entry :: rest,
        (beside = true → entry'.1 ≠ key) ∧ q ∈ met root active follow' entry'.2 := by
      intro hrest
      obtain ⟨entry', hentry', hmet⟩ := ih hrest
      exact ⟨entry', List.mem_cons_of_mem entry hentry', hmet⟩
    rw [metEntries] at h
    split_ifs at h with hkey
    · exact hlater h
    · rcases List.mem_append.mp h with h | h
      · refine ⟨entry, List.mem_cons_self, fun hbeside heq => hkey ?_, h⟩
        rw [hbeside, (same_key_iff entry.1).mpr heq]
        rfl
      · exact hlater h

/-- A walk over what stands in the document meets references of the document. -/
theorem holds_of_mem_met (hfollow : ∀ r part, resolve root r = .ok part →
      ∀ q ∈ follow' r part, Holds q root) {v : Value} (hv : ∀ r, Holds r v → Holds r root) :
    ∀ q ∈ met root active follow' v, Holds q root := by
  induction v using Value.induction_members with
  | scalar s => exact List.forall_mem_nil _
  | tuple items => exact List.forall_mem_nil _
  | set members => exact List.forall_mem_nil _
  | list items ih =>
    intro q hq
    obtain ⟨w, hw, hmet⟩ := exists_of_mem_metItems hq
    exact ih w hw (fun r hr => hv r (.item hw hr)) q hmet
  | map entries ih =>
    have hentries : ∀ {beside : Bool}, (of? entries ≠ none → beside = true) →
        ∀ q ∈ metEntries root active follow' beside entries, Holds q root := by
      intro beside hbeside q hq
      obtain ⟨entry, hentry, hkey, hmet⟩ := exists_of_mem_metEntries hq
      exact ih entry.1 entry.2 hentry
        (fun r hr => hv r (.entry hentry (fun hof => hkey (hbeside hof)) hr)) q hmet
    rw [met]
    cases hof : of? entries with
    | none => exact hentries fun hne => absurd hof hne
    | some reference =>
      have hhere : Holds reference root := hv reference (.here hof)
      dsimp only
      split_ifs
      · exact List.forall_mem_singleton.mpr hhere
      · cases hresolve : resolve root reference with
        | error f => exact List.forall_mem_singleton.mpr hhere
        | ok part =>
          refine List.forall_mem_cons.mpr ⟨hhere, List.forall_mem_append.mpr ⟨?_, ?_⟩⟩
          · exact hfollow reference part hresolve
          · exact hentries fun _ => rfl

theorem holds_of_mem_metWithin (fuel : ℕ) {v : Value} (hv : ∀ r, Holds r v → Holds r root) :
    ∀ q ∈ metWithin root fuel active v, Holds q root := by
  induction fuel generalizing active v with
  | zero => exact List.forall_mem_nil _
  | succ fuel ih =>
    exact holds_of_mem_met (fun r part hresolve => ih fun _ => .of_resolve hresolve) hv

/-- The references that dereferencing a document meets, in its order. -/
def encountered (root : Value) : List String := metWithin root ((all root).length + 1) [] root

/-- The part of a reference comes before what stands behind the reference. -/
example : encountered (.list [.map [(key, .text "#/1")], .map [(key, .text "other")]]) =
    ["#/1", "other", "other"] := by decide +kernel

/-! ## The first reference that stops it -/

/-- A computation has a value if the references in a list can all be followed, and else the error of the
first one that cannot. -/
def IsCheckOf {α : Type} (root : Value) (references : List String) (x : Except Fault α) : Prop :=
  x.map (fun _ => ()) = forM references (check root)

namespace IsCheckOf

variable {α β γ : Type} {references references' : List String} {x : Except Fault α}
  {y : Except Fault β}

theorem ok (root : Value) (a : α) : IsCheckOf root [] (.ok a) := rfl

theorem map (h : IsCheckOf root references x) (f : α → β) :
    IsCheckOf root references (x.map f) := by
  rw [IsCheckOf, ← h]
  cases x <;> rfl

theorem both (hx : IsCheckOf root references x) (hy : IsCheckOf root references' y)
    (f : α → β → γ) : IsCheckOf root (references ++ references')
      (x >>= fun a => y >>= fun b => .ok (f a b)) := by
  rw [IsCheckOf, List.forM_append, ← hx, ← hy]
  cases x with
  | error f => rfl
  | ok a => cases y <;> rfl

theorem cons {reference : String} (hgood : IsGood root reference) (h : IsCheckOf root references x) :
    IsCheckOf root (reference :: references) x := by
  rw [IsCheckOf, List.forM_cons, check_ok_iff.mpr hgood, h]
  rfl

theorem bad {reference : String} {f : Fault} (hbad : check root reference = .error f) :
    IsCheckOf root (reference :: references) (.error f : Except Fault α) := by
  rw [IsCheckOf, List.forM_cons, hbad]
  rfl

theorem error_iff (h : IsCheckOf root references x) {f : Fault} : x = .error f ↔
    ∃ (i : ℕ) (reference : String), references[i]? = some reference ∧
      check root reference = .error f ∧ ∀ j < i, ∀ r, references[j]? = some r → IsGood root r := by
  have herror : x = .error f ↔ forM references (check root) = .error f := by
    rw [← h]
    exact map_error_iff.symm
  have hfirst := @traverse_error_iff Fault String Unit Unit (forM · (check root)) (check root)
    ⟨(), rfl⟩ (fun r rest e => by rw [List.forM_cons, bind_error_iff, exists_and_right]) references f
  simp only [herror, hfirst, ← check_ok_iff, Unique.exists_iff]

end IsCheckOf

theorem isCheckOf_visitItems {items : List Value}
    (h : ∀ v ∈ items, IsCheckOf root (met root active follow' v) (visit root active follow v)) :
    IsCheckOf root (metItems root active follow' items) (visitItems root active follow items) := by
  induction items with
  | nil => exact .ok root []
  | cons v rest ih =>
    obtain ⟨hv, hrest⟩ := List.forall_mem_cons.mp h
    exact hv.both (ih hrest) _

theorem isCheckOf_visitEntries {entries : Entries}
    (h : ∀ entry ∈ entries, IsCheckOf root (met root active follow' entry.2)
      (visit root active follow entry.2)) :
    IsCheckOf root (metEntries root active follow' false entries)
      (visitEntries root active follow entries) := by
  induction entries with
  | nil => exact .ok root []
  | cons entry rest ih =>
    obtain ⟨hentry, hrest⟩ := List.forall_mem_cons.mp h
    exact hentry.both (ih hrest) _

theorem isCheckOf_visitSiblings {entries : Entries}
    (h : ∀ entry ∈ entries, IsCheckOf root (met root active follow' entry.2)
      (visit root active follow entry.2)) :
    IsCheckOf root (metEntries root active follow' true entries)
      (visitSiblings root active follow entries) := by
  induction entries with
  | nil => exact .ok root []
  | cons entry rest ih =>
    obtain ⟨hentry, hrest⟩ := List.forall_mem_cons.mp h
    rw [metEntries, visitSiblings, Bool.true_and]
    split_ifs
    · exact ih hrest
    · exact hentry.both (ih hrest) _

/-- A walk inside parts of good references goes as far as the references that it meets are good. -/
theorem isCheckOf_visit (hactive : ∀ r ∈ active, IsGood root r)
    (hfollow : ∀ r part, IsGood root r → resolve root r = .ok part →
      IsCheckOf root (follow' r part) (follow r part)) (v : Value) :
    IsCheckOf root (met root active follow' v) (visit root active follow v) := by
  induction v using Value.induction_members with
  | scalar s => exact .ok root _
  | tuple items => exact .ok root _
  | set members => exact .ok root _
  | list items ih =>
    rw [met, visit]
    exact (isCheckOf_visitItems ih).map _
  | map entries ih =>
    have hentries : ∀ entry ∈ entries, IsCheckOf root (met root active follow' entry.2)
        (visit root active follow entry.2) := fun entry hentry => ih entry.1 entry.2 hentry
    rw [met, visit]
    cases hof : of? entries with
    | none => exact (isCheckOf_visitEntries hentries).map _
    | some reference =>
      dsimp only
      by_cases hhead : reference.toList.head? = some '#'
      · rw [if_neg (not_not.mpr hhead)]
        split_ifs with hin
        · exact .cons (hactive reference (List.contains_iff_mem.mp hin)) (.ok root _)
        · cases hresolve : resolve root reference with
          | error f =>
            refine .bad ?_
            rw [check, if_neg (not_not.mpr hhead), hresolve]
            rfl
          | ok part =>
            have hgood : IsGood root reference := ⟨hhead, part, hresolve⟩
            exact .cons hgood
              ((hfollow reference part hgood hresolve).both (isCheckOf_visitSiblings hentries) merge)
      · have hbad : check root reference =
            .error (.failure (.loading (.externalReference reference) none none)) := if_pos hhead
        rw [if_pos hhead]
        split_ifs
        · exact .bad hbad
        · cases resolve root reference <;> exact .bad hbad

theorem isCheckOf_dereferenceWithin (fuel : Nat) (hactive : ∀ r ∈ active, IsGood root r) (v : Value) :
    IsCheckOf root (metWithin root fuel active v) (dereferenceWithin root fuel active v) := by
  induction fuel generalizing active v with
  | zero => exact .ok root v
  | succ fuel ih =>
    exact isCheckOf_visit hactive (fun r part hgood _ =>
      ih (List.forall_mem_cons.mpr ⟨hgood, hactive⟩) part) v

/-- Why a document cannot be dereferenced: the first of its references that is met and cannot be
followed. -/
inductive Stops (root : Value) (f : Fault) : Prop
  | intro {i : ℕ} {reference : String} : (encountered root)[i]? = some reference →
      Holds reference root → Refuses root reference f →
      (∀ j < i, ∀ r, (encountered root)[j]? = some r → IsGood root r) → Stops root f

theorem Stops.exists_refuses {f : Fault} (h : Stops root f) :
    ∃ reference, Refuses root reference f := by
  obtain ⟨-, -, hrefuses, -⟩ := h
  exact ⟨_, hrefuses⟩

/-- The error of a document is that of the first of its references that cannot be followed. -/
theorem dereference_error_iff {f : Fault} : dereference root = .error f ↔ Stops root f := by
  have hcheck : IsCheckOf root (encountered root) (dereference root) :=
    isCheckOf_dereferenceWithin _ (List.forall_mem_nil _) root
  rw [hcheck.error_iff]
  constructor
  · rintro ⟨i, reference, hi, hbad, hfront⟩
    exact .intro hi (holds_of_mem_metWithin _ (fun _ h => h) _ (List.mem_of_getElem? hi))
      (check_error_iff.mp hbad) hfront
  · rintro ⟨hi, -, hrefuses, hfront⟩
    exact ⟨_, _, hi, check_error_iff.mpr hrefuses, hfront⟩

end Reference
end Arazzo
