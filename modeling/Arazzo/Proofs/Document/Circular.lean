import Arazzo.Proofs.Document.Visit
import Mathlib.Logic.Relation

/-!
# References that dereferencing leaves

A reference is left in a document only where it is met again inside the part that it points to, so it
leads back to itself. There is one exception. A key of references with a mapping under it is a key like
any other; if that mapping is itself a reference to a text, the text comes to stand under the key and
reads as a new reference, which nothing follows.
-/

namespace Arazzo
namespace Reference

/-- One reference leads to another if the part it points to holds it. -/
def Leads (root : Value) (r r' : String) : Prop :=
  ∃ part, resolve root r = .ok part ∧ Holds r' part

/-- A reference leads back to itself, in one or more steps. -/
def Recurs (root : Value) (r : String) : Prop := Relation.TransGen (Leads root) r r

/-- No reference of a document leads back to itself. -/
def IsAcyclic (root : Value) : Prop := ∀ r, Holds r root → ¬ Recurs root r

/-- A reference stands in a value, and not beside another one. -/
inductive Exposed (r : String) : Value → Prop
  | here {entries : Entries} : of? entries = some r → Exposed r (.map entries)
  | item {items : List Value} {v : Value} : v ∈ items → Exposed r v → Exposed r (.list items)
  | entry {entries : Entries} {k : Scalar} {v : Value} : of? entries = none → (k, v) ∈ entries →
      Exposed r v → Exposed r (.map entries)

/-- A mapping anywhere in a value has a reference under its key of references. -/
def Doubles (q : String) (v : Value) : Prop :=
  Has (fun entries => ∃ inner, Entries.find? key entries = some (.map inner) ∧
    of? inner = some q) v

/-- A reference stands for a text: it points to the text, or to a reference that stands for it. -/
inductive StandsFor (root : Value) : String → String → Prop
  | text {q t : String} : resolve root q = .ok (.text t) → StandsFor root q t
  | next {q q' t : String} {entries : Entries} : resolve root q = .ok (.map entries) →
      of? entries = some q' → StandsFor root q' t → StandsFor root q t

/-- A text that dereferencing puts under a key of references. -/
def Arises (root : Value) (t : String) : Prop := ∃ q, Doubles q root ∧ StandsFor root q t

theorem Holds.exists_exposed {r : String} {v : Value} (h : Holds r v) : ∃ r', Exposed r' v := by
  induction h with
  | here hof => exact ⟨_, .here hof⟩
  | item hv _ ih =>
    obtain ⟨r', hr'⟩ := ih
    exact ⟨r', .item hv hr'⟩
  | @entry entries k v hv _ _ ih =>
    cases hof : of? entries with
    | some r' => exact ⟨r', .here hof⟩
    | none =>
      obtain ⟨r', hr'⟩ := ih
      exact ⟨r', .entry hof hv hr'⟩

/-! ## One walk -/

section
variable {root : Value} {active : List String} {follow : String → Value → Except Fault Value}

/-- Where a reference comes from that a walk over a value leaves exposed: it was met again, it is
left in a part that the walk has followed, or a part is the text of it. -/
inductive Origin (root : Value) (active : List String)
    (follow : String → Value → Except Fault Value) (v : Value) (r : String) : Prop
  | again : Holds r v → r ∈ active → Origin root active follow v r
  | inside {q : String} {part w : Value} : Holds q v → resolve root q = .ok part →
      follow q part = .ok w → Exposed r w → Origin root active follow v r
  | text {q : String} {part : Value} : Doubles q v → resolve root q = .ok part →
      follow q part = .ok (.text r) → Origin root active follow v r

theorem Origin.mono {v v' : Value} {r : String} (h : Origin root active follow v r)
    (hv : ∀ P, Has P v → Has P v') : Origin root active follow v' r := by
  have hholds : ∀ q, Holds q v → Holds q v' := fun q hq =>
    holds_iff_has.mpr (hv _ (holds_iff_has.mp hq))
  cases h with
  | again hr hactive => exact .again (hholds r hr) hactive
  | inside hq hpart hw hr => exact .inside (hholds _ hq) hpart hw hr
  | text hq hpart hw => exact .text (hv _ hq) hpart hw

theorem merge_eq_text_iff {part : Value} {siblings : Entries} {t : String} :
    merge part siblings = .text t ↔ part = .text t := by
  cases part <;> simp [merge]

/-- A walk gives a text for a text, and for a reference to a part that gives it. -/
theorem eq_or_reference_of_visit_text {v : Value} {t : String}
    (h : visit root active follow v = .ok (.text t)) :
    v = .text t ∨ ∃ entries q part, v = .map entries ∧ of? entries = some q ∧
      resolve root q = .ok part ∧ follow q part = .ok (.text t) := by
  generalize hw : Value.text t = w at h
  cases visited_of_ok h with
  | scalar s => exact .inl rfl
  | part hof _ hpart hinside _ =>
    obtain rfl := merge_eq_text_iff.mp hw.symm
    exact .inr ⟨_, _, _, rfl, hof, hpart, hinside⟩
  | _ => cases hw

/-- A reference that stands in a merged mapping stands in the part or in an entry beside it. -/
theorem Exposed.of_merge {part : Value} {siblings : Entries} {r : String}
    (h : Exposed r (merge part siblings)) (hne : ∀ entry ∈ siblings, entry.1 ≠ key) :
    Exposed r part ∨ ∃ k w, (k, w) ∈ siblings ∧ Exposed r w := by
  cases part with
  | map entries =>
    cases h with
    | here hof => exact .inl (.here (of?_insertAll hne ▸ hof))
    | entry hof hmem hr =>
      rw [of?_insertAll hne] at hof
      rcases Entries.exists_mem_of_mem_insertAll hmem with ⟨k, hk⟩ | ⟨k, hk⟩
      · exact .inl (.entry hof hk hr)
      · exact .inr ⟨k, _, hk, hr⟩
  | _ => exact .inl h

/-- Every reference that a walk leaves exposed has an origin in the value. -/
theorem Exposed.origin {v w : Value} {r : String} (h : Exposed r w)
    (hvisit : visit root active follow v = .ok w) : Origin root active follow v r := by
  induction v using Value.induction_members generalizing w with
  | scalar s =>
    cases hvisit
    cases h
  | tuple items =>
    cases hvisit
    cases h
  | set members =>
    cases hvisit
    cases h
  | list items ih =>
    cases visited_of_ok hvisit with
    | list hitems =>
      cases h with
      | item hw hr =>
        obtain ⟨v, hv, hvw⟩ := exists_mem_of_forall₂ hitems hw
        exact (ih v hv hr hvw).mono fun P => .item hv
  | map entries ih =>
    cases visited_of_ok hvisit with
    | again hof hactive =>
      cases h with
      | here hof' =>
        obtain rfl := Option.some.inj (hof'.symm.trans hof)
        exact .again (.here hof) hactive
      | entry hnone =>
        rw [hof] at hnone
        cases hnone
    | map hof hentries =>
      have hmono : ∀ {k v}, (k, v) ∈ entries → ∀ P, Has P v → Has P (.map entries) :=
        fun hv P => .entry hv fun hne => absurd hof hne
      cases h with
      | entry _ hw hr =>
        obtain ⟨v, hv, hvw⟩ := hentries.exists_mem hw
        exact (ih _ v hv hr hvw).mono (hmono hv)
      | here hof' =>
        -- No text was under the key, so that the walk has brought the reference there.
        rcases hentries.find? key with ⟨-, hnone⟩ | ⟨v, w, hv, hw, hvw⟩
        · simp [of?, hnone] at hof'
        · rw [of?, hv, Option.bind_some] at hof
          rw [of?, hw, Option.bind_some, Value.text?_eq_some_iff] at hof'
          subst hof'
          rcases eq_or_reference_of_visit_text hvw with rfl | ⟨inner, q, part, rfl, hq, hpart, hin⟩
          · cases hof
          · exact .text (.here ⟨inner, hv, hq⟩) hpart hin
    | part hof hactive hpart hinside hsiblings =>
      rcases h.of_merge hsiblings.ne_key with hr | ⟨k, w, hw, hr⟩
      · exact .inside (.here hof) hpart hinside hr
      · obtain ⟨v, hv, hvw⟩ := hsiblings.exists_mem hw
        obtain ⟨hmem, hk⟩ := mem_erase_key.mp hv
        exact (ih k v hmem hr hvw).mono fun P => .entry hmem fun _ => hk

end

/-! ## The whole document -/

section
variable {root : Value} {active : List String} {v w : Value} {fuel : Nat}

/-- Dereferencing that gives up instead of being cut off. -/
abbrev dereferenceUpTo (root : Value) : Nat → List String → Value → Except Fault Value :=
  dereferenceCut root fun _ _ => .error (unresolvable "")

theorem standsFor_of_text {q t : String} (hq : resolve root q = .ok v)
    (h : dereferenceUpTo root fuel active v = .ok (.text t)) : StandsFor root q t := by
  induction fuel generalizing active v q with
  | zero => cases h
  | succ fuel ih =>
    rcases eq_or_reference_of_visit_text h with rfl | ⟨entries, q', part, rfl, hof, hpart, hinside⟩
    · exact .text hq
    · exact .next hq hof (ih hpart hinside)

/-- A value that lies in the parts of some references, each of which leads to all that it holds. -/
structure Reached (root : Value) (active : List String) (v : Value) : Prop where
  within : ∀ P, Has P v → Has P root
  leads : ∀ a ∈ active, ∀ q, Holds q v → Relation.TransGen (Leads root) a q

theorem reached_root (root : Value) : Reached root [] root :=
  ⟨fun _ => id, by simp⟩

theorem Reached.holds (h : Reached root active v) {q : String} (hq : Holds q v) : Holds q root :=
  holds_iff_has.mpr (h.within _ (holds_iff_has.mp hq))

theorem Reached.follow (h : Reached root active v) {q : String} {part : Value} (hq : Holds q v)
    (hpart : resolve root q = .ok part) : Reached root (q :: active) part where
  within := fun P => .of_resolve hpart
  leads := by
    intro a ha q' hq'
    have hstep : Leads root q q' := ⟨part, hpart, hq'⟩
    rcases List.mem_cons.mp ha with rfl | ha
    · exact .single hstep
    · exact (h.leads a ha q hq).tail hstep

theorem Reached.exposed (h : Reached root active v)
    (hv : dereferenceUpTo root fuel active v = .ok w) {r : String} (hr : Exposed r w) :
    (Holds r root ∧ Recurs root r) ∨ Arises root r := by
  induction fuel generalizing active v w with
  | zero => cases hv
  | succ fuel ih =>
    cases hr.origin hv with
    | again hholds hactive => exact .inl ⟨h.holds hholds, h.leads r hactive r hholds⟩
    | inside hq hpart hinside hr => exact ih (h.follow hq hpart) hinside hr
    | text hq hpart hinside =>
      exact .inr ⟨_, h.within _ hq, standsFor_of_text hpart hinside⟩

end

/-- What dereferencing leaves: references of the document that lead back to themselves, and texts
that a reference under a key of references has brought there. In a document without either nothing is
left, and dereferencing the result changes nothing. -/
theorem dereference_leaves {root v : Value} (h : dereference root = .ok v) :
    (∀ r, Exposed r v → (Holds r root ∧ Recurs root r) ∨ Arises root r) ∧
    (IsAcyclic root → (∀ q, ¬ Doubles q root) →
      (∀ r, ¬ Holds r v) ∧ dereference v = .ok v) := by
  have hexposed : ∀ r, Exposed r v → (Holds r root ∧ Recurs root r) ∨ Arises root r :=
    fun r hr => (reached_root root).exposed ((dereference_eq_cut root _).symm.trans h) hr
  refine ⟨hexposed, fun hacyclic hsingle => ?_⟩
  have hnone : ∀ r, ¬ Holds r v := by
    intro r hr
    obtain ⟨r', hr'⟩ := hr.exists_exposed
    rcases hexposed r' hr' with ⟨hholds, hrecurs⟩ | ⟨q, hq, -⟩
    · exact hacyclic r' hholds hrecurs
    · exact hsingle q hq
  exact ⟨hnone, visit_eq_self hnone⟩

/-- A part that holds a reference to itself. -/
def winding : Value := .map [(.text "a", .map [(.text "b", .map [(key, .text "#/a")])])]

/-- The part is put in the place of the reference once. -/
def unwound : Value :=
  .map [(.text "a", .map [(.text "b", .map [(.text "b", .map [(key, .text "#/a")])])])]

theorem dereference_leaves_winding :
    dereference winding = .ok unwound ∧
    (∀ r, Exposed r unwound → (Holds r winding ∧ Recurs winding r) ∨ Arises winding r) ∧
    (IsAcyclic winding → (∀ q, ¬ Doubles q winding) →
      (∀ r, ¬ Holds r unwound) ∧ dereference unwound = .ok unwound) :=
  have h : dereference winding = .ok unwound := rfl
  ⟨h, dereference_leaves h⟩

/-- A reference under a key of references, to a text that reads as another one. -/
def doubled : Value :=
  .map [(.text "a", .map [(key, .map [(key, .text "#/x")])]), (.text "x", .text "#/y"),
    (.text "y", .int 1)]

/-- The text under the key. -/
def surfaced : Value :=
  .map [(.text "a", .map [(key, .text "#/y")]), (.text "x", .text "#/y"), (.text "y", .int 1)]

/-- A reference may be left that the document does not hold, even though none leads back to itself.
Dereferencing again follows it. A tuple is left as it is. -/
theorem dereference_surfaces :
    (dereference doubled = .ok surfaced ∧ Exposed "#/y" surfaced ∧ ¬ Holds "#/y" doubled ∧
      IsAcyclic doubled ∧ dereference surfaced ≠ .ok surfaced) ∧
    dereference (.tuple [.map [(key, .text "#/x")]]) =
      .ok (.tuple [.map [(key, .text "#/x")]]) := by
  have hall : ∀ r, Holds r doubled → r = "#/x" := fun r hr =>
    List.mem_singleton.mp ((show all doubled = ["#/x"] from rfl) ▸ hr.mem_all)
  refine ⟨⟨rfl, .entry rfl List.mem_cons_self (.here rfl), ?_, ?_, ?_⟩, rfl⟩
  · intro hy
    simpa using hall _ hy
  · intro r hr hrecurs
    obtain rfl := hall r hr
    obtain ⟨r', ⟨part, hpart, hholds⟩, -⟩ := Relation.TransGen.head'_iff.mp hrecurs
    cases (show resolve doubled "#/x" = .ok (.text "#/y") from rfl).symm.trans hpart
    exact not_has_scalar _ _ (holds_iff_has.mp hholds)
  · intro h
    cases (show dereference surfaced = .ok (.map [(.text "a", .int 1), (.text "x", .text "#/y"),
      (.text "y", .int 1)]) from rfl).symm.trans h

end Reference
end Arazzo
