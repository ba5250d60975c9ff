import Arazzo.Proofs.Except
import Arazzo.Schema.Read

/-!
# What a check lets through

A check that accepts a value has accepted each of its parts. So what the check of a part rules out is
ruled out everywhere behind the check of the whole. The actions behind a success are read from here:
none of them repeats a step.
-/

namespace Arazzo
namespace Checked

variable {α β : Type}

theorem also_ok_iff {f : Checked (α → β)} {a : Checked α} {b : β} :
    f.also a = .ok b ↔ ∃ g x, f = .ok g ∧ a = .ok x ∧ g x = b := by
  cases f <;> cases a <;> simp [also]

theorem under_ok_iff {place : Place} {a : Checked α} {x : α} :
    a.under place = .ok x ↔ a = .ok x := by
  cases a <;> simp [under]

theorem orElse_ok {first second : Checked α} {a : α} (h : orElse first second = .ok a) :
    first = .ok a ∨ second = .ok a := by
  cases first with
  | ok b => exact .inl h
  | error issues =>
    cases second with
    | ok b => exact .inr h
    | error more => cases h

end Checked

namespace Check

open Checked

variable {α : Type}

theorem exists_of_record {kind : String} {check : Entries → Checked α} {v : Value} {a : α}
    (h : record kind check v = .ok a) : ∃ entries, check entries = .ok a := by
  unfold record at h
  split at h
  · split at h
    · cases h
    · exact ⟨_, h⟩
  · cases h

theorem exists_of_required {entries : Entries} {field : Field} {check : Value → Checked α} {a : α}
    (h : required entries field check = .ok a) : ∃ v, check v = .ok a := by
  unfold required at h
  split at h
  · exact ⟨_, under_ok_iff.mp h⟩
  · cases h

/-- A field that may be missing holds nothing, or what its check accepts. -/
theorem exists_of_possible {entries : Entries} {field : Field} {check : Value → Checked α} {a : α}
    (h : possible entries field check = .ok (some a)) : ∃ v, check v = .ok a := by
  unfold possible withDefault at h
  split at h
  · have hoptional := under_ok_iff.mp h
    unfold optional at hoptional
    split at hoptional
    · cases hoptional
    · obtain ⟨b, hb, hsome⟩ := map_ok_iff.mp hoptional
      exact ⟨_, Option.some.inj hsome ▸ hb⟩
  · cases h

theorem exists_of_mem_itemsFrom {check : Value → Checked α} {i : Nat} {items : List Value}
    {as : List α} (h : itemsFrom check i items = .ok as) {a : α} (ha : a ∈ as) :
    ∃ v, check v = .ok a := by
  induction items generalizing i as with
  | nil =>
    cases h
    cases ha
  | cons v rest ih =>
    obtain ⟨put, more, hput, hmore, rfl⟩ := also_ok_iff.mp h
    obtain ⟨b, hb, rfl⟩ := map_ok_iff.mp hput
    rcases List.mem_cons.mp ha with rfl | ha
    · exact ⟨v, under_ok_iff.mp hb⟩
    · exact ih hmore ha

/-- Every item of a checked list has been checked. -/
theorem exists_of_mem_list {check : Value → Checked α} {v : Value} {as : List α}
    (h : list check v = .ok as) {a : α} (ha : a ∈ as) : ∃ w, check w = .ok a := by
  unfold list at h
  split at h
  · exact exists_of_mem_itemsFrom h ha
  · exact exists_of_mem_itemsFrom h ha
  · exact exists_of_mem_itemsFrom h ha
  · cases h

theorem ok_of_orReference {kind : String} {fields : List Field} {check : Value → Checked α}
    {v : Value} {a : α} (h : orReference kind fields check v = .ok (.given a)) :
    check v = .ok a := by
  have hpart : ∀ {part : Checked α}, (part.map OrReference.given) = .ok (.given a) →
      part = .ok a := by
    intro part hmap
    obtain ⟨b, hb, hgiven⟩ := map_ok_iff.mp hmap
    cases hgiven
    exact hb
  have hreference : ∀ {reference : Checked Reusable},
      reference.map OrReference.reference ≠ .ok (.given a) := by
    intro reference hmap
    obtain ⟨r, -, hr⟩ := map_ok_iff.mp hmap
    cases hr
  have hfrom : (((check v).under (.name kind)).map OrReference.given) = .ok (.given a) := by
    unfold orReference at h
    dsimp only at h
    split at h
    · split at h
      · exact absurd h hreference
      · exact h
    · rcases orElse_ok h with h | h
      · exact h
      · exact absurd h hreference
  exact under_ok_iff.mp (hpart hfrom)

theorem mem_of_among {allowed : List (String × α)} {v : Value} {a : α}
    (h : among allowed v = .ok a) : a ∈ allowed.map Prod.snd := by
  unfold among at h
  dsimp only at h
  split at h
  · split at h
    · next hlookup =>
      cases h
      obtain ⟨before, after, hallowed, -⟩ := List.lookup_eq_some_iff.mp hlookup
      rw [hallowed]
      simp
    · cases h
  · cases h

/-! ## Actions -/

/-- The kind of a checked action after a success is one of those that are allowed there. -/
theorem exists_kind_of_successAction {v : Value} {action : Action}
    (h : successAction v = .ok action) :
    ∃ e, required e typeField (kinds [.finish, .goto]) = .ok action.kind := by
  obtain ⟨e, h⟩ := exists_of_record h
  cases action
  simp only [gather, also_ok_iff, Except.ok.injEq, ↓existsAndEq, true_and, exists_and_left,
    Action.mk.injEq] at h
  exact ⟨e, by simp only [h]⟩

theorem kind_of_successAction {v : Value} {action : Action} (h : successAction v = .ok action) :
    action.kind ≠ .retry := by
  obtain ⟨e, hkind⟩ := exists_kind_of_successAction h
  obtain ⟨w, hw⟩ := exists_of_required hkind
  have hmem := mem_of_among hw
  intro hretry
  rw [hretry] at hmem
  simp at hmem

/-- The actions behind the success of a checked step have been checked as such. -/
theorem exists_onSuccess_of_step {v : Value} {s : Step} (h : step v = .ok s) :
    ∃ e, possible e ⟨"onSuccess", "on_success"⟩ successActions = .ok s.onSuccess := by
  obtain ⟨e, h⟩ := exists_of_record h
  cases s
  simp only [gather, also_ok_iff, Except.ok.injEq, ↓existsAndEq, true_and, exists_and_left,
    Step.mk.injEq] at h
  exact ⟨e, by simp only [h]⟩

/-- No action behind the success of a checked step repeats the step. -/
theorem kind_of_onSuccess {v : Value} {step : Step} (h : Check.step v = .ok step) {action : Action}
    (ha : .given action ∈ step.onSuccess.getD []) : action.kind ≠ .retry := by
  obtain ⟨entries, hsuccess⟩ := exists_onSuccess_of_step h
  cases hactions : step.onSuccess with
  | none =>
    rw [hactions] at ha
    cases ha
  | some actions =>
    rw [hactions] at ha hsuccess
    obtain ⟨w, hlist⟩ := exists_of_possible hsuccess
    obtain ⟨item, hitem⟩ := exists_of_mem_list hlist ha
    exact kind_of_successAction (ok_of_orReference hitem)

end Check
end Arazzo
