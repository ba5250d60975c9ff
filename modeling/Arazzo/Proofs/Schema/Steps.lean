import Arazzo.Proofs.Document.Entries
import Arazzo.Proofs.Schema.Checked
import Arazzo.Proofs.Workflow.Trail
import Mathlib.Data.List.Nodup

/-!
# The steps of a checked workflow

A workflow whose fields are valid is accepted if and only if its steps have different identifiers.
Else it is refused for the first identifier that an earlier step has. So an accepted workflow finds each
of its steps where it stands, and no step under any other identifier.
-/

namespace Arazzo
namespace Check

open Checked

/-! ## The first identifier that occurs again -/

/-- An identifier occurs again, and no identifier in front of this occurrence does. -/
def RepeatsFirst (ids : List String) (t : String) : Prop :=
  ∃ before after, ids = before ++ t :: after ∧ before.Nodup ∧ t ∈ before

theorem RepeatsFirst.not_nodup {ids : List String} {t : String} (h : RepeatsFirst ids t) :
    ¬ ids.Nodup := by
  obtain ⟨before, after, rfl, -, hmem⟩ := h
  intro hnodup
  exact (List.nodup_append.mp hnodup).2.2 t hmem t List.mem_cons_self rfl

/-- The search knows what stands in front of the rest, where no identifier occurs again. -/
theorem firstRepeated?_spec (front seen ids : List String) (hseen : ∀ s, s ∈ seen ↔ s ∈ front)
    (hfront : front.Nodup) :
    (firstRepeated? seen ids = none ∧ (front ++ ids).Nodup) ∨
      ∃ t, firstRepeated? seen ids = some t ∧ RepeatsFirst (front ++ ids) t := by
  induction ids generalizing front seen with
  | nil => exact .inl ⟨rfl, by rwa [List.append_nil]⟩
  | cons s rest ih =>
    rw [firstRepeated?]
    by_cases hs : s ∈ seen
    · rw [if_pos (List.contains_iff_mem.mpr hs)]
      exact .inr ⟨s, rfl, front, rest, rfl, hfront, (hseen s).mp hs⟩
    · rw [if_neg (mt List.contains_iff_mem.mp hs)]
      have hnext : (front ++ [s]).Nodup := by
        rw [← List.concat_eq_append, List.nodup_concat, ← hseen]
        exact ⟨hs, hfront⟩
      have hrest := ih (front ++ [s]) (s :: seen) (by simp [hseen, or_comm]) hnext
      rwa [List.append_assoc, List.singleton_append] at hrest

/-- Steps are accepted if their identifiers differ, and refused for the first one that occurs again. -/
theorem distinctSteps_spec (w : Workflow) :
    ((w.steps.map Step.stepId).Nodup ∧ distinctSteps w = .ok w) ∨
      ∃ t, RepeatsFirst (w.steps.map Step.stepId) t ∧
        distinctSteps w = .error [⟨[], .duplicateStep t w.workflowId⟩] := by
  unfold distinctSteps
  rcases firstRepeated?_spec [] [] (w.steps.map Step.stepId) (by simp) List.nodup_nil with
    ⟨hnone, hnodup⟩ | ⟨t, hsome, hfirst⟩
  · rw [hnone]
    exact .inl ⟨hnodup, rfl⟩
  · rw [hsome]
    exact .inr ⟨t, hfirst, rfl⟩

theorem distinctSteps_ok_iff {w w' : Workflow} :
    distinctSteps w = .ok w' ↔ w = w' ∧ (w.steps.map Step.stepId).Nodup := by
  rcases distinctSteps_spec w with ⟨hnodup, hok⟩ | ⟨t, hfirst, herror⟩
  · rw [hok, Except.ok.injEq]
    exact (and_iff_left hnodup).symm
  · rw [herror]
    exact ⟨nofun, fun h => absurd h.2 hfirst.not_nodup⟩

/-! ## A workflow with its steps put in -/

section
variable {α : Type} {e : Entries} {key : String} {value value₁ value₂ : Value} {field : Field}

theorem find?_insert_of_ne (h : key ≠ field.key) (h' : key ≠ field.alternative) :
    field.find? (e.insert (.text key) value) = field.find? e := by
  unfold Field.find?
  rw [Entries.get?_insert_of_ne e key value h, Entries.get?_insert_of_ne e key value h']

/-- Under which of its keys a field is there does not depend on the value. -/
theorem map_fst_find?_insert (field : Field) (e : Entries) (key : String) (value₁ value₂ : Value) :
    (field.find? (e.insert (.text key) value₁)).map Prod.fst =
      (field.find? (e.insert (.text key) value₂)).map Prod.fst := by
  unfold Field.find?
  by_cases hkey : key = field.key
  · subst hkey
    rw [Entries.get?_insert_self, Entries.get?_insert_self]
    rfl
  · rw [Entries.get?_insert_of_ne e key value₁ hkey, Entries.get?_insert_of_ne e key value₂ hkey]
    by_cases halternative : key = field.alternative
    · subst halternative
      rw [Entries.get?_insert_self, Entries.get?_insert_self]
      cases e.get? field.key <;> rfl
    · rw [Entries.get?_insert_of_ne e key value₁ halternative,
        Entries.get?_insert_of_ne e key value₂ halternative]

theorem required_insert_of_ne (h : key ≠ field.key) (h' : key ≠ field.alternative)
    (check : Value → Checked α) :
    required (e.insert (.text key) value) field check = required e field check := by
  rw [required, find?_insert_of_ne h h', required]

theorem possible_insert_of_ne (h : key ≠ field.key) (h' : key ≠ field.alternative)
    (check : Value → Checked α) :
    possible (e.insert (.text key) value) field check = possible e field check := by
  rw [possible, withDefault, find?_insert_of_ne h h', possible, withDefault]

theorem required_insert_self (e : Entries) (key : String) (value : Value)
    (check : Value → Checked α) :
    required (e.insert (.text key) value) (.plain key) check = (check value).under (.name key) := by
  rw [required, Field.find?, Field.plain, Entries.get?_insert_self]

/-- The value of a field has no part in what is left over. -/
theorem leftover_insert (e : Entries) (key : String) {fields : List Field}
    (h : Field.plain key ∈ fields) (value₁ value₂ : Value) :
    leftover (e.insert (.text key) value₁) fields = leftover (e.insert (.text key) value₂) fields := by
  have hused : (fields.filterMap fun field =>
        (field.find? (e.insert (.text key) value₁)).map Prod.fst) =
      fields.filterMap fun field => (field.find? (e.insert (.text key) value₂)).map Prod.fst :=
    List.filterMap_congr fun field _ => map_fst_find?_insert field e key value₁ value₂
  have hmem : key ∈ fields.filterMap fun field =>
      (field.find? (e.insert (.text key) value₂)).map Prod.fst := by
    refine List.mem_filterMap.mpr ⟨.plain key, h, ?_⟩
    rw [Field.find?, Field.plain, Entries.get?_insert_self]
    rfl
  rw [leftover, leftover, hused, Entries.filter_insert, Entries.filter_insert]
  all_goals exact fun _ => by simpa using hmem

end

theorem record_map_ok_iff {α : Type} {kind : String} {check : Entries → Checked α} {e : Entries}
    {a : α} : record kind check (.map e) = .ok a ↔
      (e.any fun entry => isUnreadableKey entry.1) = false ∧ check e = .ok a := by
  rw [record]
  split_ifs with h
  · simp [issue, h]
  · simp [h]

theorem any_insert (e : Entries) (value : Value) {key : String}
    (h : isUnreadableKey (.text key) = false) :
    ((e.insert (.text key) value).any fun entry => isUnreadableKey entry.1) =
      e.any fun entry => isUnreadableKey entry.1 := by
  have hfilter := Entries.filter_insert (p := fun entry => isUnreadableKey entry.1) e key value fun _ => h
  simpa [List.any_filter] using congrArg (List.any · fun entry => isUnreadableKey entry.1) hfilter

theorem list_ok_of_forall₂ {α : Type} {check : Value → Checked α} {items : List Value} {as : List α}
    (h : List.Forall₂ (fun item a => check item = .ok a) items as) :
    list check (.list items) = .ok as := by
  have hfrom : ∀ i, itemsFrom check i items = .ok as := by
    induction h with
    | nil => exact fun _ => rfl
    | cons ha _ ih => exact fun i => by rw [itemsFrom, ha, ih]; rfl
  exact hfrom 0

/-- The fields of a workflow with a list of steps put in. -/
def withSteps (e : Entries) (items : List Value) : Value :=
  .map (e.insert (.text "steps") (.list items))

/-- The fields of a workflow are accepted one by one. -/
theorem workflowFields_ok_iff {e : Entries} {w : Workflow} : workflowFields e = .ok w ↔
    required e workflowIdField text = .ok w.workflowId ∧
      possible e (.plain "summary") text = .ok w.summary ∧
      possible e (.plain "description") text = .ok w.description ∧
      possible e (.plain "inputs") (mapping anything) = .ok w.inputs ∧
      possible e ⟨"dependsOn", "depends_on"⟩ (list text) = .ok w.dependsOn ∧
      required e (.plain "steps") (list step) = .ok w.steps ∧
      possible e ⟨"successActions", "success_actions"⟩ successActions = .ok w.successActions ∧
      possible e ⟨"failureActions", "failure_actions"⟩ failureActions = .ok w.failureActions ∧
      possible e (.plain "outputs") (mapping text) = .ok w.outputs ∧
      possible e (.plain "parameters") parameters = .ok w.parameters ∧
      leftover e [workflowIdField, .plain "summary", .plain "description", .plain "inputs",
        ⟨"dependsOn", "depends_on"⟩, .plain "steps", ⟨"successActions", "success_actions"⟩,
        ⟨"failureActions", "failure_actions"⟩, .plain "outputs", .plain "parameters"] =
          .ok w.extra := by
  cases w
  simp only [workflowFields, gather, also_ok_iff, Except.ok.injEq, ↓existsAndEq, true_and, and_true,
    exists_and_left, Workflow.mk.injEq, and_assoc]

/-- Other steps put in are the only thing that changes. -/
theorem workflowFields_insert {e : Entries} {v₁ v₂ : Value} {steps : List Step} {w : Workflow}
    (hsteps : list step v₂ = .ok steps)
    (h : workflowFields (e.insert (.text "steps") v₁) = .ok w) :
    workflowFields (e.insert (.text "steps") v₂) = .ok { w with steps := steps } := by
  rw [workflowFields_ok_iff] at h ⊢
  rw [leftover_insert e "steps" (by simp) v₁ v₂] at h
  simp (disch := decide) only [required_insert_of_ne, possible_insert_of_ne] at h ⊢
  simp only [required_insert_self, hsteps, h, under_ok_iff, and_self]

theorem workflow_withSteps {e : Entries} {items : List Value} {steps : List Step} {w : Workflow}
    (hothers : workflow (withSteps e []) = .ok w)
    (hsteps : List.Forall₂ (fun item s => step item = .ok s) items steps) :
    workflow (withSteps e items) = distinctSteps { w with steps := steps } := by
  obtain ⟨hreadable, hchecked⟩ := record_map_ok_iff.mp hothers
  obtain ⟨w', hfields, hdistinct⟩ := bind_ok_iff.mp hchecked
  obtain ⟨rfl, -⟩ := distinctSteps_ok_iff.mp hdistinct
  have hgiven : list step (.list items) = .ok steps := list_ok_of_forall₂ hsteps
  have hput := workflowFields_insert hgiven hfields
  rw [workflow, withSteps, record, any_insert e _ rfl]
  rw [any_insert e _ rfl] at hreadable
  rw [if_neg (by simp [hreadable]), hput]
  rfl

/-! ## Steps by their identifiers -/

/-- A workflow that has been checked, by itself or in a document. -/
inductive IsAccepted (w : Workflow) : Prop
  | alone {v : Value} : workflow v = .ok w → IsAccepted w
  | inDocument {v : Value} {d : WorkflowDocument} : document v = .ok d → w ∈ d.workflows → IsAccepted w

variable {w : Workflow}

theorem exists_workflows_of_document {v : Value} {d : WorkflowDocument} (h : document v = .ok d) :
    ∃ e, required e (.plain "workflows") (list workflow) = .ok d.workflows := by
  obtain ⟨e, h⟩ := exists_of_record h
  cases d
  simp only [gather, also_ok_iff, Except.ok.injEq, ↓existsAndEq, true_and, exists_and_left,
    WorkflowDocument.mk.injEq] at h
  exact ⟨e, by simp only [h]⟩

theorem exists_of_mem_workflows {v : Value} {d : WorkflowDocument} (h : document v = .ok d)
    (hw : w ∈ d.workflows) : ∃ v', workflow v' = .ok w := by
  obtain ⟨e, hworkflows⟩ := exists_workflows_of_document h
  obtain ⟨given, hlist⟩ := exists_of_required hworkflows
  exact exists_of_mem_list hlist hw

theorem nodup_of_workflow {v : Value} (h : workflow v = .ok w) :
    (w.steps.map Step.stepId).Nodup := by
  obtain ⟨e, h⟩ := exists_of_record h
  obtain ⟨w', -, hdistinct⟩ := bind_ok_iff.mp h
  obtain ⟨rfl, hnodup⟩ := distinctSteps_ok_iff.mp hdistinct
  exact hnodup

theorem IsAccepted.nodup (h : IsAccepted w) : (w.steps.map Step.stepId).Nodup := by
  cases h with
  | alone h => exact nodup_of_workflow h
  | inDocument h hw =>
    obtain ⟨v, hv⟩ := exists_of_mem_workflows h hw
    exact nodup_of_workflow hv

theorem stepIndex?_getElem (h : (w.steps.map Step.stepId).Nodup) (i : Nat)
    (hi : i < w.steps.length) : w.stepIndex? w.steps[i].stepId = some i := by
  rw [w.stepIndex?_eq_some_iff]
  refine ⟨⟨_, List.getElem?_eq_getElem hi, rfl⟩, fun j hj step hstep heq => ?_⟩
  obtain ⟨hjlength, rfl⟩ := List.getElem?_eq_some_iff.mp hstep
  have hids : (w.steps.map Step.stepId)[j]? = (w.steps.map Step.stepId)[i]? := by
    simpa [hi, hjlength] using heq
  exact List.nodup_iff_getElem?_ne_getElem?.mp h j i hj (by simpa using hi) hids

/-- Valid steps in an otherwise valid workflow are accepted if and only if their identifiers differ.
Else the error names the first identifier that occurs again. So in every accepted workflow the lookup of
identifiers is inverse to the positions of the steps, and finds nothing for any other identifier. -/
theorem workflow_identifies_steps :
    (∀ (e : Entries) (items : List Value) (steps : List Step) (w : Workflow),
      workflow (withSteps e []) = .ok w →
      List.Forall₂ (fun item s => step item = .ok s) items steps →
      (workflow (withSteps e items) = .ok { w with steps := steps } ↔
        (steps.map Step.stepId).Nodup) ∧
      (¬ (steps.map Step.stepId).Nodup → ∃ t, RepeatsFirst (steps.map Step.stepId) t ∧
        workflow (withSteps e items) = .error [⟨[], .duplicateStep t w.workflowId⟩])) ∧
    ∀ w, IsAccepted w →
      (∀ (i : Nat) (hi : i < w.steps.length), w.stepIndex? w.steps[i].stepId = some i) ∧
      ∀ t, w.stepIndex? t = none ↔ ∀ step ∈ w.steps, step.stepId ≠ t := by
  constructor
  · intro e items steps w hothers hsteps
    rw [workflow_withSteps hothers hsteps]
    refine ⟨distinctSteps_ok_iff.trans (and_iff_right rfl), fun hnot => ?_⟩
    rcases distinctSteps_spec { w with steps := steps } with ⟨hnodup, -⟩ | hrefused
    · exact absurd hnodup hnot
    · exact hrefused
  · intro w haccepted
    exact ⟨stepIndex?_getElem haccepted.nodup, w.stepIndex?_eq_none_iff⟩

/-- A step that has an identifier and nothing else. -/
def bare (id : String) : Value := .map [(.text "stepId", .text id)]

/-- A workflow that has an identifier and nothing else but such steps. -/
def plain (ids : List String) : Value :=
  withSteps [(.text "workflowId", .text "w")] (ids.map bare)

/-- The third step has the identifier of the first one, and the fourth that of the second one. -/
theorem workflow_identifies_steps_again :
    (∃ t, RepeatsFirst ["a", "b", "a", "b"] t ∧
      workflow (plain ["a", "b", "a", "b"]) = .error [⟨[], .duplicateStep t "w"⟩]) ∧
    ∃ w, workflow (plain ["a", "b"]) = .ok w ∧ w.stepIndex? "b" = some 1 ∧
      w.stepIndex? "c" = none := by
  obtain ⟨hsteps, hlookup⟩ := workflow_identifies_steps
  have hothers : workflow (plain []) = .ok _ := rfl
  obtain ⟨-, hrefused⟩ := hsteps _ (["a", "b", "a", "b"].map bare) _ _ hothers
    (.cons rfl (.cons rfl (.cons rfl (.cons rfl .nil))))
  obtain ⟨haccepted, -⟩ := hsteps _ (["a", "b"].map bare) _ _ hothers
    (.cons rfl (.cons rfl .nil))
  have hok := haccepted.mpr (by decide)
  obtain ⟨hindex, hnone⟩ := hlookup _ (.alone hok)
  exact ⟨hrefused (by decide), _, hok, hindex 1 (by decide), (hnone "c").mpr (by simp)⟩

end Check
end Arazzo
