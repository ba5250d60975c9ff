import Arazzo.Document.Value
import Mathlib.Data.List.Basic
import Mathlib.Data.List.Induction

/-!
# Mappings with text keys

A text is the same key as itself and nothing else. Setting the value of a key changes what is found
under this key only, and adds the key behind the others if it is new. Putting a value in the place of
the mapping of steps changes nothing about the keys, and nothing at all about a value that is settled.
-/

namespace Arazzo

/-- What holds of every value if it holds of what is in it holds of all values. -/
@[elab_as_elim]
theorem Value.induction_members {P : Value → Prop} (scalar : ∀ s, P (.scalar s))
    (list : ∀ items, (∀ v ∈ items, P v) → P (.list items))
    (tuple : ∀ items, (∀ v ∈ items, P v) → P (.tuple items))
    (set : ∀ members, P (.set members))
    (map : ∀ entries, (∀ k v, (k, v) ∈ entries → P v) → P (.map entries)) (v : Value) : P v := by
  match v with
  | .scalar s => exact scalar s
  | .list items =>
    exact list items fun v hv =>
      have hitem := List.sizeOf_lt_of_mem hv
      Value.induction_members scalar list tuple set map v
  | .tuple items =>
    exact tuple items fun v hv =>
      have hitem := List.sizeOf_lt_of_mem hv
      Value.induction_members scalar list tuple set map v
  | .set members => exact set members
  | .map entries =>
    exact map entries fun k v hv =>
      have hentry := List.sizeOf_lt_of_mem hv
      Value.induction_members scalar list tuple set map v
termination_by sizeOf v
decreasing_by
  · simp only [Value.list.sizeOf_spec]
    omega
  · simp only [Value.tuple.sizeOf_spec]
    omega
  · simp only [Prod.mk.sizeOf_spec] at hentry
    simp only [Value.map.sizeOf_spec]
    omega

theorem Value.text?_eq_some_iff {v : Value} {t : String} : v.text? = some t ↔ v = .text t := by
  constructor
  · intro h
    unfold text? at h
    split at h
    · obtain rfl := Option.some.inj h
      rfl
    · cases h
  · rintro rfl
    rfl

/-- The scalar that a value is. -/
def Value.scalar? : Value → Option Scalar
  | .scalar s => some s
  | _ => none

theorem Value.scalar?_eq_some_iff {v : Value} {s : Scalar} : v.scalar? = some s ↔ v = .scalar s := by
  cases v <;> simp [scalar?]

@[simp] theorem Scalar.same_text_iff (k : Scalar) (s : String) :
    k.same (.text s) = true ↔ k = .text s := by
  cases k with
  | text t => simp [same, equal]
  | _ => simp [same, equal, number?]

namespace Entries

/-- A mapping whose keys are texts, each of them once. -/
structure HasTextKeys (entries : Entries) : Prop where
  isText : ∀ entry ∈ entries, ∃ s, entry.1 = .text s
  nodup : (entries.map Prod.fst).Nodup

variable (entries : Entries) (key : String) (value : Value)

theorem exists_of_find? {k : Scalar} {entries : Entries} {v : Value} (h : find? k entries = some v) :
    ∃ k', (k', v) ∈ entries ∧ k'.same k = true := by
  induction entries with
  | nil => simp [find?] at h
  | cons entry rest ih =>
    obtain ⟨k', w⟩ := entry
    rw [find?] at h
    split at h
    · next hsame =>
      obtain rfl := Option.some.inj h
      exact ⟨k', List.mem_cons_self, hsame⟩
    · obtain ⟨k', hmem, hsame⟩ := ih h
      exact ⟨k', List.mem_cons_of_mem _ hmem, hsame⟩

theorem mem_of_get? {entries : Entries} {key : String} {v : Value} (h : get? entries key = some v) :
    (.text key, v) ∈ entries := by
  obtain ⟨k, hmem, hsame⟩ := exists_of_find? h
  rwa [(Scalar.same_text_iff k key).mp hsame] at hmem

theorem get?_insert_self : get? (insert (.text key) value entries) key = some value := by
  unfold get?
  induction entries with
  | nil => simp [insert, find?]
  | cons entry rest ih =>
    obtain ⟨k, v⟩ := entry
    by_cases h : k = .text key
    · simp [insert, find?, h]
    · simp [insert, find?, h, ih]

theorem get?_insert_of_ne {other : String} (h : key ≠ other) :
    get? (insert (.text key) value entries) other = get? entries other := by
  unfold get?
  induction entries with
  | nil => simp [insert, find?, h]
  | cons entry rest ih =>
    obtain ⟨k, v⟩ := entry
    by_cases hk : k = .text key
    · simp [insert, find?, hk, h]
    · simp [insert, find?, hk, ih]

theorem get?_of_mem {v : Value} (hkeys : (entries.map Prod.fst).Nodup)
    (hv : (.text key, v) ∈ entries) : get? entries key = some v := by
  unfold get?
  induction entries with
  | nil => simp at hv
  | cons entry rest ih =>
    obtain ⟨k, w⟩ := entry
    rw [List.map_cons, List.nodup_cons] at hkeys
    rcases List.mem_cons.mp hv with heq | hmem
    · obtain ⟨rfl, rfl⟩ := Prod.mk.inj heq
      simp [find?]
    · have hne : k ≠ .text key := by
        rintro rfl
        exact hkeys.1 (List.mem_map.mpr ⟨_, hmem, rfl⟩)
      simp [find?, hne, ih hkeys.2 hmem]

theorem map_fst_insert {keys : List String} (h : entries.map Prod.fst = keys.map .text) :
    (insert (.text key) value entries).map Prod.fst =
      (if key ∈ keys then keys else keys ++ [key]).map .text := by
  induction entries generalizing keys with
  | nil =>
    obtain rfl := List.map_eq_nil_iff.mp h.symm
    rfl
  | cons entry rest ih =>
    obtain ⟨k, v⟩ := entry
    obtain ⟨s, keys, rfl, rfl, hkeys⟩ := List.map_eq_cons_iff.mp h.symm
    have hrest := ih hkeys.symm
    by_cases hs : s = key
    · simp [insert, hs, hkeys]
    · have hne : key ≠ s := fun heq => hs heq.symm
      by_cases hmem : key ∈ keys
      · simp [insert, hs, hrest, hne, hmem]
      · simp [insert, hs, hrest, hne, hmem]

/-- What is chosen from the other keys stays as it was when the value of a key is set. -/
theorem filter_insert {p : Scalar × Value → Bool} (h : ∀ v, p (.text key, v) = false) :
    (insert (.text key) value entries).filter p = entries.filter p := by
  induction entries with
  | nil => simp [insert, h]
  | cons entry rest ih =>
    obtain ⟨k, v⟩ := entry
    by_cases hk : k = .text key
    · simp [insert, hk, h]
    · simp [insert, hk, List.filter_cons, ih]

theorem insert_of_not_mem {key : Scalar} {value : Value} {entries : Entries}
    (h : ∀ entry ∈ entries, entry.1.same key = false) :
    insert key value entries = entries ++ [(key, value)] := by
  induction entries with
  | nil => rfl
  | cons entry rest ih =>
    obtain ⟨hentry, hrest⟩ := List.forall_mem_cons.mp h
    simp [insert, hentry, ih hrest]

/-- Entries with different text keys are the mapping that they make up. -/
theorem HasTextKeys.ofPairs_eq {entries : Entries} (h : entries.HasTextKeys) :
    ofPairs entries = entries := by
  obtain ⟨htext, hnodup⟩ := h
  unfold ofPairs insertAll
  induction entries using List.reverseRecOn with
  | nil => rfl
  | append_singleton front entry ih =>
    obtain ⟨k, v⟩ := entry
    obtain ⟨s, rfl⟩ := htext (k, v) (by simp)
    rw [List.map_append, List.nodup_append] at hnodup
    have hfront := ih (fun entry hentry => htext entry (List.mem_append_left _ hentry)) hnodup.1
    rw [List.foldl_append, hfront]
    refine insert_of_not_mem fun entry hentry => ?_
    rw [Bool.eq_false_iff, Ne, Scalar.same_text_iff]
    exact hnodup.2.2 _ (List.mem_map_of_mem hentry) _ (by simp)

end Entries

/-! ## The mapping of steps in a value -/

namespace Value

/-- A value in which nothing stands for the mapping of steps. -/
def IsSettled (v : Value) : Prop := ∀ steps, unfold steps v = v

variable (steps : Value)

theorem unfoldItems_eq (items : List Value) : unfoldItems steps items = items.map (unfold steps) := by
  induction items with
  | nil => rfl
  | cons v rest ih => rw [unfoldItems, ih, List.map_cons]

theorem unfoldEntries_eq (entries : Entries) :
    unfoldEntries steps entries = entries.map fun entry => (entry.1, unfold steps entry.2) := by
  induction entries with
  | nil => rfl
  | cons entry rest ih =>
    obtain ⟨k, v⟩ := entry
    rw [unfoldEntries, ih, List.map_cons]

theorem isSettled_null : Value.null.IsSettled := fun _ => rfl

theorem isSettled_list {items : List Value} (h : ∀ v ∈ items, v.IsSettled) :
    (Value.list items).IsSettled := by
  intro steps
  rw [unfold, unfoldItems_eq, List.map_congr_left fun v hv => h v hv steps, List.map_id']

theorem isSettled_tuple {items : List Value} (h : ∀ v ∈ items, v.IsSettled) :
    (Value.tuple items).IsSettled := by
  intro steps
  rw [unfold, unfoldItems_eq, List.map_congr_left fun v hv => h v hv steps, List.map_id']

theorem isSettled_map {entries : Entries} (h : ∀ k v, (k, v) ∈ entries → v.IsSettled) :
    (Value.map entries).IsSettled := by
  intro steps
  rw [unfold, unfoldEntries_eq, List.map_congr_left fun entry hentry => ?_, List.map_id]
  exact Prod.ext rfl (h entry.1 entry.2 hentry steps)

/-- A settled value in the place of the mapping of steps leaves nothing of it. -/
theorem isSettled_unfold {steps : Value} (h : steps.IsSettled) (v : Value) :
    (unfold steps v).IsSettled := by
  induction v using Value.induction_members with
  | scalar s =>
    cases s with
    | steps => exact h
    | _ => exact fun _ => rfl
  | set members => exact fun _ => rfl
  | list items ih =>
    rw [unfold, unfoldItems_eq]
    exact isSettled_list (List.forall_mem_map.mpr ih)
  | tuple items ih =>
    rw [unfold, unfoldItems_eq]
    exact isSettled_tuple (List.forall_mem_map.mpr ih)
  | map entries ih =>
    rw [unfold, unfoldEntries_eq]
    refine isSettled_map fun k v hv => ?_
    obtain ⟨⟨k', v'⟩, hmem, heq⟩ := List.mem_map.mp hv
    obtain ⟨rfl, rfl⟩ := Prod.mk.inj heq
    exact ih k' v' hmem

end Value

theorem Entries.get?_unfoldEntries (steps : Value) (entries : Entries) (key : String) :
    get? (Value.unfoldEntries steps entries) key = (get? entries key).map (Value.unfold steps) := by
  unfold get?
  induction entries with
  | nil => rfl
  | cons entry rest ih =>
    obtain ⟨k, v⟩ := entry
    rw [Value.unfoldEntries, find?, find?]
    split
    · rfl
    · exact ih

end Arazzo
