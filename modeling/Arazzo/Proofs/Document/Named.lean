import Arazzo.Document.Named
import Mathlib.Data.List.Induction
import Mathlib.Data.List.Nodup
import Mathlib.Tactic.SplitIfs

/-!
# Overlaid names

Values that are set one after the other, over those of another list: each name stands where it came
first and has the value that it got last. So it makes no difference whether the later values are
gathered among themselves before they are set.
-/

namespace Arazzo

/-- A further name counts only if it has not come before. -/
theorem eraseDups_concat {α : Type} [BEq α] [LawfulBEq α] (as : List α) (a : α)
    [Decidable (a ∈ as)] :
    (as ++ [a]).eraseDups = if a ∈ as then as.eraseDups else as.eraseDups ++ [a] := by
  have hremoved : [a].removeAll as = if a ∈ as then [] else [a] := by
    by_cases h : a ∈ as <;> simp [List.removeAll, h]
  rw [List.eraseDups_append, hremoved]
  split_ifs
  · rw [List.eraseDups_nil, List.append_nil]
  · rfl

theorem nodup_eraseDups {α : Type} [BEq α] [LawfulBEq α] (as : List α) : as.eraseDups.Nodup := by
  classical
  induction as using List.reverseRecOn with
  | nil => exact List.nodup_nil
  | append_singleton as a ih =>
    rw [eraseDups_concat]
    split_ifs with ha
    · exact ih
    · refine List.nodup_append.mpr ⟨ih, List.nodup_singleton a, ?_⟩
      rintro b hb c hc rfl
      rw [List.mem_singleton.mp hc] at hb
      exact ha (List.mem_eraseDups.mp hb)

namespace Named

variable {α : Type}

theorem overlay_append (named changed more : Named α) :
    overlay named (changed ++ more) = overlay (overlay named changed) more :=
  List.foldl_append

theorem overlay_cons (named rest : Named α) (p : String × α) :
    overlay named (p :: rest) = overlay (put p.1 p.2 named) rest :=
  rfl

theorem overlay_concat (named changed : Named α) (p : String × α) :
    overlay named (changed ++ [p]) = put p.1 p.2 (overlay named changed) := by
  rw [overlay_append]
  rfl

theorem map_fst_put (name : String) (value : α) (named : Named α) :
    (put name value named).map Prod.fst =
      if name ∈ named.map Prod.fst then named.map Prod.fst else named.map Prod.fst ++ [name] := by
  induction named with
  | nil => simp [put]
  | cons p rest ih =>
    by_cases hname : p.1 = name
    · simp [put, hname]
    · have hne : name ≠ p.1 := fun heq => hname heq.symm
      by_cases hmem : name ∈ rest.map Prod.fst
      · simp only [put, if_neg hname, List.map_cons, ih, if_pos hmem,
          if_pos (List.mem_cons_of_mem p.1 hmem)]
      · have hnot : name ∉ p.1 :: rest.map Prod.fst := by
          rw [List.mem_cons, not_or]
          exact ⟨hne, hmem⟩
        simp only [put, if_neg hname, List.map_cons, ih, if_neg hmem, if_neg hnot, List.cons_append]

theorem put_put_self (name : String) (value value' : α) (named : Named α) :
    put name value (put name value' named) = put name value named := by
  induction named with
  | nil => simp [put]
  | cons p rest ih =>
    by_cases hname : p.1 = name
    · simp [put, hname]
    · simp [put, hname, ih]

/-- A name that is there keeps its place, so it may as well be set before another one. -/
theorem put_comm {name other : String} {named : Named α} (value value' : α) (hne : other ≠ name)
    (hmem : name ∈ named.map Prod.fst) :
    put name value (put other value' named) = put other value' (put name value named) := by
  induction named with
  | nil => simp at hmem
  | cons p rest ih =>
    by_cases hname : p.1 = name
    · have hother : p.1 ≠ other := fun heq => hne (heq.symm.trans hname)
      simp [put, hname, hne.symm]
    · have hrest : name ∈ rest.map Prod.fst := by
        rcases List.mem_cons.mp hmem with heq | hrest
        · exact absurd heq.symm hname
        · exact hrest
      by_cases hother : p.1 = other
      · simp [put, hother, hne]
      · simp [put, hname, hother, ih hrest]

theorem put_overlay {name : String} {named changed : Named α} (value : α)
    (hmem : name ∈ named.map Prod.fst) (hnot : name ∉ changed.map Prod.fst) :
    put name value (overlay named changed) = overlay (put name value named) changed := by
  induction changed generalizing named with
  | nil => rfl
  | cons p rest ih =>
    rw [List.map_cons, List.mem_cons, not_or] at hnot
    have hput : name ∈ (put p.1 p.2 named).map Prod.fst := by
      rw [map_fst_put]
      split_ifs
      · exact hmem
      · exact List.mem_append_left _ hmem
    rw [overlay_cons, overlay_cons, ih hput hnot.2, put_comm value p.2 (Ne.symm hnot.1) hmem]

/-- A value may be set before or after the others are set over those of another list. -/
theorem overlay_put {changed : Named α} (named : Named α) (name : String) (value : α)
    (hdistinct : (changed.map Prod.fst).Nodup) :
    overlay named (put name value changed) = put name value (overlay named changed) := by
  induction changed generalizing named with
  | nil => rfl
  | cons p rest ih =>
    rw [List.map_cons, List.nodup_cons] at hdistinct
    by_cases hname : p.1 = name
    · have hmem : name ∈ (put name p.2 named).map Prod.fst := by
        rw [map_fst_put]
        split_ifs with hold
        · exact hold
        · exact List.mem_append_right _ (List.mem_singleton.mpr rfl)
      have hnot : name ∉ rest.map Prod.fst := hname ▸ hdistinct.1
      rw [put, if_pos hname, overlay_cons, overlay_cons, hname, put_overlay value hmem hnot,
        put_put_self]
    · rw [put, if_neg hname, overlay_cons, overlay_cons, ih _ hdistinct.2]

theorem nodup_put {name : String} {named : Named α} (value : α)
    (h : (named.map Prod.fst).Nodup) : ((put name value named).map Prod.fst).Nodup := by
  rw [map_fst_put]
  split_ifs with hmem
  · exact h
  · exact List.nodup_append.mpr ⟨h, List.nodup_singleton name, by
      intro a ha b hb heq
      exact hmem (List.mem_singleton.mp hb ▸ heq ▸ ha)⟩

theorem nodup_overlay {named : Named α} (changed : Named α) (h : (named.map Prod.fst).Nodup) :
    ((overlay named changed).map Prod.fst).Nodup := by
  induction changed generalizing named with
  | nil => exact h
  | cons p rest ih => exact ih (nodup_put p.2 h)

/-- Values may be gathered before they are set over others. -/
theorem overlay_overlay (named changed : Named α) :
    overlay named (overlay [] changed) = overlay named changed := by
  induction changed using List.reverseRecOn with
  | nil => rfl
  | append_singleton past p ih =>
    have hdistinct : ((overlay [] past).map Prod.fst).Nodup := nodup_overlay past List.nodup_nil
    rw [overlay_concat, overlay_concat, overlay_put named p.1 p.2 hdistinct, ih]

/-! ## What is there in the end -/

theorem map_fst_overlay (set : Named α) :
    (overlay [] set).map Prod.fst = (set.map Prod.fst).eraseDups := by
  induction set using List.reverseRecOn with
  | nil => rfl
  | append_singleton past p ih =>
    rw [overlay_concat, map_fst_put, ih, List.map_append, List.map_singleton, eraseDups_concat]
    simp only [List.mem_eraseDups]

theorem mem_put {name : String} {value : α} {named : Named α} {entry : String × α}
    (hdistinct : (named.map Prod.fst).Nodup) (h : entry ∈ put name value named) :
    entry = (name, value) ∨ entry.1 ≠ name ∧ entry ∈ named := by
  induction named with
  | nil => exact .inl (List.mem_singleton.mp h)
  | cons p rest ih =>
    rw [List.map_cons, List.nodup_cons] at hdistinct
    rw [put] at h
    split_ifs at h with hname
    · rcases List.mem_cons.mp h with heq | hrest
      · exact .inl heq
      · have hne : entry.1 ≠ name := by
          rintro rfl
          exact hdistinct.1 (hname ▸ List.mem_map_of_mem hrest)
        exact .inr ⟨hne, List.mem_cons_of_mem p hrest⟩
    · rcases List.mem_cons.mp h with rfl | hrest
      · exact .inr ⟨hname, List.mem_cons_self⟩
      · exact (ih hdistinct.2 hrest).imp_right fun hold => ⟨hold.1, List.mem_cons_of_mem p hold.2⟩

/-- Each name has the value that it got last. -/
theorem getLast?_of_mem_overlay {set : Named α} {entry : String × α}
    (h : entry ∈ overlay [] set) :
    (set.filter fun p => p.1 = entry.1).getLast? = some entry := by
  induction set using List.reverseRecOn with
  | nil => simp [overlay] at h
  | append_singleton past p ih =>
    have hdistinct : ((overlay [] past).map Prod.fst).Nodup := nodup_overlay past List.nodup_nil
    rw [overlay_concat] at h
    rcases mem_put hdistinct h with rfl | ⟨hne, hold⟩
    · simp
    · simpa [List.filter_append, hne.symm] using ih hold

theorem put_of_not_mem {name : String} (value : α) {named : Named α}
    (h : name ∉ named.map Prod.fst) : put name value named = named ++ [(name, value)] := by
  induction named with
  | nil => rfl
  | cons p rest ih =>
    rw [List.map_cons, List.mem_cons, not_or] at h
    rw [put, if_neg (Ne.symm h.1), ih h.2, List.cons_append]

/-- Values with distinct names stay as they are. -/
theorem overlay_eq_self {set : Named α} (h : (set.map Prod.fst).Nodup) : overlay [] set = set := by
  induction set using List.reverseRecOn with
  | nil => rfl
  | append_singleton past p ih =>
    rw [List.map_append, List.nodup_append] at h
    have hnot : p.1 ∉ past.map Prod.fst := fun hmem =>
      h.2.2 p.1 hmem p.1 (List.mem_singleton.mpr rfl) rfl
    rw [overlay_concat, ih h.1, put_of_not_mem p.2 hnot]

/-- Where names are distinct, each has the value that stands with it. -/
theorem find?_of_mem {named : Named α} {name : String} {value : α}
    (h : (named.map Prod.fst).Nodup) (hmem : (name, value) ∈ named) :
    named.find? name = some value := by
  induction named with
  | nil => simp at hmem
  | cons p rest ih =>
    rw [List.map_cons, List.nodup_cons] at h
    rcases List.mem_cons.mp hmem with rfl | hrest
    · simp [find?]
    · have hne : p.1 ≠ name := by
        rintro rfl
        exact h.1 (List.mem_map.mpr ⟨_, hrest, rfl⟩)
      have htail := ih h.2 hrest
      unfold find? at htail ⊢
      rwa [List.find?_cons_of_neg (by simpa using hne)]

end Named
end Arazzo
