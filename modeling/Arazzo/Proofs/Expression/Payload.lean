import Arazzo.Expression.Scope
import Arazzo.Proofs.Document.Entries
import Arazzo.Proofs.Except

/-!
# Resolved payloads

Resolving a payload keeps its lists and mappings and puts the value that it denotes in the place of each
text, as it is: what stands in such a value is not resolved again. If a text denotes no value, the error
is that of the first one, in the order of the document.
-/

namespace Arazzo

namespace Value

/-- The values that a list or a mapping consists of, in order. -/
def members : Value → List Value
  | .list items => items
  | .map entries => entries.map Prod.snd
  | _ => []

/-- What stands in a value at the end of a route, the positions of the members on the way. -/
def at? (v : Value) : List ℕ → Option Value
  | [] => some v
  | i :: route => v.members[i]?.bind (at? · route)

/-- A text that is resolved with the value that it stands in. -/
inductive Mentions (s : String) : Value → Prop
  | text : Mentions s (.text s)
  | item {items : List Value} {v : Value} : v ∈ items → Mentions s v → Mentions s (.list items)
  | entry {entries : Entries} {k : Scalar} {v : Value} : (k, v) ∈ entries → Mentions s v →
      Mentions s (.map entries)

@[elab_as_elim]
theorem induction_at {P : Value → Prop} (h : ∀ v : Value, (∀ w ∈ v.members, P w) → P v) (v : Value) :
    P v := by
  induction v using Value.induction_members with
  | list items ih => exact h _ ih
  | map entries ih =>
    refine h _ fun w hw => ?_
    obtain ⟨entry, hentry, rfl⟩ := List.mem_map.mp hw
    exact ih entry.1 entry.2 hentry
  | _ => exact h _ nofun

theorem at?_append (v : Value) (route deeper : List ℕ) :
    v.at? (route ++ deeper) = (v.at? route).bind (·.at? deeper) := by
  induction route generalizing v with
  | nil => rfl
  | cons i route ih =>
    rw [List.cons_append, at?, at?]
    cases v.members[i]? with
    | none => rfl
    | some w => exact ih w

theorem at?_cons_eq_some {v w : Value} {i : ℕ} {route : List ℕ} :
    v.at? (i :: route) = some w ↔ ∃ u, v.members[i]? = some u ∧ u.at? route = some w := by
  rw [at?, Option.bind_eq_some_iff]

end Value

namespace Scope

variable {scope : Scope}

theorem exists_resolveItems_ok {items : List Value} :
    (∃ vs, scope.resolveItems items = .ok vs) ↔ ∀ v ∈ items, ∃ w, scope.resolve v = .ok w := by
  refine exists_traverse_ok ?_ (fun v rest => ?_) items
  · exact ⟨[], rfl⟩
  · rw [resolveItems]
    simp [exists_bind_ok]

theorem exists_resolveEntries_ok {entries : Entries} :
    (∃ vs, scope.resolveEntries entries = .ok vs) ↔
      ∀ entry ∈ entries, ∃ w, scope.resolve entry.2 = .ok w := by
  refine exists_traverse_ok ?_ (fun entry rest => ?_) entries
  · exact ⟨[], rfl⟩
  · rw [resolveEntries]
    simp [exists_bind_ok]

theorem exists_operand_ok_of_resolve {s : String} {v w : Value} (h : v.Mentions s)
    (hresolve : scope.resolve v = .ok w) : ∃ u, scope.operand s = .ok u := by
  induction h generalizing w with
  | text => exact ⟨w, hresolve⟩
  | item hv _ ih =>
    obtain ⟨vs, hvs⟩ := exists_map_ok.mp ⟨w, hresolve⟩
    obtain ⟨u, hu⟩ := exists_resolveItems_ok.mp ⟨vs, hvs⟩ _ hv
    exact ih hu
  | entry hv _ ih =>
    obtain ⟨vs, hvs⟩ := exists_map_ok.mp ⟨w, hresolve⟩
    obtain ⟨u, hu⟩ := exists_resolveEntries_ok.mp ⟨vs, hvs⟩ _ hv
    exact ih hu

theorem resolveItems_ok_iff {items resolved : List Value} :
    scope.resolveItems items = .ok resolved ↔
      List.Forall₂ (fun v w => scope.resolve v = .ok w) items resolved := by
  refine traverse_ok_iff ?_ fun v rest resolved => ?_
  · rfl
  · rw [resolveItems]
    simp only [bind_ok_iff, Except.ok.injEq]

theorem resolveEntries_ok_iff {entries resolved : Entries} :
    scope.resolveEntries entries = .ok resolved ↔
      List.Forall₂ (fun entry found => found.1 = entry.1 ∧ scope.resolve entry.2 = .ok found.2)
        entries resolved := by
  refine traverse_keyed_ok_iff (R := fun v w => scope.resolve v = .ok w) ?_
    fun entry rest resolved => ?_
  · rfl
  · rw [resolveEntries]
    simp only [bind_ok_iff, Except.ok.injEq]

theorem keys_eq_of_resolveEntries {entries resolved : Entries}
    (h : scope.resolveEntries entries = .ok resolved) :
    resolved.map Prod.fst = entries.map Prod.fst := by
  rw [← List.forall₂_eq_eq_eq, List.forall₂_map_left_iff, List.forall₂_map_right_iff]
  exact (resolveEntries_ok_iff.mp h).flip.imp fun _ _ hentry => hentry.1

/-! ## The error of the first text -/

theorem resolveItems_error_iff {items : List Value} {f : Fault} :
    scope.resolveItems items = .error f ↔
      ∃ (i : ℕ) (v : Value), items[i]? = some v ∧ scope.resolve v = .error f ∧
        ∀ j < i, ∀ w, items[j]? = some w → ∃ u, scope.resolve w = .ok u := by
  refine traverse_error_iff scope.resolve ?_ fun v rest f => ?_
  · exact ⟨[], rfl⟩
  · rw [resolveItems]
    simp only [bind_error_iff, reduceCtorEq, and_false, exists_false, or_false, exists_and_right]

theorem resolveEntries_error_iff {entries : Entries} {f : Fault} :
    scope.resolveEntries entries = .error f ↔
      ∃ (i : ℕ) (entry : Scalar × Value), entries[i]? = some entry ∧
        scope.resolve entry.2 = .error f ∧
        ∀ j < i, ∀ other, entries[j]? = some other → ∃ u, scope.resolve other.2 = .ok u := by
  refine traverse_error_iff (fun entry : Scalar × Value => scope.resolve entry.2) ?_
    fun entry rest f => ?_
  · exact ⟨[], rfl⟩
  · rw [resolveEntries]
    simp only [bind_error_iff, reduceCtorEq, and_false, exists_false, or_false, exists_and_right]

/-- A payload has no value for a text that has none, or for the first member that has none. -/
theorem resolve_error_iff {payload : Value} {f : Fault} : scope.resolve payload = .error f ↔
    (∃ s, payload = .text s ∧ scope.operand s = .error f) ∨
      ∃ (i : ℕ) (v : Value), payload.members[i]? = some v ∧ scope.resolve v = .error f ∧
        ∀ j < i, ∀ w, payload.members[j]? = some w → ∃ u, scope.resolve w = .ok u := by
  cases payload with
  | scalar s =>
    cases s with
    | text s => simp [resolve, value, Value.members]
    | _ => simp [resolve, value, Value.members]
  | list items => simp [resolve, map_error_iff, resolveItems_error_iff, Value.members]
  | map entries =>
    rw [resolve, map_error_iff, resolveEntries_error_iff]
    simp only [Value.members, reduceCtorEq, false_and, exists_false, false_or, List.getElem?_map,
      Option.map_eq_some_iff]
    constructor
    · rintro ⟨i, entry, hentry, herror, hbefore⟩
      refine ⟨i, entry.2, ⟨entry, hentry, rfl⟩, herror, ?_⟩
      rintro j hj w ⟨other, hother, rfl⟩
      exact hbefore j hj other hother
    · rintro ⟨i, v, ⟨entry, hentry, rfl⟩, herror, hbefore⟩
      refine ⟨i, entry, hentry, herror, ?_⟩
      intro j hj other hother
      exact hbefore j hj other.2 ⟨other, hother, rfl⟩
  | _ => simp [resolve, Value.members]

theorem exists_resolve_ok_iff_members {payload : Value} : (∃ tree, scope.resolve payload = .ok tree) ↔
    (∀ s, payload = .text s → ∃ v, scope.operand s = .ok v) ∧
      ∀ v ∈ payload.members, ∃ w, scope.resolve v = .ok w := by
  cases payload with
  | scalar s =>
    cases s with
    | text s => simp [resolve, value, Value.members]
    | _ => simp [resolve, value, Value.members]
  | list items => simp [resolve, exists_map_ok, exists_resolveItems_ok, Value.members]
  | map entries =>
    rw [resolve, exists_map_ok, exists_resolveEntries_ok]
    simp [Value.members, List.forall_mem_map, -Prod.forall, -List.mem_map]
  | _ => simp [resolve, Value.members]

/-- A payload has a value if all texts in it have one. -/
theorem exists_resolve_ok_iff {payload : Value} : (∃ tree, scope.resolve payload = .ok tree) ↔
    ∀ route s, payload.at? route = some (.text s) → ∃ v, scope.operand s = .ok v := by
  induction payload using Value.induction_at with
  | h payload ih =>
    rw [exists_resolve_ok_iff_members]
    constructor
    · rintro ⟨htext, hmembers⟩ route s hat
      cases route with
      | nil => exact htext s (Option.some.inj hat)
      | cons i route =>
        obtain ⟨v, hv, hrest⟩ := Value.at?_cons_eq_some.mp hat
        have hmem := List.mem_of_getElem? hv
        exact (ih v hmem).mp (hmembers v hmem) route s hrest
    · intro h
      refine ⟨fun s hs => h [] s (congrArg some hs), fun v hv => (ih v hv).mpr ?_⟩
      intro route s hat
      obtain ⟨i, hi⟩ := List.getElem?_of_mem hv
      exact h (i :: route) s (Value.at?_cons_eq_some.mpr ⟨v, hi, hat⟩)

/-- The first text in a payload that denotes no value, and its error. The order of the document is the
lexicographic one of the routes. -/
def FailsFirst (scope : Scope) (payload : Value) (f : Fault) : Prop :=
  ∃ route s, payload.at? route = some (.text s) ∧ scope.operand s = .error f ∧
    ∀ earlier < route, ∀ t, payload.at? earlier = some (.text t) → ∃ v, scope.operand t = .ok v

theorem failsFirst_member {payload v : Value} {i : ℕ} {f : Fault} (hv : payload.members[i]? = some v)
    (hfails : scope.FailsFirst v f)
    (hbefore : ∀ j < i, ∀ w, payload.members[j]? = some w → ∃ u, scope.resolve w = .ok u) :
    scope.FailsFirst payload f := by
  obtain ⟨route, s, hat, herror, hearlier⟩ := hfails
  refine ⟨i :: route, s, Value.at?_cons_eq_some.mpr ⟨v, hv, hat⟩, herror, ?_⟩
  intro earlier hlt t ht
  cases earlier with
  | nil =>
    -- A payload with members is no text.
    obtain rfl := Option.some.inj ht
    cases hv
  | cons j earlier =>
    obtain ⟨w, hw, hrest⟩ := Value.at?_cons_eq_some.mp ht
    rcases List.cons_lt_cons_iff.mp hlt with hj | ⟨rfl, hinner⟩
    · exact exists_resolve_ok_iff.mp (hbefore j hj w hw) earlier t hrest
    · obtain rfl := Option.some.inj (hv.symm.trans hw)
      exact hearlier earlier hinner t hrest

theorem FailsFirst.exists_member {payload : Value} {f : Fault} (h : scope.FailsFirst payload f) :
    (∃ s, payload = .text s ∧ scope.operand s = .error f) ∨
      ∃ (i : ℕ) (v : Value), payload.members[i]? = some v ∧ scope.FailsFirst v f ∧
        ∀ j < i, ∀ w, payload.members[j]? = some w → ∃ u, scope.resolve w = .ok u := by
  obtain ⟨route, s, hat, herror, hearlier⟩ := h
  cases route with
  | nil => exact .inl ⟨s, Option.some.inj hat, herror⟩
  | cons i route =>
    obtain ⟨v, hv, hrest⟩ := Value.at?_cons_eq_some.mp hat
    refine .inr ⟨i, v, hv, ⟨route, s, hrest, herror, ?_⟩, ?_⟩
    · intro earlier hlt t ht
      exact hearlier (i :: earlier) (List.cons_lt_cons_iff.mpr (.inr ⟨rfl, hlt⟩)) t
        (Value.at?_cons_eq_some.mpr ⟨v, hv, ht⟩)
    · intro j hj w hw
      rw [exists_resolve_ok_iff]
      intro earlier t ht
      exact hearlier (j :: earlier) (List.cons_lt_cons_iff.mpr (.inl hj)) t
        (Value.at?_cons_eq_some.mpr ⟨w, hw, ht⟩)

theorem resolve_error_iff_failsFirst {payload : Value} {f : Fault} :
    scope.resolve payload = .error f ↔ scope.FailsFirst payload f := by
  induction payload using Value.induction_at with
  | h payload ih =>
    constructor
    · intro h
      rcases resolve_error_iff.mp h with ⟨s, rfl, herror⟩ | ⟨i, v, hv, herror, hbefore⟩
      · exact ⟨[], s, rfl, herror, fun earlier hlt => absurd hlt (List.not_lt_nil earlier)⟩
      · exact failsFirst_member hv ((ih v (List.mem_of_getElem? hv)).mp herror) hbefore
    · intro h
      refine resolve_error_iff.mpr (h.exists_member.imp_right ?_)
      rintro ⟨i, v, hv, hfails, hbefore⟩
      exact ⟨i, v, hv, (ih v (List.mem_of_getElem? hv)).mpr hfails, hbefore⟩

/-! ## The values of all texts -/

/-- A tree has the lists and mappings of a payload, with the lengths and keys that they have there. The
values that the texts of the payload denote stand in their places as they are, and so do all other
leaves. -/
structure IsResolved (scope : Scope) (payload tree : Value) : Prop where
  list : ∀ route items, payload.at? route = some (.list items) →
    ∃ found, tree.at? route = some (.list found) ∧ found.length = items.length
  map : ∀ route entries, payload.at? route = some (.map entries) →
    ∃ found, tree.at? route = some (.map found) ∧ found.map Prod.fst = entries.map Prod.fst
  text : ∀ route s, payload.at? route = some (.text s) → ∃ v, scope.operand s = .ok v ∧
    ∀ deeper, tree.at? (route ++ deeper) = v.at? deeper
  leaf : ∀ route v, payload.at? route = some v → v.text? = none → v.map? = none →
    (∀ items, v ≠ .list items) → tree.at? route = some v

theorem exists_member_of_resolve {payload tree v : Value} {i : ℕ}
    (h : scope.resolve payload = .ok tree) (hv : payload.members[i]? = some v) :
    ∃ w, scope.resolve v = .ok w ∧ tree.members[i]? = some w := by
  cases payload with
  | list items =>
    obtain ⟨found, hfound, rfl⟩ := map_ok_iff.mp h
    obtain ⟨w, hw, hresolve⟩ := getElem?_of_forall₂ (resolveItems_ok_iff.mp hfound) hv
    exact ⟨w, hresolve, hw⟩
  | map entries =>
    obtain ⟨found, hfound, rfl⟩ := map_ok_iff.mp h
    rw [Value.members, List.getElem?_map, Option.map_eq_some_iff] at hv
    obtain ⟨entry, hentry, rfl⟩ := hv
    obtain ⟨other, hother, -, hresolve⟩ :=
      getElem?_of_forall₂ (resolveEntries_ok_iff.mp hfound) hentry
    exact ⟨other.2, hresolve, by simp [Value.members, hother]⟩
  | _ => cases hv

/-- What has become of a value stands where the value stood. -/
theorem exists_at?_of_resolve {payload tree v : Value} {route : List ℕ}
    (h : scope.resolve payload = .ok tree) (hat : payload.at? route = some v) :
    ∃ w, scope.resolve v = .ok w ∧ tree.at? route = some w := by
  induction route generalizing payload tree with
  | nil =>
    obtain rfl := Option.some.inj hat
    exact ⟨tree, h, rfl⟩
  | cons i route ih =>
    obtain ⟨u, hu, hrest⟩ := Value.at?_cons_eq_some.mp hat
    obtain ⟨w, hresolve, hw⟩ := exists_member_of_resolve h hu
    obtain ⟨w', hresolve', hat'⟩ := ih hresolve hrest
    exact ⟨w', hresolve', Value.at?_cons_eq_some.mpr ⟨w, hw, hat'⟩⟩

theorem isResolved_of_resolve {payload tree : Value} (h : scope.resolve payload = .ok tree) :
    scope.IsResolved payload tree where
  list route items hat := by
    obtain ⟨w, hresolve, hw⟩ := exists_at?_of_resolve h hat
    obtain ⟨found, hfound, rfl⟩ := map_ok_iff.mp hresolve
    exact ⟨found, hw, (resolveItems_ok_iff.mp hfound).length_eq.symm⟩
  map route entries hat := by
    obtain ⟨w, hresolve, hw⟩ := exists_at?_of_resolve h hat
    obtain ⟨found, hfound, rfl⟩ := map_ok_iff.mp hresolve
    exact ⟨found, hw, keys_eq_of_resolveEntries hfound⟩
  text route s hat := by
    obtain ⟨w, hresolve, hw⟩ := exists_at?_of_resolve h hat
    refine ⟨w, hresolve, fun deeper => ?_⟩
    rw [Value.at?_append, hw, Option.bind_some]
  leaf route v hat htext hmap hlist := by
    obtain ⟨w, hresolve, hw⟩ := exists_at?_of_resolve h hat
    cases v with
    | scalar s =>
      cases s with
      | text s => cases htext
      | _ => exact Except.ok.inj hresolve ▸ hw
    | list items => exact absurd rfl (hlist items)
    | map entries => cases hmap
    | _ => exact Except.ok.inj hresolve ▸ hw

/-- Behind a member stands what stands in the member. -/
theorem IsResolved.member {payload tree v w : Value} {i : ℕ} (h : scope.IsResolved payload tree)
    (hv : payload.members[i]? = some v) (hw : tree.members[i]? = some w) : scope.IsResolved v w := by
  have hpayload : ∀ route u, v.at? route = some u → payload.at? (i :: route) = some u :=
    fun route u hu => Value.at?_cons_eq_some.mpr ⟨v, hv, hu⟩
  have htree : ∀ route, tree.at? (i :: route) = w.at? route := by
    intro route
    rw [Value.at?, hw, Option.bind_some]
  constructor
  · intro route items hat
    rw [← htree]
    exact h.list _ items (hpayload route _ hat)
  · intro route entries hat
    rw [← htree]
    exact h.map _ entries (hpayload route _ hat)
  · intro route s hat
    obtain ⟨u, hu, hdeeper⟩ := h.text _ s (hpayload route _ hat)
    refine ⟨u, hu, fun deeper => ?_⟩
    rw [← htree]
    exact hdeeper deeper
  · intro route u hat htext hmap hlist
    rw [← htree]
    exact h.leaf _ u (hpayload route _ hat) htext hmap hlist

theorem resolve_of_isResolved {payload tree : Value} (h : scope.IsResolved payload tree) :
    scope.resolve payload = .ok tree := by
  induction payload using Value.induction_at generalizing tree with
  | h payload ih =>
    have hmember : ∀ (i : ℕ) (v w : Value), payload.members[i]? = some v →
        tree.members[i]? = some w → scope.resolve v = .ok w := by
      intro i v w hv hw
      exact ih v (List.mem_of_getElem? hv) (h.member hv hw)
    have hleaf : payload.text? = none → payload.map? = none → (∀ items, payload ≠ .list items) →
        tree = payload := by
      intro htext hmap hlist
      exact Option.some.inj (h.leaf [] payload rfl htext hmap hlist)
    cases payload with
    | scalar s =>
      cases s with
      | text s =>
        obtain ⟨v, hv, hdeeper⟩ := h.text [] s rfl
        obtain rfl := Option.some.inj (hdeeper [])
        exact hv
      | _ => rw [hleaf rfl rfl nofun]; rfl
    | list items =>
      obtain ⟨found, htree, hlength⟩ := h.list [] items rfl
      obtain rfl := Option.some.inj htree
      rw [resolve, map_ok_iff]
      refine ⟨found, resolveItems_ok_iff.mpr ?_, rfl⟩
      refine List.forall₂_iff_get.mpr ⟨hlength.symm, fun i hi hi' => ?_⟩
      exact hmember i _ _ (List.getElem?_eq_getElem hi) (List.getElem?_eq_getElem hi')
    | map entries =>
      obtain ⟨found, htree, hkeys⟩ := h.map [] entries rfl
      obtain rfl := Option.some.inj htree
      have hlength : found.length = entries.length := by simpa using congrArg List.length hkeys
      rw [resolve, map_ok_iff]
      refine ⟨found, resolveEntries_ok_iff.mpr ?_, rfl⟩
      refine List.forall₂_iff_get.mpr ⟨hlength.symm, fun i hi hi' => ⟨?_, ?_⟩⟩
      · simpa [hi, hi'] using congrArg (·[i]?) hkeys
      · refine hmember i _ _ ?_ ?_
        · simp [Value.members, hi]
        · simp [Value.members, hi']
    | _ => rw [hleaf rfl rfl nofun]; rfl

/-- Resolving a payload fails with the error of the first text that denotes no value, or gives the tree
in which each text has been replaced by the value that it denotes. -/
theorem resolve_leafwise (scope : Scope) (payload : Value) :
    (∀ f, scope.resolve payload = .error f ↔ scope.FailsFirst payload f) ∧
    ∀ tree, scope.resolve payload = .ok tree ↔ scope.IsResolved payload tree :=
  ⟨fun _ => resolve_error_iff_failsFirst, fun _ => ⟨isResolved_of_resolve, resolve_of_isResolved⟩⟩

/-- What has come from the inputs is not resolved. -/
example : ((resolve ⟨⟨.map [(.text "inputs", .map [(.text "a", .text "$inputs.a")])], []⟩, default⟩
    (.map [(.text "key", .list [.text "$inputs.a", .text "007"])])).toOption.bind
      (Value.at? · [0, 0])).bind Value.scalar? = some (.text "$inputs.a") := by decide +kernel

end Scope
end Arazzo
