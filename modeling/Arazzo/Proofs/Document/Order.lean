import Arazzo.Document.Order
import Arazzo.Proofs.Document.Entries
import Arazzo.Proofs.Document.Keys
import Mathlib.Data.List.Perm.Subperm
import Mathlib.Tactic.Tauto

/-!
# The order of JSON values

Numbers, among which the truth values count, have an order, and so have texts. Two lists have one if one
of them starts with the other or the first items that differ have one. Nothing else is ordered. Where
there is an order it is one of three, turning round with its sides, and equal values are those that it
calls equal.
-/

namespace Arazzo

/-- A scalar of JSON that is a number if it is a floating-point value. -/
inductive Scalar.IsJson : Scalar → Prop
  | null : IsJson .null
  | bool (b : Bool) : IsJson (.bool b)
  | int (i : Int) : IsJson (.int i)
  | float {x : Binary64} : (∀ payload, x ≠ .nan payload) → IsJson (.float x)
  | text (s : String) : IsJson (.text s)

/-- A value of JSON, all of whose floating-point values are numbers. -/
inductive Value.IsJson : Value → Prop
  | scalar {s : Scalar} : s.IsJson → IsJson (.scalar s)
  | list {items : List Value} : (∀ v ∈ items, IsJson v) → IsJson (.list items)
  | map {entries : Entries} : entries.HasTextKeys → (∀ entry ∈ entries, IsJson entry.2) →
      IsJson (.map entries)

/-- Two values between which an order is defined. -/
inductive Value.IsOrdered : Value → Value → Prop
  | numbers {a b : Scalar} : a.number?.isSome = true → b.number?.isSome = true →
      IsOrdered (.scalar a) (.scalar b)
  | texts (s t : String) : IsOrdered (.text s) (.text t)
  | nil (items : List Value) : IsOrdered (.list []) (.list items)
  | cons_nil (v : Value) (items : List Value) : IsOrdered (.list (v :: items)) (.list [])
  | agree {v w : Value} {items others : List Value} : v.equal w = true →
      IsOrdered (.list items) (.list others) → IsOrdered (.list (v :: items)) (.list (w :: others))
  | differ {v w : Value} (items others : List Value) : v.equal w = false → IsOrdered v w →
      IsOrdered (.list (v :: items)) (.list (w :: others))

/-! ## Scalars -/

namespace Exact

theorem order?_swap (x y : Exact) : y.order? x = (x.order? y).map Ordering.swap := by
  cases x with
  | nan => cases y <;> rfl
  | infinity a =>
    cases y with
    | nan => rfl
    | infinity b => cases a <;> cases b <;> rfl
    | scaled => cases a <;> rfl
  | scaled a i =>
    cases y with
    | nan => rfl
    | infinity b => cases b <;> rfl
    | scaled b j =>
      rw [order?, order?, Option.map_some, compareScaled_eq_cmp, compareScaled_eq_cmp, cmp_swap]

theorem exists_order? {x y : Exact} (hx : x ≠ .nan) (hy : y ≠ .nan) : ∃ o, x.order? y = some o := by
  cases x <;> cases y <;> simp_all [order?]

end Exact

/-- A text is determined by the numbers of its characters, halves of pairs among them. -/
theorem Text.codeOf_injective : Function.Injective codeOf := by
  have hvalid : ∀ c : Char, c.toNat < 0xD800 ∨ 0xDFFF < c.toNat ∧ c.toNat < 0x110000 := Char.valid
  intro c d h
  have hc := hvalid c
  have hd := hvalid d
  unfold codeOf isLent isHalf halfShift at h
  simp only [Bool.and_eq_true, decide_eq_true_eq] at h
  refine Char.toNat_inj.mp ?_
  split_ifs at h <;> omega

namespace Scalar

variable {a b : Scalar} {o : Ordering}

theorem same_comm (a b : Scalar) : a.same b = b.same a := by
  rw [Bool.eq_iff_iff, same_iff, same_iff, eq_comm]

theorem IsJson.equal_eq_same (ha : a.IsJson) (b : Scalar) : a.equal b = a.same b := by
  cases ha with
  | @float x hx =>
    cases x with
    | nan payload => exact absurd rfl (hx payload)
    | _ => rfl
  | _ => rfl

theorem IsJson.number?_ne_nan {x : Exact} (ha : a.IsJson) (hx : a.number? = some x) :
    x ≠ .nan := by
  cases ha with
  | @float y hy =>
    obtain rfl := Option.some.inj hx
    cases y with
    | nan payload => exact absurd rfl (hy payload)
    | _ => simp [Exact.ofBinary]
  | bool => obtain rfl := Option.some.inj hx; simp [Exact.ofInt]
  | int => obtain rfl := Option.some.inj hx; simp [Exact.ofInt]
  | null => cases hx
  | text => cases hx

theorem orderText_swap (s t : String) : orderText t s = (orderText s t).swap :=
  Std.OrientedOrd.eq_swap

theorem orderText_eq_iff (s t : String) : orderText s t = .eq ↔ s = t := by
  have hinjective := List.map_injective_iff.mpr Text.codeOf_injective
  rw [orderText, Std.LawfulEqOrd.compare_eq_iff_eq, hinjective.eq_iff, String.toList_inj]

theorem order?_of_number? {x y : Exact} (hx : a.number? = some x) (hy : b.number? = some y) :
    a.order? b = x.order? y := by
  cases a <;> cases hx <;> cases b <;> cases hy <;> rfl

theorem equal_of_number? {x y : Exact} (hx : a.number? = some x) (hy : b.number? = some y) :
    a.equal b = x.same y := by
  cases a <;> cases hx <;> cases b <;> cases hy <;> rfl

theorem of_order?_of_number? {x y : Exact} (hx : a.number? = some x) (hy : b.number? = some y)
    (h : a.order? b = some o) :
    Value.IsOrdered (.scalar a) (.scalar b) ∧ (o = .eq ↔ a.equal b = true) := by
  refine ⟨.numbers (by rw [hx]; rfl) (by rw [hy]; rfl), ?_⟩
  rw [order?_of_number? hx hy] at h
  rw [equal_of_number? hx hy, Exact.same, h, beq_iff_eq, Option.some.injEq]

/-- The order of two scalars turns round with them. -/
theorem order?_swap (a b : Scalar) : b.order? a = (a.order? b).map Ordering.swap := by
  cases a <;> cases b
  case text.text s t => exact congrArg some (orderText_swap s t)
  case date.date => exact congrArg some Std.OrientedOrd.eq_swap
  case time.time => exact congrArg some Std.OrientedOrd.eq_swap
  case dateTime.dateTime x y =>
    rw [order?, order?, DateTime.order?, DateTime.order?]
    by_cases h : x.offset.isSome = y.offset.isSome
    · rw [if_pos h, if_pos h.symm]
      exact congrArg some Std.OrientedOrd.eq_swap
    · rw [if_neg h, if_neg (Ne.symm h)]
      rfl
  case bytes.bytes => exact congrArg some Std.OrientedOrd.eq_swap
  case bool.bool | bool.int | bool.float | int.bool | int.int | int.float | float.bool |
      float.int | float.float =>
    rw [order?_of_number? rfl rfl, order?_of_number? rfl rfl]
    exact Exact.order?_swap _ _
  all_goals rfl

/-- Where two scalars have an order, they are numbers or texts, and equal if it says so. -/
theorem IsJson.of_order? (ha : a.IsJson) (hb : b.IsJson) (h : a.order? b = some o) :
    Value.IsOrdered (.scalar a) (.scalar b) ∧ (o = .eq ↔ a.equal b = true) := by
  cases ha <;> cases hb
  case text.text s t =>
    obtain rfl := Option.some.inj h
    refine ⟨.texts s t, ?_⟩
    rw [orderText_eq_iff]
    simp [equal]
  all_goals first
    | cases h; done
    | exact of_order?_of_number? rfl rfl h

theorem IsJson.exists_order? (ha : a.IsJson) (hb : b.IsJson) (hx : a.number?.isSome = true)
    (hy : b.number?.isSome = true) : ∃ o, a.order? b = some o := by
  obtain ⟨x, hx⟩ := Option.isSome_iff_exists.mp hx
  obtain ⟨y, hy⟩ := Option.isSome_iff_exists.mp hy
  rw [order?_of_number? hx hy]
  exact Exact.exists_order? (ha.number?_ne_nan hx) (hb.number?_ne_nan hy)

end Scalar

namespace Value

variable {a b : Value} {items others : List Value} {entries rest : Entries} {o : Ordering}

/-! ## Equality -/

theorem IsJson.of_list (h : IsJson (.list items)) : ∀ v ∈ items, IsJson v := by
  cases h
  assumption

theorem isJson_cons {v : Value} :
    IsJson (.list (v :: items)) ↔ IsJson v ∧ IsJson (.list items) := by
  constructor
  · intro h
    obtain ⟨hfirst, hrest⟩ := List.forall_mem_cons.mp h.of_list
    exact ⟨hfirst, .list hrest⟩
  · rintro ⟨hfirst, hrest⟩
    exact .list (List.forall_mem_cons.mpr ⟨hfirst, hrest.of_list⟩)

/-- The kind of a value, as a number. -/
def kind : Value → Nat
  | .scalar _ => 0
  | .list _ => 1
  | .tuple _ => 2
  | .set _ => 3
  | .map _ => 4

theorem same_of_kind_ne (h : a.kind ≠ b.kind) : same a b = false := by
  cases a <;> cases b <;> first | rfl | exact absurd rfl h

theorem order?_of_kind_ne (h : a.kind ≠ b.kind) : order? a b = none := by
  cases a <;> cases b <;> first | rfl | exact absurd rfl h

/-- What holds of values of two kinds, of two scalars, of two lists item by item, and of two mappings
between whose values it holds, holds of all pairs of JSON values. -/
@[elab_as_elim]
theorem IsJson.induction_pairs {P : Value → Value → Prop} (ha : a.IsJson) (hb : b.IsJson)
    (apart : ∀ a b, a.kind ≠ b.kind → P a b)
    (scalars : ∀ s t, s.IsJson → t.IsJson → P (.scalar s) (.scalar t))
    (nil_nil : P (.list []) (.list []))
    (nil_cons : ∀ w others, P (.list []) (.list (w :: others)))
    (cons_nil : ∀ v items, P (.list (v :: items)) (.list []))
    (cons_cons : ∀ v w items others, v.IsJson → w.IsJson → P v w →
      P (.list items) (.list others) → P (.list (v :: items)) (.list (w :: others)))
    (maps : ∀ entries rest : Entries, entries.HasTextKeys → rest.HasTextKeys →
      (∀ entry ∈ entries, ∀ other ∈ rest, P entry.2 other.2) → P (.map entries) (.map rest)) :
    P a b := by
  induction ha generalizing b with
  | @scalar s hs =>
    cases hb with
    | scalar ht => exact scalars _ _ hs ht
    | list => exact apart _ _ nofun
    | map => exact apart _ _ nofun
  | @list items hitems ih =>
    cases hb with
    | scalar => exact apart _ _ nofun
    | @list others hothers =>
      induction items generalizing others with
      | nil =>
        cases others with
        | nil => exact nil_nil
        | cons w others => exact nil_cons w others
      | cons v items ihitems =>
        cases others with
        | nil => exact cons_nil v items
        | cons w others =>
          obtain ⟨hv, hrest⟩ := List.forall_mem_cons.mp hitems
          obtain ⟨hw, hothers⟩ := List.forall_mem_cons.mp hothers
          obtain ⟨ihv, ihrest⟩ := List.forall_mem_cons.mp ih
          exact cons_cons v w items others hv hw (ihv hw) (ihitems hrest ihrest hothers)
    | map => exact apart _ _ nofun
  | @map entries hentries _ ih =>
    cases hb with
    | scalar => exact apart _ _ nofun
    | list => exact apart _ _ nofun
    | @map rest hrest hvalues =>
      exact maps entries rest hentries hrest fun entry hentry other hother =>
        ih entry hentry (hvalues other hother)

theorem sameEntries_iff : sameEntries entries rest = true ↔
    ∀ k v, (k, v) ∈ entries → ∃ w, Entries.find? k rest = some w ∧ same v w = true := by
  induction entries with
  | nil => simp [sameEntries]
  | cons entry entries ih =>
    obtain ⟨k, v⟩ := entry
    rw [sameEntries, Bool.and_eq_true, ih]
    constructor
    · rintro ⟨hfirst, hrest⟩ k' v' hmem
      rcases List.mem_cons.mp hmem with heq | hmem
      · obtain ⟨rfl, rfl⟩ := Prod.mk.inj heq
        cases hfind : Entries.find? k' rest with
        | none => simp [hfind] at hfirst
        | some w => exact ⟨w, rfl, by simpa [hfind] using hfirst⟩
      · exact hrest k' v' hmem
    · intro h
      obtain ⟨w, hfind, hsame⟩ := h k v List.mem_cons_self
      exact ⟨by simpa [hfind] using hsame, fun k' v' hmem => h k' v' (List.mem_cons_of_mem _ hmem)⟩

/-- Mappings with text keys that are of one length have the same entries both ways round. -/
theorem sameEntries_symm (hentries : entries.HasTextKeys) (hrest : rest.HasTextKeys)
    (hlength : entries.length = rest.length)
    (hsymm : ∀ entry ∈ entries, ∀ other ∈ rest, same entry.2 other.2 = true →
      same other.2 entry.2 = true)
    (h : sameEntries entries rest = true) : sameEntries rest entries = true := by
  rw [sameEntries_iff] at h ⊢
  have hsubset : entries.map Prod.fst ⊆ rest.map Prod.fst := by
    intro k hk
    obtain ⟨⟨k, v⟩, hmem, rfl⟩ := List.mem_map.mp hk
    obtain ⟨s, rfl⟩ := hentries.isText _ hmem
    obtain ⟨w, hfind, -⟩ := h _ v hmem
    have hfound := Entries.mem_of_get? hfind
    exact List.mem_map.mpr ⟨_, hfound, rfl⟩
  -- The keys of one mapping are among those of the other, which are no more of them.
  have hperm : (entries.map Prod.fst).Perm (rest.map Prod.fst) :=
    (List.subperm_of_subset hentries.nodup hsubset).perm_of_length_le (by simp [hlength])
  intro k w hw
  obtain ⟨⟨k, v⟩, hv, rfl⟩ := List.mem_map.mp (hperm.symm.subset (List.mem_map_of_mem hw))
  obtain ⟨s, rfl⟩ := hentries.isText _ hv
  obtain ⟨w', hfind, hsame⟩ := h _ v hv
  have hfound := Entries.get?_of_mem rest s hrest.nodup hw
  obtain rfl : w' = w := Option.some.inj (hfind.symm.trans hfound)
  exact ⟨v, Entries.get?_of_mem entries s hentries.nodup hv, hsymm _ hv _ hw hsame⟩

theorem same_cons {v w : Value} : same (.list (v :: items)) (.list (w :: others)) =
    (same v w && same (.list items) (.list others)) :=
  rfl

/-- What is the same as a value is so the other way round. -/
theorem IsJson.same_symm (ha : a.IsJson) (hb : b.IsJson) : same a b = true → same b a = true := by
  refine ha.induction_pairs hb ?apart ?scalars ?nil_nil ?nil_cons ?cons_nil ?cons_cons ?maps
  case apart =>
    intro a b hkind h
    rw [same_of_kind_ne hkind] at h
    cases h
  case scalars => exact fun s t _ _ => (Scalar.same_comm t s).trans
  case nil_nil => exact id
  case nil_cons | cons_nil => exact nofun
  case cons_cons =>
    intro v w items others _ _ ihv ihitems
    rw [same_cons, same_cons, Bool.and_eq_true, Bool.and_eq_true]
    exact And.imp ihv ihitems
  case maps =>
    intro entries rest hentries hrest ih
    rw [same, same, Bool.and_eq_true, Bool.and_eq_true, beq_iff_eq, beq_iff_eq]
    exact fun h => ⟨h.1.symm, sameEntries_symm hentries hrest h.1 ih h.2⟩

theorem IsJson.same_comm (ha : a.IsJson) (hb : b.IsJson) : same a b = same b a :=
  Bool.eq_iff_iff.mpr ⟨ha.same_symm hb, hb.same_symm ha⟩

theorem IsJson.equal_eq_same (ha : a.IsJson) (b : Value) : a.equal b = same a b := by
  cases ha with
  | scalar hs =>
    cases b with
    | scalar t => exact hs.equal_eq_same t
    | _ => rfl
  | _ => rfl

theorem IsJson.equal_comm (ha : a.IsJson) (hb : b.IsJson) : a.equal b = b.equal a := by
  rw [ha.equal_eq_same, hb.equal_eq_same, ha.same_comm hb]

theorem equal_cons {v w : Value} (hv : v.IsJson) :
    equal (.list (v :: items)) (.list (w :: others)) =
      (v.equal w && equal (.list items) (.list others)) := by
  rw [hv.equal_eq_same]
  exact same_cons

/-! ## Order -/

theorem order?_cons_of_equal {v w : Value} (hv : v.IsJson) (h : v.equal w = true) :
    order? (.list (v :: items)) (.list (w :: others)) = order? (.list items) (.list others) := by
  rw [hv.equal_eq_same] at h
  rw [order?, orderItems?, if_pos h, order?]

theorem order?_cons_of_not_equal {v w : Value} (hv : v.IsJson) (h : v.equal w = false) :
    order? (.list (v :: items)) (.list (w :: others)) = order? v w := by
  rw [hv.equal_eq_same] at h
  rw [order?, orderItems?, if_neg (by simp [h])]

/-- The order of two values turns round with them. -/
theorem IsJson.order?_swap (ha : a.IsJson) (hb : b.IsJson) :
    order? b a = (order? a b).map Ordering.swap := by
  refine ha.induction_pairs hb ?apart ?scalars ?nil_nil ?nil_cons ?cons_nil ?cons_cons ?maps
  case apart =>
    intro a b hkind
    rw [order?_of_kind_ne hkind, order?_of_kind_ne hkind.symm, Option.map_none]
  case scalars => exact fun s t _ _ => Scalar.order?_swap s t
  case nil_nil => rfl
  case nil_cons | cons_nil | maps => intros; rfl
  case cons_cons =>
    intro v w items others hv hw ihv ihitems
    cases hequal : v.equal w with
    | true =>
      rw [order?_cons_of_equal hv hequal, order?_cons_of_equal hw (hw.equal_comm hv ▸ hequal)]
      exact ihitems
    | false =>
      rw [order?_cons_of_not_equal hv hequal,
        order?_cons_of_not_equal hw (hw.equal_comm hv ▸ hequal)]
      exact ihv

/-- An order between two values is one where it is defined, and tells whether they are equal. -/
theorem IsJson.of_order? (ha : a.IsJson) (hb : b.IsJson) :
    order? a b = some o → IsOrdered a b ∧ (o = .eq ↔ a.equal b = true) := by
  refine ha.induction_pairs hb ?apart ?scalars ?nil_nil ?nil_cons ?cons_nil ?cons_cons ?maps
  case apart =>
    intro a b hkind h
    rw [order?_of_kind_ne hkind] at h
    cases h
  case scalars => exact fun s t hs ht => hs.of_order? ht
  case nil_nil =>
    intro h
    exact ⟨.nil [], by simp [← Option.some.inj h, equal, same, sameItems]⟩
  case nil_cons =>
    intro w others h
    exact ⟨.nil _, by simp [← Option.some.inj h, equal, same, sameItems]⟩
  case cons_nil =>
    intro v items h
    exact ⟨.cons_nil v items, by simp [← Option.some.inj h, equal, same, sameItems]⟩
  case cons_cons =>
    intro v w items others hv _ ihv ihitems h
    rw [equal_cons hv]
    cases hequal : v.equal w with
    | true =>
      rw [order?_cons_of_equal hv hequal] at h
      obtain ⟨hordered, heq⟩ := ihitems h
      exact ⟨.agree hequal hordered, by rw [heq, Bool.true_and]⟩
    | false =>
      rw [order?_cons_of_not_equal hv hequal] at h
      obtain ⟨hordered, heq⟩ := ihv h
      exact ⟨.differ items others hequal hordered, by rw [heq, hequal, Bool.false_and]⟩
  case maps => exact fun _ _ _ _ _ => nofun

/-- Between values of which an order is defined there is one. -/
theorem IsOrdered.exists_order? (h : IsOrdered a b) (ha : a.IsJson) (hb : b.IsJson) :
    ∃ o, order? a b = some o := by
  induction h with
  | @numbers s t hs ht =>
    cases ha with
    | scalar ha =>
      cases hb with
      | scalar hb => exact ha.exists_order? hb hs ht
  | texts s t => exact ⟨_, rfl⟩
  | nil items => cases items <;> exact ⟨_, rfl⟩
  | cons_nil => exact ⟨_, rfl⟩
  | agree hequal _ ih =>
    obtain ⟨hv, hitems⟩ := isJson_cons.mp ha
    rw [order?_cons_of_equal hv hequal]
    exact ih hitems (isJson_cons.mp hb).2
  | differ _ _ hequal _ ih =>
    obtain ⟨hv, -⟩ := isJson_cons.mp ha
    rw [order?_cons_of_not_equal hv hequal]
    exact ih hv (isJson_cons.mp hb).1

end Value
end Arazzo
