import Arazzo.Document.Value
import Mathlib.Algebra.Order.Field.Rat
import Mathlib.Algebra.Order.Ring.Cast
import Mathlib.Data.List.Infix
import Mathlib.Tactic.Ring
import Mathlib.Tactic.SplitIfs

/-!
# Keys of mappings

Two scalars are one key if and only if they have one identity: numbers of all kinds and the truth
values that of their exact amount, instants that of their distance from a fixed one. So setting the
value of a key changes what is found under this key and nothing else, and overlaying a mapping with
another one keeps the places of its keys.
-/

namespace Arazzo

/-- What a number amounts to, whatever its kind. -/
inductive Amount where
  | exact (q : ℚ)
  | infinity (negative : Bool)
  | nan (payload : Nat)

/-- What a key is. -/
inductive Identity where
  | null
  | text (s : String)
  | date (d : Date)
  | time (t : TimeOfDay)
  | instant (isAware : Bool) (microseconds : Int)
  | bytes (bs : List UInt8)
  | steps
  | number (a : Amount)

/-- The amount of an exact value; not-a-number has none that it compares by. -/
def Exact.amount? : Exact → Option Amount
  | .nan => none
  | .infinity negative => some (.infinity negative)
  | .scaled m e => some (.exact (m * (2 : ℚ) ^ e))

def Binary64.amount (x : Binary64) : Amount :=
  match x with
  | .nan p => .nan p
  | .infinity negative => .infinity negative
  | .finite negative m e => .exact ((if negative then -(m : Int) else m : Int) * (2 : ℚ) ^ e)

def Scalar.identity : Scalar → Identity
  | .null => .null
  | .bool b => .number (.exact (if b then 1 else 0 : Int))
  | .int i => .number (.exact i)
  | .float x => .number x.amount
  | .text s => .text s
  | .date d => .date d
  | .time t => .time t
  | .dateTime d => .instant d.offset.isSome d.microseconds
  | .bytes bs => .bytes bs
  | .steps => .steps

namespace Exact

/-- Scaled integers compare as the exact numbers that they stand for. -/
theorem compareScaled_eq_cmp (a i b j : Int) :
    Binary64.compareScaled a i b j = cmp ((a : ℚ) * 2 ^ i) (b * 2 ^ j) := by
  have hscale : ∀ n k e : Int, e ≤ k →
      ((n * Nat.pow 2 (k - e).toNat : Int) : ℚ) * 2 ^ e = n * 2 ^ k := by
    intro n k e he
    have hexponent : k = ((k - e).toNat : Int) + e := by omega
    have hpower : (2 : ℚ) ^ k = 2 ^ (k - e).toNat * 2 ^ e := by
      conv_lhs => rw [hexponent]
      rw [zpow_add₀ two_ne_zero, zpow_natCast]
    rw [hpower]
    push_cast [Nat.pow_eq]
    ring
  have hmono : StrictMono fun n : Int => (n : ℚ) * 2 ^ min i j := fun m n h =>
    mul_lt_mul_of_pos_right (Int.cast_lt.mpr h) (zpow_pos two_pos _)
  rw [Binary64.compareScaled, ← cmp_eq_compare, ← hmono.cmp_map_eq]
  rw [hscale a i _ (min_le_left i j), hscale b j _ (min_le_right i j)]

theorem compareScaled_eq_iff (a i b j : Int) :
    Binary64.compareScaled a i b j = .eq ↔ (a : ℚ) * 2 ^ i = b * 2 ^ j := by
  rw [compareScaled_eq_cmp, cmp_eq_eq_iff]

/-- Exact values are the same if they have an amount, and it is one. -/
theorem same_iff (x y : Exact) :
    x.same y = true ↔ x.amount? ≠ none ∧ x.amount? = y.amount? := by
  cases x with
  | nan => simp [same, order?, amount?]
  | infinity negative =>
    cases y with
    | nan => simp [same, order?, amount?]
    | infinity other => cases negative <;> cases other <;> simp [same, order?, amount?]
    | scaled b j => cases negative <;> simp [same, order?, amount?]
  | scaled a i =>
    cases y with
    | nan => simp [same, order?, amount?]
    | infinity other => cases other <;> simp [same, order?, amount?]
    | scaled b j => simp [same, order?, amount?, compareScaled_eq_iff]

@[simp] theorem amount?_ofInt (i : Int) : (ofInt i).amount? = some (.exact i) := by
  simp [ofInt, amount?]

@[simp] theorem amount?_ofBinary_nan (p : Nat) : (ofBinary (.nan p)).amount? = none := rfl

@[simp] theorem amount?_ofBinary_infinity (negative : Bool) :
    (ofBinary (.infinity negative)).amount? = some (.infinity negative) := rfl

@[simp] theorem amount?_ofBinary_finite (negative : Bool) (m : Nat) (e : Int) :
    (ofBinary (.finite negative m e)).amount? =
      some (Binary64.amount (.finite negative m e)) := rfl

end Exact

/-- Two scalars are one key if they have one identity. -/
theorem Scalar.same_iff (a b : Scalar) : a.same b = true ↔ a.identity = b.identity := by
  cases a <;> cases b
  case float.float x y =>
    cases x <;> cases y <;>
      simp [same, equal, number?, identity, Exact.same_iff, Binary64.amount]
  case bool.float b x =>
    cases x <;> simp [same, equal, number?, identity, Exact.same_iff, Binary64.amount]
  case int.float i x =>
    cases x <;> simp [same, equal, number?, identity, Exact.same_iff, Binary64.amount]
  case float.bool x b =>
    cases x <;> simp [same, equal, number?, identity, Exact.same_iff, Binary64.amount]
  case float.int x i =>
    cases x <;> simp [same, equal, number?, identity, Exact.same_iff, Binary64.amount]
  all_goals
    simp [same, equal, number?, identity, DateTime.order?, Exact.same_iff]

namespace Entries

/-- A mapping has every key once. -/
def HasDistinctKeys (entries : Entries) : Prop :=
  entries.Pairwise fun a b => a.1.same b.1 = false

instance (entries : Entries) : Decidable entries.HasDistinctKeys :=
  inferInstanceAs (Decidable (entries.Pairwise _))

variable {entries added : Entries} {key : Scalar} {value : Value}

theorem hasDistinctKeys_iff : entries.HasDistinctKeys ↔
    (entries.map Prod.fst).Pairwise fun a b => a.same b = false := by
  rw [HasDistinctKeys, List.pairwise_map]

theorem HasDistinctKeys.erase (h : entries.HasDistinctKeys) (key : Scalar) :
    HasDistinctKeys (erase key entries) :=
  h.filter _

/-- Setting a key changes what is found under it. -/
theorem find?_insert (entries : Entries) (key k : Scalar) (value : Value) :
    find? k (insert key value entries) =
      if key.same k then some value else find? k entries := by
  induction entries with
  | nil => simp [insert, find?]
  | cons entry rest ih =>
    obtain ⟨k', v⟩ := entry
    rw [insert]
    by_cases hkey : k'.same key = true
    · -- The key of the entry and the key that is set are one, so both or neither are `k`.
      have hsame : k'.same k = key.same k := by
        rw [Bool.eq_iff_iff, Scalar.same_iff, Scalar.same_iff, (Scalar.same_iff k' key).mp hkey]
      simp only [hkey, if_true, find?, hsame]
      split_ifs <;> rfl
    · simp only [hkey, Bool.false_eq_true, if_false, find?, ih]
      by_cases hk : k'.same k = true
      · have hne : key.same k = false := by
          rw [Bool.eq_false_iff]
          intro h
          rw [Scalar.same_iff] at hk h hkey
          exact hkey (hk.trans h.symm)
        simp [hk, hne]
      · simp [hk]

theorem keys_prefix_insert (entries : Entries) (key : Scalar) (value : Value) :
    entries.map Prod.fst <+: (insert key value entries).map Prod.fst := by
  induction entries with
  | nil => exact List.nil_prefix
  | cons entry rest ih =>
    obtain ⟨k, v⟩ := entry
    rw [insert]
    split_ifs
    · exact List.prefix_rfl
    · exact List.cons_prefix_cons.mpr ⟨rfl, ih⟩

theorem mem_of_mem_insert {entry : Scalar × Value} (h : entry ∈ insert key value entries) :
    entry.2 = value ∨ entry ∈ entries := by
  induction entries with
  | nil =>
    obtain rfl := List.mem_singleton.mp h
    exact .inl rfl
  | cons first rest ih =>
    obtain ⟨k, v⟩ := first
    rw [insert] at h
    split_ifs at h
    · rcases List.mem_cons.mp h with rfl | h
      · exact .inl rfl
      · exact .inr (List.mem_cons_of_mem _ h)
    · rcases List.mem_cons.mp h with rfl | h
      · exact .inr List.mem_cons_self
      · exact (ih h).imp_right (List.mem_cons_of_mem _)

/-! ## Overlaying -/

@[simp] theorem insertAll_nil (entries : Entries) : insertAll entries [] = entries := rfl

@[simp] theorem insertAll_cons (entries : Entries) (entry : Scalar × Value) (added : Entries) :
    insertAll entries (entry :: added) = insertAll (insert entry.1 entry.2 entries) added := rfl

/-- Keys keep their places. -/
theorem keys_prefix_insertAll (entries added : Entries) :
    entries.map Prod.fst <+: (insertAll entries added).map Prod.fst := by
  induction added generalizing entries with
  | nil => exact List.prefix_rfl
  | cons entry added ih => exact (keys_prefix_insert entries entry.1 entry.2).trans (ih _)

/-- Every value of an overlaid mapping comes from below or from above. -/
theorem exists_mem_of_mem_insertAll {k : Scalar} {v : Value} (h : (k, v) ∈ insertAll entries added) :
    (∃ k', (k', v) ∈ entries) ∨ ∃ k', (k', v) ∈ added := by
  induction added generalizing entries with
  | nil => exact .inl ⟨k, h⟩
  | cons first rest ih =>
    rcases ih h with ⟨k', hk'⟩ | ⟨k', hk'⟩
    · rcases mem_of_mem_insert hk' with rfl | hmem
      · exact .inr ⟨first.1, List.mem_cons_self⟩
      · exact .inl ⟨k', hmem⟩
    · exact .inr ⟨k', List.mem_cons_of_mem _ hk'⟩

theorem find?_eq_none (k : Scalar) (h : ∀ entry ∈ entries, entry.1.same k = false) :
    find? k entries = none := by
  induction entries with
  | nil => rfl
  | cons entry rest ih =>
    rw [find?, h entry List.mem_cons_self, if_neg Bool.false_ne_true,
      ih fun e he => h e (List.mem_cons_of_mem _ he)]

theorem HasDistinctKeys.find?_of_mem (h : entries.HasDistinctKeys) (hmem : (key, value) ∈ entries) :
    find? key entries = some value := by
  induction entries with
  | nil => simp at hmem
  | cons entry rest ih =>
    obtain ⟨k, v⟩ := entry
    obtain ⟨hfirst, hrest⟩ := List.pairwise_cons.mp h
    rw [find?]
    rcases List.mem_cons.mp hmem with heq | hmem
    · obtain ⟨rfl, rfl⟩ := Prod.mk.inj heq
      simp [Scalar.same_iff]
    · simp [hfirst _ hmem, ih hrest hmem]

/-- What lies above wins. -/
theorem find?_insertAll (h : added.HasDistinctKeys) (entries : Entries) (k : Scalar) :
    find? k (insertAll entries added) = (find? k added).or (find? k entries) := by
  induction added generalizing entries with
  | nil => rfl
  | cons entry added ih =>
    obtain ⟨hfirst, hrest⟩ := List.pairwise_cons.mp h
    rw [insertAll_cons, ih hrest, find?_insert, find?]
    by_cases hkey : entry.1.same k = true
    · have hnone : find? k added = none := find?_eq_none k fun e he => by
        rw [← hfirst e he, Bool.eq_iff_iff, Scalar.same_iff, Scalar.same_iff,
          (Scalar.same_iff _ _).mp hkey, eq_comm]
      simp [hkey, hnone]
    · simp [hkey]

theorem find?_insertAll_of_forall {k : Scalar} (h : ∀ entry ∈ added, entry.1.same k = false)
    (entries : Entries) : find? k (insertAll entries added) = find? k entries := by
  induction added generalizing entries with
  | nil => rfl
  | cons entry added ih =>
    rw [insertAll_cons, ih fun e he => h e (List.mem_cons_of_mem _ he), find?_insert,
      h entry List.mem_cons_self, if_neg Bool.false_ne_true]

end Entries
end Arazzo
