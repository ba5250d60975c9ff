import Mathlib.Data.List.Forall2

/-!
# Computations that may fail

A sequence of computations gives a value if and only if each of them does, and its errors are theirs. If
there is a state in them, the sequence keeps of it what each of them keeps.
-/

namespace Arazzo

variable {ε α β γ : Type}

theorem bind_ok_iff {x : Except ε α} {f : α → Except ε β} {b : β} :
    x >>= f = .ok b ↔ ∃ a, x = .ok a ∧ f a = .ok b := by
  cases x <;> simp [bind, Except.bind]

theorem bind_eq_ok {x : Except ε α} {f : α → Except ε β} {b : β} (h : x >>= f = .ok b) :
    ∃ a, x = .ok a ∧ f a = .ok b :=
  bind_ok_iff.mp h

theorem bind_error_iff {x : Except ε α} {f : α → Except ε β} {e : ε} :
    x >>= f = .error e ↔ x = .error e ∨ ∃ a, x = .ok a ∧ f a = .error e := by
  cases x <;> simp [bind, Except.bind]

theorem exists_bind_ok {x : Except ε α} {f : α → Except ε β} :
    (∃ b, x >>= f = .ok b) ↔ ∃ a, x = .ok a ∧ ∃ b, f a = .ok b := by
  cases x <;> simp [bind, Except.bind]

/-- Two results are not put together if the first one fails, or the second one behind it. -/
theorem both_error_iff {x : Except ε α} {y : Except ε β} {f : α → β → γ} {e : ε} :
    (x >>= fun a => y >>= fun b => .ok (f a b)) = .error e ↔
      x = .error e ∨ (∃ a, x = .ok a) ∧ y = .error e := by
  cases x <;> cases y <;> simp [bind, Except.bind]

theorem exists_map_ok {x : Except ε α} {f : α → β} : (∃ b, x.map f = .ok b) ↔ ∃ a, x = .ok a := by
  cases x <;> simp [Except.map]

theorem map_ok_iff {x : Except ε α} {f : α → β} {b : β} :
    x.map f = .ok b ↔ ∃ a, x = .ok a ∧ f a = b := by
  cases x <;> simp [Except.map]

theorem map_error_iff {x : Except ε α} {f : α → β} {e : ε} :
    x.map f = .error e ↔ x = .error e := by
  cases x <;> simp [Except.map]

theorem mapError_error_iff {x : Except ε α} {f : ε → β} {e : β} :
    x.mapError f = .error e ↔ ∃ e', x = .error e' ∧ f e' = e := by
  cases x <;> simp [Except.mapError]

theorem mapError_ok_iff {x : Except ε α} {f : ε → β} {a : α} :
    x.mapError f = .ok a ↔ x = .ok a := by
  cases x <;> simp [Except.mapError]

theorem exists_ok_of_toOption {x : Except ε α} {f : α → β} {b : β}
    (h : x.toOption.map f = some b) : ∃ a, x = .ok a ∧ f a = b := by
  cases x with
  | error e => cases h
  | ok a => exact ⟨a, rfl, Option.some.inj h⟩

theorem ok_of_toOption {x : Except ε α} {a : α} (h : x.toOption = some a) : x = .ok a := by
  cases x with
  | error e => cases h
  | ok a => exact congrArg Except.ok (Option.some.inj h)

theorem map_bind_congr {x : Except ε α} {f f' : α → Except ε β} {g : β → γ}
    (h : ∀ a, (f a).map g = (f' a).map g) : (x >>= f).map g = (x >>= f').map g := by
  cases x with
  | error e => rfl
  | ok a => exact h a

/-- A traversal that goes on only behind a value gives one if and only if no member stops it. -/
theorem exists_traverse_ok {traverse : List α → Except ε γ} {P : α → Prop}
    (nil : ∃ c, traverse [] = .ok c)
    (cons : ∀ a rest, (∃ c, traverse (a :: rest) = .ok c) ↔ P a ∧ ∃ c, traverse rest = .ok c)
    (as : List α) : (∃ c, traverse as = .ok c) ↔ ∀ a ∈ as, P a := by
  induction as with
  | nil => simpa using nil
  | cons a rest ih => rw [cons, ih, List.forall_mem_cons]

theorem exists_mapM_ok {f : α → Except ε β} {as : List α} :
    (∃ bs, as.mapM f = .ok bs) ↔ ∀ a ∈ as, ∃ b, f a = .ok b := by
  refine exists_traverse_ok (⟨[], rfl⟩ : ∃ bs, List.mapM f [] = .ok bs) (fun a rest => ?_) as
  rw [List.mapM_cons, exists_bind_ok]
  simp only [exists_bind_ok, pure, Except.pure, Except.ok.injEq, exists_eq', and_true]
  exact exists_and_right

/-- A traversal that collects what its members give gives it member by member. -/
theorem traverse_ok_iff {traverse : List α → Except ε (List β)} {R : α → β → Prop}
    (nil : traverse [] = .ok [])
    (cons : ∀ a rest bs, traverse (a :: rest) = .ok bs ↔
      ∃ b, R a b ∧ ∃ rest', traverse rest = .ok rest' ∧ b :: rest' = bs)
    {as : List α} {bs : List β} : traverse as = .ok bs ↔ List.Forall₂ R as bs := by
  induction as generalizing bs with
  | nil => simp [nil, eq_comm]
  | cons a rest ih =>
    simp only [cons, ih, List.forall₂_cons_left_iff, exists_and_left, @eq_comm _ bs]

/-- A traversal that keeps the keys of its members gives a value for each key. -/
theorem traverse_keyed_ok_iff {traverse : List (γ × α) → Except ε (List (γ × β))}
    {R : α → β → Prop} (nil : traverse [] = .ok [])
    (cons : ∀ entry rest bs, traverse (entry :: rest) = .ok bs ↔
      ∃ b, R entry.2 b ∧ ∃ rest', traverse rest = .ok rest' ∧ (entry.1, b) :: rest' = bs)
    {as : List (γ × α)} {bs : List (γ × β)} : traverse as = .ok bs ↔
      List.Forall₂ (fun entry found => found.1 = entry.1 ∧ R entry.2 found.2) as bs := by
  refine traverse_ok_iff nil fun entry rest bs => (cons entry rest bs).trans ⟨?_, ?_⟩
  · rintro ⟨b, hb, rest', hrest, rfl⟩
    exact ⟨(entry.1, b), ⟨rfl, hb⟩, rest', hrest, rfl⟩
  · rintro ⟨⟨k, b⟩, ⟨rfl, hb⟩, rest', hrest, rfl⟩
    exact ⟨b, hb, rest', hrest, rfl⟩

theorem mapM_ok_iff {f : α → Except ε β} {as : List α} {bs : List β} :
    as.mapM f = .ok bs ↔ List.Forall₂ (fun a b => f a = .ok b) as bs := by
  refine traverse_ok_iff ?_ fun a rest bs => ?_
  · rfl
  · rw [List.mapM_cons]
    simp only [bind_ok_iff, pure, Except.pure, Except.ok.injEq]

/-- The error of a traversal is that of the first member that has no value. -/
theorem traverse_error_iff {traverse : List α → Except ε γ} (run : α → Except ε β)
    (nil : ∃ c, traverse [] = .ok c)
    (cons : ∀ a rest e, traverse (a :: rest) = .error e ↔
      run a = .error e ∨ (∃ b, run a = .ok b) ∧ traverse rest = .error e)
    {as : List α} {e : ε} : traverse as = .error e ↔
      ∃ (i : ℕ) (a : α), as[i]? = some a ∧ run a = .error e ∧
        ∀ j < i, ∀ a', as[j]? = some a' → ∃ b, run a' = .ok b := by
  induction as with
  | nil =>
    obtain ⟨c, hc⟩ := nil
    simp [hc]
  | cons a rest ih =>
    rw [cons, ih]
    constructor
    · rintro (ha | ⟨hok, i, a', ha', herror, hbefore⟩)
      · exact ⟨0, a, rfl, ha, by simp⟩
      · refine ⟨i + 1, a', ha', herror, ?_⟩
        intro j hj other hother
        cases j with
        | zero => exact Option.some.inj hother ▸ hok
        | succ j => exact hbefore j (by omega) other hother
    · rintro ⟨i, a', ha', herror, hbefore⟩
      cases i with
      | zero => exact .inl (Option.some.inj ha' ▸ herror)
      | succ i =>
        refine .inr ⟨hbefore 0 (by omega) a rfl, i, a', ha', herror, ?_⟩
        intro j hj other hother
        exact hbefore (j + 1) (by omega) other hother

/-- A traversal stops at the first member that stops it. -/
theorem foldlM_error_iff {f : β → α → Except ε β} {as : List α} {b : β} {e : ε} :
    as.foldlM f b = .error e ↔ ∃ front a later c, as = front ++ a :: later ∧
      front.foldlM f b = .ok c ∧ f c a = .error e := by
  induction as generalizing b with
  | nil => simp [pure, Except.pure]
  | cons a rest ih =>
    rw [List.foldlM_cons, bind_error_iff]
    constructor
    · rintro (h | ⟨c, hc, h⟩)
      · exact ⟨[], a, rest, b, rfl, rfl, h⟩
      · obtain ⟨front, a', later, c', rfl, hfront, h⟩ := ih.mp h
        exact ⟨a :: front, a', later, c', rfl, by rw [List.foldlM_cons, hc]; exact hfront, h⟩
    · rintro ⟨front, a', later, c, heq, hfront, h⟩
      cases front with
      | nil =>
        obtain ⟨rfl, rfl⟩ := List.cons.inj heq
        obtain rfl := Except.ok.inj hfront
        exact .inl h
      | cons first front =>
        obtain ⟨rfl, rfl⟩ := List.cons.inj heq
        rw [List.foldlM_cons] at hfront
        obtain ⟨c', hc', hfront⟩ := bind_ok_iff.mp hfront
        exact .inr ⟨c', hc', ih.mpr ⟨front, a', later, c, rfl, hfront, h⟩⟩

/-- Two traversals agree if they treat every member alike. -/
theorem traverse_congr {traverse traverse' : List α → β} {P : α → Prop}
    (nil : traverse [] = traverse' [])
    (cons : ∀ a rest, P a → traverse rest = traverse' rest →
      traverse (a :: rest) = traverse' (a :: rest))
    {as : List α} (h : ∀ a ∈ as, P a) : traverse as = traverse' as := by
  induction as with
  | nil => exact nil
  | cons a rest ih =>
    obtain ⟨ha, hrest⟩ := List.forall_mem_cons.mp h
    exact cons a rest ha (ih hrest)

theorem exists_mem_of_forall₂ {R : α → β → Prop} {as : List α} {bs : List β}
    (h : List.Forall₂ R as bs) {b : β} (hb : b ∈ bs) : ∃ a ∈ as, R a b := by
  induction h with
  | nil => simp at hb
  | cons hR _ ih =>
    rcases List.mem_cons.mp hb with rfl | hb
    · exact ⟨_, List.mem_cons_self, hR⟩
    · obtain ⟨a, ha, hab⟩ := ih hb
      exact ⟨a, List.mem_cons_of_mem _ ha, hab⟩

theorem getElem?_of_forall₂ {R : α → β → Prop} {as : List α} {bs : List β}
    (h : List.Forall₂ R as bs) {i : Nat} {a : α} (ha : as[i]? = some a) :
    ∃ b, bs[i]? = some b ∧ R a b := by
  induction h generalizing i with
  | nil => simp at ha
  | @cons a' b' _ _ hR _ ih =>
    cases i with
    | zero =>
      obtain rfl := Option.some.inj ha
      exact ⟨b', rfl, hR⟩
    | succ i => exact ih ha

theorem forall₂_trans {R : α → β → Prop} {S : β → γ → Prop} {T : α → γ → Prop} {as : List α}
    {bs : List β} {cs : List γ} (hR : List.Forall₂ R as bs) (hS : List.Forall₂ S bs cs)
    (h : ∀ a b c, R a b → S b c → T a c) : List.Forall₂ T as cs := by
  induction hR generalizing cs with
  | nil =>
    cases hS
    exact .nil
  | cons hab _ ih =>
    cases hS with
    | cons hbc hrest => exact .cons (h _ _ _ hab hbc) (ih hrest)

theorem forall₂_zip {R : α → β → Prop} {as : List α} {bs : List β} (h : List.Forall₂ R as bs)
    (f : α → γ) : List.Forall₂ (fun a c => c.1 = f a ∧ R a c.2) as ((as.map f).zip bs) := by
  induction h with
  | nil => exact .nil
  | cons hR _ ih => exact .cons ⟨rfl, hR⟩ ih

theorem exists_getLast?_of_forall₂ {R : α → β → Prop} {as : List α} {bs : List β}
    (h : List.Forall₂ R as bs) {b : β} (hb : bs.getLast? = some b) :
    ∃ a, as.getLast? = some a ∧ R a b := by
  rw [List.getLast?_eq_head?_reverse] at hb ⊢
  have hreverse := List.forall₂_reverse_iff.mpr h
  obtain ⟨rest, hrest⟩ := List.head?_eq_some_iff.mp hb
  rw [hrest] at hreverse
  obtain ⟨a, front, hR, -, has⟩ := List.forall₂_cons_right_iff.mp hreverse
  exact ⟨a, by rw [has, List.head?_cons], hR⟩

/-- All errors of a computation are of a kind. -/
def ErrorsIn (K : ε → Prop) (x : Except ε α) : Prop := ∀ e, x = .error e → K e

namespace ErrorsIn

variable {K : ε → Prop}

theorem ok (a : α) : ErrorsIn K (.ok a : Except ε α) := by
  intro e h
  cases h

theorem error {e : ε} (h : K e) : ErrorsIn K (.error e : Except ε α) := by
  intro e' heq
  cases heq
  exact h

theorem bind {x : Except ε α} {f : α → Except ε β} (hx : ErrorsIn K x)
    (hf : ∀ a, ErrorsIn K (f a)) : ErrorsIn K (x >>= f) := by
  intro e h
  rcases bind_error_iff.mp h with h | ⟨a, -, h⟩
  · exact hx e h
  · exact hf a e h

theorem map {x : Except ε α} (hx : ErrorsIn K x) (f : α → β) : ErrorsIn K (x.map f) := by
  cases x with
  | error e => exact error (hx e rfl)
  | ok a => exact ok (f a)

theorem mapError {δ : Type} {L : δ → Prop} {x : Except ε α} {g : ε → δ}
    (hx : ErrorsIn (fun e => L (g e)) x) : ErrorsIn L (x.mapError g) := by
  cases x with
  | error e => exact error (hx e rfl)
  | ok a => exact ok a

theorem mono {L : ε → Prop} {x : Except ε α} (hx : ErrorsIn K x) (h : ∀ e, K e → L e) :
    ErrorsIn L x :=
  fun e he => h e (hx e he)

/-- A traversal whose members bring no other errors has no other errors. -/
theorem traverse {P : α → Prop} (go : List α → Except ε γ) (nil : ErrorsIn K (go []))
    (cons : ∀ a rest, P a → ErrorsIn K (go rest) → ErrorsIn K (go (a :: rest))) {as : List α}
    (h : ∀ a ∈ as, P a) : ErrorsIn K (go as) := by
  induction as with
  | nil => exact nil
  | cons a rest ih =>
    obtain ⟨ha, hrest⟩ := List.forall_mem_cons.mp h
    exact cons a rest ha (ih hrest)

theorem mapM {f : α → Except ε β} {as : List α} (h : ∀ a ∈ as, ErrorsIn K (f a)) :
    ErrorsIn K (as.mapM f) := by
  refine traverse (List.mapM f) (ok []) (fun a rest ha hrest => ?_) h
  rw [List.mapM_cons]
  exact ha.bind fun b => hrest.bind fun bs => ok (b :: bs)

theorem foldlM {f : β → α → Except ε β} {as : List α} (h : ∀ a ∈ as, ∀ b, ErrorsIn K (f b a))
    (b : β) : ErrorsIn K (as.foldlM f b) := by
  induction as generalizing b with
  | nil => exact ok b
  | cons a rest ih =>
    rw [List.foldlM_cons]
    obtain ⟨ha, hrest⟩ := List.forall_mem_cons.mp h
    exact (ha b).bind fun next => ih hrest next

end ErrorsIn

/-! ## Values and errors of a kind -/

/-- A computation ends in a value of a kind or in an error of a kind. -/
def EndsIn (P : α → Prop) (K : ε → Prop) : Except ε α → Prop
  | .ok a => P a
  | .error e => K e

namespace EndsIn

variable {K : ε → Prop} {P : α → Prop} {Q : β → Prop} {x : Except ε α}

theorem bind {f : α → Except ε β} (hx : EndsIn P K x) (hf : ∀ a, P a → EndsIn Q K (f a)) :
    EndsIn Q K (x >>= f) := by
  cases x with
  | error e => exact hx
  | ok a => exact hf a hx

theorem map {f : α → β} (hx : EndsIn P K x) (hf : ∀ a, P a → Q (f a)) :
    EndsIn Q K (x.map f) := by
  cases x with
  | error e => exact hx
  | ok a => exact hf a hx

theorem mono {P' : α → Prop} {K' : ε → Prop} (hx : EndsIn P K x) (h : ∀ a, P a → P' a)
    (hK : ∀ e, K e → K' e) : EndsIn P' K' x := by
  cases x with
  | error e => exact hK e hx
  | ok a => exact h a hx

theorem ite {y : Except ε α} {c : Prop} [Decidable c] (hx : EndsIn P K x) (hy : EndsIn P K y) :
    EndsIn P K (if c then x else y) := by
  split
  · exact hx
  · exact hy

theorem errorsIn (hx : EndsIn P K x) : ErrorsIn K x := by
  rintro e rfl
  exact hx

theorem of_ok (hx : EndsIn P K x) {a : α} (h : x = .ok a) : P a := by
  subst h
  exact hx

end EndsIn

theorem ErrorsIn.endsIn {K : ε → Prop} {x : Except ε α} (h : ErrorsIn K x) :
    EndsIn (fun _ => True) K x := by
  cases x with
  | error e => exact h e rfl
  | ok a => trivial

/-! ## Computations with a state -/

/-- A computation with a state keeps an invariant, and its results and errors are of a kind. -/
def Maintains {σ : Type} (I : σ → Prop) (K : ε → Prop) (P : α → Prop)
    (m : StateT σ (Except ε) α) : Prop :=
  ∀ s, I s → EndsIn (fun p => I p.2 ∧ P p.1) K (m s)

namespace Maintains

variable {σ : Type} {I : σ → Prop} {K : ε → Prop} {P : α → Prop} {Q : β → Prop}
  {m : StateT σ (Except ε) α}

theorem pure {a : α} (h : P a) : Maintains I K P (pure a : StateT σ (Except ε) α) :=
  fun _ hs => ⟨hs, h⟩

theorem fail {e : ε} (h : K e) : Maintains I K P (fun _ => .error e : StateT σ (Except ε) α) :=
  fun _ _ => h

theorem bind {f : α → StateT σ (Except ε) β} (hm : Maintains I K P m)
    (hf : ∀ a, P a → Maintains I K Q (f a)) : Maintains I K Q (m >>= f) := by
  intro s hs
  exact (hm s hs).bind fun p hp => hf p.1 hp.2 p.2 hp.1

theorem map {f : α → β} (hm : Maintains I K P m) (h : ∀ a, P a → Q (f a)) :
    Maintains I K Q (f <$> m) :=
  hm.bind fun a ha => pure (h a ha)

theorem mono {P' : α → Prop} (hm : Maintains I K P m) (h : ∀ a, P a → P' a) :
    Maintains I K P' m :=
  fun s hs => (hm s hs).mono (fun p hp => ⟨hp.1, h p.1 hp.2⟩) fun _ he => he

theorem get : Maintains I K I (get : StateT σ (Except ε) σ) :=
  fun _ hs => ⟨hs, hs⟩

theorem modify {f : σ → σ} (h : ∀ s, I s → I (f s)) :
    Maintains I K (fun _ => True) (modify f : StateT σ (Except ε) Unit) :=
  fun s hs => ⟨h s hs, trivial⟩

theorem ite {c : Prop} [Decidable c] {m' : StateT σ (Except ε) α} (hm : c → Maintains I K P m)
    (hm' : ¬ c → Maintains I K P m') : Maintains I K P (if c then m else m') := by
  split
  · next hc => exact hm hc
  · next hc => exact hm' hc

theorem mapM {f : α → StateT σ (Except ε) β} {as : List α} (h : ∀ a ∈ as, Maintains I K Q (f a)) :
    Maintains I K (fun bs => ∀ b ∈ bs, Q b) (as.mapM f) := by
  induction as with
  | nil => exact pure (List.forall_mem_nil Q)
  | cons a rest ih =>
    obtain ⟨ha, hrest⟩ := List.forall_mem_cons.mp h
    rw [List.mapM_cons]
    exact ha.bind fun b hb => (ih hrest).bind fun bs hbs => pure (List.forall_mem_cons.mpr ⟨hb, hbs⟩)

theorem forM {f : α → StateT σ (Except ε) PUnit} {as : List α}
    (h : ∀ a ∈ as, Maintains I K (fun _ => True) (f a)) :
    Maintains I K (fun _ => True) (as.forM f) := by
  induction as with
  | nil => exact pure trivial
  | cons a rest ih =>
    obtain ⟨ha, hrest⟩ := List.forall_mem_cons.mp h
    change Maintains I K _ (f a >>= fun _ => rest.forM f)
    exact ha.bind fun _ _ => ih hrest

end Maintains

end Arazzo
