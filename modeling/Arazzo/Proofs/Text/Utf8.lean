import Arazzo.Text.Encoding
import Mathlib.Tactic.SplitIfs

/-!
# Reading UTF-8 back

The reader of UTF-8 is a machine that owes bytes. The bytes of one character take it from where it
owes nothing back to there, past that character, so the bytes of a text read as the text, whatever
stands behind them. Nothing else is read: each sequence that the machine passes is the bytes of one
character.
-/

namespace Arazzo
namespace Text

/-- The number of a character is that of no half and within the range of code points. -/
theorem toNat_scalar (c : Char) : c.toNat < 0xD800 ∨ 0xE000 ≤ c.toNat ∧ c.toNat < 0x110000 := by
  have hvalid : c.toNat < 0xD800 ∨ 0xDFFF < c.toNat ∧ c.toNat < 0x110000 := c.valid
  omega

/-- No character of ASCII stands for a half. -/
theorem isEncodable_of_ascii {cs : List Char} (h : ∀ c ∈ cs, c.toNat < 0x80) :
    isEncodable cs = true := by
  simp only [isEncodable, Bool.not_eq_true', List.any_eq_false]
  intro c hc
  have hlow : ¬ halfShift ≤ c.toNat := by
    rw [halfShift]
    have := h c hc
    omega
  simp [isLent, hlow]

theorem isEncodable_of_subset {cs ds : List Char} (h : cs ⊆ ds) (hds : isEncodable ds = true) :
    isEncodable cs = true := by
  simp only [isEncodable, Bool.not_eq_true', List.any_eq_false] at hds ⊢
  exact fun c hc => hds c (h hc)

/-! ## One byte -/

theorem toNat_ofNat_of_lt {n : Nat} (h : n < 256) : (UInt8.ofNat n).toNat = n := by
  rw [UInt8.toNat_ofNat']
  omega

theorem utf8Items_char {n : Nat} {c : Char} (hbyte : n < 256)
    (h : utf8First n = some (.inl c)) (bs : List UInt8) :
    utf8Items none (UInt8.ofNat n :: bs) = some c :: utf8Items none bs := by
  simp only [utf8Items, toNat_ofNat_of_lt hbyte, h]

theorem utf8Items_lead {n : Nat} {p : Pending} (hbyte : n < 256)
    (h : utf8First n = some (.inr p)) (bs : List UInt8) :
    utf8Items none (UInt8.ofNat n :: bs) = utf8Items (some p) bs := by
  simp only [utf8Items, toNat_ofNat_of_lt hbyte, h]

/-- A byte behind the first one holds six bits. -/
theorem utf8Items_tail {owed low high n : Nat} (hlow : low ≤ 0x80 + n % 64)
    (hhigh : 0x80 + n % 64 ≤ high) (bits : Nat) (bs : List UInt8) :
    utf8Items (some ⟨owed + 2, low, high, bits⟩) (UInt8.ofNat (0x80 + n % 64) :: bs) =
      utf8Items (some ⟨owed + 1, 0x80, 0xBF, bits * 64 + n % 64⟩) bs := by
  have hbyte : (UInt8.ofNat (0x80 + n % 64)).toNat = 0x80 + n % 64 := toNat_ofNat_of_lt (by omega)
  have hbits : (0x80 + n % 64) % 64 = n % 64 := by omega
  rw [utf8Items, hbyte, if_pos ⟨hlow, hhigh⟩, if_neg (show ¬ owed + 2 ≤ 1 by omega),
    hbits]
  rfl

theorem utf8Items_last {low high n : Nat} (hlow : low ≤ 0x80 + n % 64)
    (hhigh : 0x80 + n % 64 ≤ high) (bits : Nat) (bs : List UInt8) :
    utf8Items (some ⟨1, low, high, bits⟩) (UInt8.ofNat (0x80 + n % 64) :: bs) =
      some (Char.ofNat (bits * 64 + n % 64)) :: utf8Items none bs := by
  have hbyte : (UInt8.ofNat (0x80 + n % 64)).toNat = 0x80 + n % 64 := toNat_ofNat_of_lt (by omega)
  have hbits : (0x80 + n % 64) % 64 = n % 64 := by omega
  rw [utf8Items, hbyte, if_pos ⟨hlow, hhigh⟩, if_pos (Nat.le_refl 1), hbits]

theorem utf8First_ascii {n : Nat} (h : n < 0x80) : utf8First n = some (.inl (Char.ofNat n)) := by
  rw [utf8First, if_pos h]

theorem utf8First_two {n : Nat} (hlow : 0xC2 ≤ n) (hhigh : n < 0xE0) :
    utf8First n = some (.inr ⟨1, 0x80, 0xBF, n - 0xC0⟩) := by
  rw [utf8First, if_neg (by omega), if_neg (by omega), if_pos hhigh]

/-- Behind some first bytes fewer second ones are possible: the others spell a number that has a
shorter form, or that of a half. -/
theorem utf8First_three {n : Nat} (hlow : 0xE0 ≤ n) (hhigh : n < 0xF0) :
    utf8First n = some (.inr ⟨2, if n = 0xE0 then 0xA0 else 0x80,
      if n = 0xED then 0x9F else 0xBF, n - 0xE0⟩) := by
  rw [utf8First, if_neg (by omega), if_neg (by omega), if_neg (by omega)]
  by_cases hfirst : n = 0xE0
  · simp [hfirst]
  · by_cases hhalves : n = 0xED
    · simp [hhalves]
    · simp [hfirst, hhalves, hhigh]

theorem utf8First_four {n : Nat} (hlow : 0xF0 ≤ n) (hhigh : n ≤ 0xF4) :
    utf8First n = some (.inr ⟨3, if n = 0xF0 then 0x90 else 0x80,
      if n = 0xF4 then 0x8F else 0xBF, n - 0xF0⟩) := by
  rw [utf8First, if_neg (by omega), if_neg (by omega), if_neg (by omega), if_neg (by omega),
    if_neg (by omega), if_neg (by omega)]
  by_cases hfirst : n = 0xF0
  · simp [hfirst]
  · by_cases hlast : n = 0xF4
    · simp [hlast]
    · simp [hfirst, hlast, show n < 0xF4 by omega]

/-! ## One character -/

/-- The bytes of a character are passed over, and nothing is owed behind them. -/
theorem utf8Items_utf8Char (c : Char) (bs : List UInt8) :
    utf8Items none (utf8Char c ++ bs) = some c :: utf8Items none bs := by
  have hscalar := toNat_scalar c
  obtain ⟨n, hn⟩ : ∃ n, c.toNat = n := ⟨_, rfl⟩
  have hc : c = Char.ofNat n := by rw [← hn, Char.ofNat_toNat]
  simp only [utf8Char, hn, Nat.shiftRight_eq_div_pow] at hscalar ⊢
  rw [hc]
  split_ifs with hone htwo hthree
  · exact utf8Items_char (by omega) (utf8First_ascii hone) bs
  · have hbits : (0xC0 + n / 64 - 0xC0) * 64 + n / 2 ^ 0 % 64 = n := by omega
    simp only [List.cons_append, List.nil_append]
    rw [utf8Items_lead (by omega) (utf8First_two (by omega) (by omega)),
      utf8Items_last (by omega) (by omega), hbits]
  · have hbits : ((0xE0 + n / 4096 - 0xE0) * 64 + n / 2 ^ 6 % 64) * 64 + n / 2 ^ 0 % 64 = n := by
      omega
    simp only [List.cons_append, List.nil_append]
    rw [utf8Items_lead (by omega) (utf8First_three (by omega) (by omega)),
      utf8Items_tail (by split_ifs <;> omega) (by split_ifs <;> omega),
      utf8Items_last (by omega) (by omega), hbits]
  · have hbits : (((0xF0 + n / 262144 - 0xF0) * 64 + n / 2 ^ 12 % 64) * 64 +
        n / 2 ^ 6 % 64) * 64 + n / 2 ^ 0 % 64 = n := by omega
    simp only [List.cons_append, List.nil_append]
    rw [utf8Items_lead (by omega) (utf8First_four (by omega) (by omega)),
      utf8Items_tail (by split_ifs <;> omega) (by split_ifs <;> omega),
      utf8Items_tail (by omega) (by omega), utf8Items_last (by omega) (by omega), hbits]

/-! ## A text -/

theorem utf8Items_utf8 (cs : List Char) (bs : List UInt8) :
    utf8Items none (utf8 cs ++ bs) = cs.map some ++ utf8Items none bs := by
  induction cs with
  | nil => rfl
  | cons c cs ih =>
    rw [utf8, List.flatMap_cons, List.append_assoc, utf8Items_utf8Char, ← utf8, ih]
    rfl

theorem utf8Items_eq (cs : List Char) : utf8Items none (utf8 cs) = cs.map some := by
  have hitems := utf8Items_utf8 cs []
  simpa [utf8Items] using hitems

/-- The bytes of a text read as the text. -/
theorem readUtf8_utf8 (cs : List Char) : readUtf8 (utf8 cs) = cs := by
  rw [readUtf8, utf8Items_eq, List.map_map]
  exact List.map_id cs

/-- Nothing in the bytes of a text is malformed. -/
theorem readUtf8?_utf8 (cs : List Char) : readUtf8? (utf8 cs) = some cs := by
  rw [readUtf8?, utf8Items_eq]
  induction cs with
  | nil => rfl
  | cons c cs ih => simp [List.mapM_cons, ih]

/-! ## Bytes that are read -/

theorem eq_map_some_of_mapM {α : Type} {items : List (Option α)} {as : List α}
    (h : items.mapM id = some as) : items = as.map some := by
  induction items generalizing as with
  | nil =>
    cases h
    rfl
  | cons item rest ih =>
    rw [List.mapM_cons] at h
    cases item with
    | none => cases h
    | some a =>
      cases hrest : rest.mapM id with
      | none =>
        rw [hrest] at h
        cases h
      | some found =>
        rw [hrest] at h
        cases h
        rw [ih hrest, List.map_cons]

section
variable {low high bits : Nat} {bs : List UInt8} {cs : List Char}

/-- The byte that ends a character. -/
theorem exists_of_utf8Items_last (h : utf8Items (some ⟨1, low, high, bits⟩) bs = cs.map some) :
    ∃ b rest cs', bs = b :: rest ∧ low ≤ b.toNat ∧ b.toNat ≤ high ∧
      cs = Char.ofNat (bits * 64 + b.toNat % 64) :: cs' ∧ utf8Items none rest = cs'.map some := by
  cases bs with
  | nil => cases cs <;> simp [utf8Items] at h
  | cons b rest =>
    rw [utf8Items] at h
    dsimp only at h
    rw [if_pos (Nat.le_refl 1)] at h
    split_ifs at h with hin
    · cases cs with
      | nil => cases h
      | cons c cs' =>
        obtain ⟨hc, hrest⟩ := List.cons.inj h
        exact ⟨b, rest, cs', rfl, hin.1, hin.2, by rw [Option.some.inj hc], hrest⟩
    · cases cs <;> cases h

/-- A byte inside a character. -/
theorem exists_of_utf8Items_tail {owed : Nat}
    (h : utf8Items (some ⟨owed + 2, low, high, bits⟩) bs = cs.map some) :
    ∃ b rest, bs = b :: rest ∧ low ≤ b.toNat ∧ b.toNat ≤ high ∧
      utf8Items (some ⟨owed + 1, 0x80, 0xBF, bits * 64 + b.toNat % 64⟩) rest = cs.map some := by
  cases bs with
  | nil => cases cs <;> simp [utf8Items] at h
  | cons b rest =>
    rw [utf8Items] at h
    dsimp only at h
    rw [if_neg (show ¬ owed + 2 ≤ 1 by omega)] at h
    split_ifs at h with hin
    · exact ⟨b, rest, rfl, hin.1, hin.2, h⟩
    · cases cs <;> cases h

end

theorem toNat_ofNat_of_isValid {n : Nat} (h : n < 0xD800 ∨ 0xE000 ≤ n ∧ n < 0x110000) :
    (Char.ofNat n).toNat = n := by
  have hvalid : n.isValidChar := h.imp_right fun h => ⟨by omega, h.2⟩
  rw [Char.ofNat, dif_pos hvalid]
  rfl

theorem ofNat_eq {b : UInt8} {n : Nat} (h : n = b.toNat) : UInt8.ofNat n = b := by
  rw [h, UInt8.ofNat_toNat]

/-- What a first byte can be. -/
theorem utf8First_cases (n : Nat) : utf8First n = none ∨
    n < 0x80 ∧ utf8First n = some (.inl (Char.ofNat n)) ∨
    (0xC2 ≤ n ∧ n < 0xE0) ∧ utf8First n = some (.inr ⟨1, 0x80, 0xBF, n - 0xC0⟩) ∨
    (0xE0 ≤ n ∧ n < 0xF0) ∧ utf8First n = some (.inr ⟨2, if n = 0xE0 then 0xA0 else 0x80,
      if n = 0xED then 0x9F else 0xBF, n - 0xE0⟩) ∨
    (0xF0 ≤ n ∧ n ≤ 0xF4) ∧ utf8First n = some (.inr ⟨3, if n = 0xF0 then 0x90 else 0x80,
      if n = 0xF4 then 0x8F else 0xBF, n - 0xF0⟩) := by
  by_cases hone : n < 0x80
  · exact .inr (.inl ⟨hone, utf8First_ascii hone⟩)
  by_cases hnone : n < 0xC2
  · exact .inl (by rw [utf8First, if_neg hone, if_pos hnone])
  by_cases htwo : n < 0xE0
  · exact .inr (.inr (.inl ⟨⟨by omega, htwo⟩, utf8First_two (by omega) htwo⟩))
  by_cases hthree : n < 0xF0
  · exact .inr (.inr (.inr (.inl ⟨⟨by omega, hthree⟩, utf8First_three (by omega) hthree⟩)))
  by_cases hfour : n ≤ 0xF4
  · exact .inr (.inr (.inr (.inr ⟨⟨by omega, hfour⟩, utf8First_four (by omega) hfour⟩)))
  · left
    rw [utf8First, if_neg hone, if_neg hnone, if_neg htwo, if_neg (by omega), if_neg (by omega),
      if_neg hthree, if_neg (by omega), if_neg (by omega), if_neg (by omega)]

/-- The bytes of the character that a first byte and those behind it spell. -/
theorem utf8Char_two {b b₁ : UInt8} (hb : 0xC2 ≤ b.toNat ∧ b.toNat < 0xE0)
    (hlow : 0x80 ≤ b₁.toNat) (hhigh : b₁.toNat ≤ 0xBF) :
    utf8Char (Char.ofNat ((b.toNat - 0xC0) * 64 + b₁.toNat % 64)) = [b, b₁] := by
  rw [utf8Char, toNat_ofNat_of_isValid (by omega)]
  simp only [Nat.shiftRight_eq_div_pow]
  rw [if_neg (by omega), if_pos (by omega), ofNat_eq (b := b) (by omega),
    ofNat_eq (b := b₁) (by omega)]

theorem utf8Char_three {b b₁ b₂ : UInt8} (hb : 0xE0 ≤ b.toNat ∧ b.toNat < 0xF0)
    (hlow : (if b.toNat = 0xE0 then 0xA0 else 0x80) ≤ b₁.toNat)
    (hhigh : b₁.toNat ≤ if b.toNat = 0xED then 0x9F else 0xBF)
    (hlow₂ : 0x80 ≤ b₂.toNat) (hhigh₂ : b₂.toNat ≤ 0xBF) :
    utf8Char (Char.ofNat (((b.toNat - 0xE0) * 64 + b₁.toNat % 64) * 64 + b₂.toNat % 64)) =
      [b, b₁, b₂] := by
  have hbounds : (b.toNat = 0xE0 → 0xA0 ≤ b₁.toNat) ∧ (b.toNat = 0xED → b₁.toNat ≤ 0x9F) ∧
      0x80 ≤ b₁.toNat ∧ b₁.toNat ≤ 0xBF := by
    split_ifs at hlow hhigh <;> omega
  rw [utf8Char, toNat_ofNat_of_isValid (by omega)]
  simp only [Nat.shiftRight_eq_div_pow]
  rw [if_neg (by omega), if_neg (by omega), if_pos (by omega), ofNat_eq (b := b) (by omega),
    ofNat_eq (b := b₁) (by omega), ofNat_eq (b := b₂) (by omega)]

theorem utf8Char_four {b b₁ b₂ b₃ : UInt8} (hb : 0xF0 ≤ b.toNat ∧ b.toNat ≤ 0xF4)
    (hlow : (if b.toNat = 0xF0 then 0x90 else 0x80) ≤ b₁.toNat)
    (hhigh : b₁.toNat ≤ if b.toNat = 0xF4 then 0x8F else 0xBF)
    (hlow₂ : 0x80 ≤ b₂.toNat) (hhigh₂ : b₂.toNat ≤ 0xBF)
    (hlow₃ : 0x80 ≤ b₃.toNat) (hhigh₃ : b₃.toNat ≤ 0xBF) :
    utf8Char (Char.ofNat ((((b.toNat - 0xF0) * 64 + b₁.toNat % 64) * 64 + b₂.toNat % 64) * 64 +
      b₃.toNat % 64)) = [b, b₁, b₂, b₃] := by
  have hbounds : (b.toNat = 0xF0 → 0x90 ≤ b₁.toNat) ∧ (b.toNat = 0xF4 → b₁.toNat ≤ 0x8F) ∧
      0x80 ≤ b₁.toNat ∧ b₁.toNat ≤ 0xBF := by
    split_ifs at hlow hhigh <;> omega
  rw [utf8Char, toNat_ofNat_of_isValid (by omega)]
  simp only [Nat.shiftRight_eq_div_pow]
  rw [if_neg (by omega), if_neg (by omega), if_neg (by omega), ofNat_eq (b := b) (by omega),
    ofNat_eq (b := b₁) (by omega), ofNat_eq (b := b₂) (by omega), ofNat_eq (b := b₃) (by omega)]

/-- Bytes that read as a text are the bytes of the text. -/
theorem utf8_of_utf8Items {bs : List UInt8} {cs : List Char}
    (h : utf8Items none bs = cs.map some) : utf8 cs = bs := by
  induction hlength : bs.length using Nat.strongRecOn generalizing bs cs with
  | ind length ih =>
    cases bs with
    | nil =>
      cases cs with
      | nil => rfl
      | cons c cs => cases h
    | cons b bs =>
      have hcons : ∀ (rest : List UInt8) (cs : List Char), rest.length ≤ bs.length →
          utf8Items none rest = cs.map some → ∀ c front, utf8Char c = front →
          front ++ rest = b :: bs → utf8 (c :: cs) = b :: bs := by
        rintro rest cs hle hrest c front rfl hbytes
        rw [← hbytes, utf8, List.flatMap_cons, ← utf8,
          ih rest.length (by rw [← hlength, List.length_cons]; omega) hrest rfl]
      rw [utf8Items] at h
      dsimp only at h
      rcases utf8First_cases b.toNat with hfirst | ⟨hone, hfirst⟩ | ⟨htwo, hfirst⟩ |
        ⟨hthree, hfirst⟩ | ⟨hfour, hfirst⟩
      · rw [hfirst] at h
        cases cs <;> cases h
      · rw [hfirst] at h
        cases cs with
        | nil => cases h
        | cons c cs =>
          obtain ⟨hc, hrest⟩ := List.cons.inj h
          obtain rfl := Option.some.inj hc
          refine hcons bs cs (Nat.le_refl _) hrest _ [b] ?_ rfl
          rw [utf8Char, toNat_ofNat_of_isValid (by omega), if_pos hone, UInt8.ofNat_toNat]
      · rw [hfirst] at h
        obtain ⟨b₁, rest, cs', rfl, hlow, hhigh, rfl, hrest⟩ := exists_of_utf8Items_last h
        exact hcons rest cs' (by simp) hrest _ _ (utf8Char_two htwo hlow hhigh) rfl
      · rw [hfirst] at h
        obtain ⟨b₁, rest₁, rfl, hlow, hhigh, hrest₁⟩ := exists_of_utf8Items_tail h
        obtain ⟨b₂, rest, cs', rfl, hlow₂, hhigh₂, rfl, hrest⟩ := exists_of_utf8Items_last hrest₁
        exact hcons rest cs' (by simp; omega) hrest _ _
          (utf8Char_three hthree hlow hhigh hlow₂ hhigh₂) rfl
      · rw [hfirst] at h
        obtain ⟨b₁, rest₁, rfl, hlow, hhigh, hrest₁⟩ := exists_of_utf8Items_tail h
        obtain ⟨b₂, rest₂, rfl, hlow₂, hhigh₂, hrest₂⟩ := exists_of_utf8Items_tail hrest₁
        obtain ⟨b₃, rest, cs', rfl, hlow₃, hhigh₃, rfl, hrest⟩ := exists_of_utf8Items_last hrest₂
        exact hcons rest cs' (by simp; omega) hrest _ _
          (utf8Char_four hfour hlow hhigh hlow₂ hhigh₂ hlow₃ hhigh₃) rfl

/-- Exactly the bytes of texts are read. -/
theorem readUtf8?_eq_some_iff {bytes : List UInt8} {cs : List Char} :
    readUtf8? bytes = some cs ↔ utf8 cs = bytes := by
  constructor
  · intro h
    exact utf8_of_utf8Items (eq_map_some_of_mapM h)
  · rintro rfl
    exact readUtf8?_utf8 cs

/-! ## Bytes of ASCII -/

/-- Characters of printable ASCII. -/
def PrintableAscii (cs : List Char) : Prop := ∀ c ∈ cs, 0x20 ≤ c.toNat ∧ c.toNat < 0x7F

instance (cs : List Char) : Decidable (PrintableAscii cs) :=
  List.decidableBAll (fun c : Char => 0x20 ≤ c.toNat ∧ c.toNat < 0x7F) cs

@[simp] theorem printableAscii_nil : PrintableAscii [] := List.forall_mem_nil _

@[simp] theorem printableAscii_cons {c : Char} {cs : List Char} :
    PrintableAscii (c :: cs) ↔ (0x20 ≤ c.toNat ∧ c.toNat < 0x7F) ∧ PrintableAscii cs :=
  List.forall_mem_cons

@[simp] theorem printableAscii_append {cs ds : List Char} :
    PrintableAscii (cs ++ ds) ↔ PrintableAscii cs ∧ PrintableAscii ds :=
  List.forall_mem_append

theorem PrintableAscii.of_subset {cs ds : List Char} (h : PrintableAscii ds) (hsub : cs ⊆ ds) :
    PrintableAscii cs :=
  fun c hc => h c (hsub hc)

theorem utf8_of_printableAscii {cs : List Char} (h : PrintableAscii cs) {b : UInt8}
    (hb : b ∈ utf8 cs) : 0x20 ≤ b.toNat ∧ b.toNat < 0x7F := by
  obtain ⟨c, hc, hb⟩ := List.mem_flatMap.mp hb
  obtain ⟨hlow, hhigh⟩ := h c hc
  rw [utf8Char, if_pos (by omega), List.mem_singleton] at hb
  rw [hb, toNat_ofNat_of_lt (by omega)]
  exact ⟨hlow, hhigh⟩

/-- Without a byte that a half could start with the bytes are UTF-8. -/
theorem readWithHalves?_go_eq {bytes : List UInt8} (h : ∀ b ∈ bytes, b.toNat < 0x7F)
    (before : List UInt8) :
    readWithHalves?.go before bytes = readUtf8? (before.reverse ++ bytes) := by
  induction bytes generalizing before with
  | nil => rfl
  | cons a bytes ih =>
    obtain ⟨ha, hmore⟩ := List.forall_mem_cons.mp h
    rcases bytes with _ | ⟨b, _ | ⟨c, rest⟩⟩
    · rfl
    · rfl
    · have hne : ¬ (a = 0xED ∧ 0xA0 ≤ b ∧ b ≤ 0xBF ∧ 0x80 ≤ c ∧ c ≤ 0xBF) := by
        rintro ⟨rfl, -⟩
        revert ha
        decide
      rw [readWithHalves?.go, if_neg hne, ih hmore, List.reverse_cons, List.append_assoc]
      rfl

/-- No byte order mark is printable. -/
theorem exists_not_printable_of_mem_marks {mark : List UInt8 × (List UInt8 → Option (List Char))}
    (h : mark ∈ marks) : ∃ b ∈ mark.1, 0x7F ≤ b.toNat := by
  simp only [marks, List.mem_cons, List.not_mem_nil, or_false] at h
  rcases h with rfl | rfl | rfl | rfl | rfl
  · exact ⟨0xFE, by simp, by decide⟩
  · exact ⟨0xFF, by simp, by decide⟩
  · exact ⟨0xFE, by simp, by decide⟩
  · exact ⟨0xFF, by simp, by decide⟩
  · exact ⟨0xEF, by simp, by decide⟩

theorem readUnmarked?_of_ne_zero {bytes : List UInt8} (h : ∀ b ∈ bytes, b ≠ 0) :
    readUnmarked? bytes = readWithHalves? bytes := by
  unfold readUnmarked?
  split
  · next a b =>
    rw [if_neg (h a (by simp)), if_neg (h b (by simp))]
  · next a b c d rest =>
    rw [if_neg (h a (by simp)), if_neg (h b (by simp))]
  · rfl

/-- Bytes of printable ASCII are in no other encoding. -/
theorem readUnicode?_of_lt {bytes : List UInt8}
    (h : ∀ b ∈ bytes, 0x20 ≤ b.toNat ∧ b.toNat < 0x7F) :
    readUnicode? bytes = readWithHalves? bytes := by
  have hzero : ∀ b ∈ bytes, b ≠ 0 := by
    rintro b hb rfl
    have hlow := (h _ hb).1
    simp at hlow
  have hmark : marks.find? (fun mark => mark.1.isPrefixOf bytes) = none := by
    refine List.find?_eq_none.mpr fun mark hmark hprefix => ?_
    obtain ⟨b, hb, hhigh⟩ := exists_not_printable_of_mem_marks hmark
    have hlow := (h b ((List.isPrefixOf_iff_prefix.mp hprefix).subset hb)).2
    omega
  rw [readUnicode?, hmark]
  exact readUnmarked?_of_ne_zero hzero

/-- Printable ASCII is read back from its bytes, whichever encoding is looked for. -/
theorem readUnicode?_utf8 {cs : List Char} (h : PrintableAscii cs) :
    readUnicode? (utf8 cs) = some cs := by
  have hbytes : ∀ b ∈ utf8 cs, 0x20 ≤ b.toNat ∧ b.toNat < 0x7F := fun b hb =>
    utf8_of_printableAscii h hb
  rw [readUnicode?_of_lt hbytes, readWithHalves?,
    readWithHalves?_go_eq (fun b hb => (hbytes b hb).2)]
  exact readUtf8?_utf8 cs

end Text
end Arazzo
