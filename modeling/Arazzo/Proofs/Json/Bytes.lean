import Arazzo.Proofs.Json.RoundTrip
import Arazzo.Proofs.Text.Utf8

/-!
# JSON in bytes

Written on one line a value is printable ASCII, whatever characters its texts consist of. So its bytes
cannot be taken for another encoding, and the value is read back from them.
-/

namespace Arazzo

open Text

/-! ## Numbers -/

theorem printableAscii_of_allDigits {ds : List Char} (h : Json.AllDigits ds) :
    PrintableAscii ds := by
  intro c hc
  have hdigit := h c hc
  simp only [Char.isDigit, Bool.and_eq_true, decide_eq_true_eq, UInt32.le_iff_toNat_le] at hdigit
  change 48 ≤ c.toNat ∧ c.toNat ≤ 57 at hdigit
  omega

namespace Binary64

theorem printableAscii_digitsOf (n : Nat) : PrintableAscii (digitsOf n) :=
  printableAscii_of_allDigits (Json.allDigits_toDigits n)

theorem printableAscii_zeros (n : Nat) : PrintableAscii (zeros n) :=
  printableAscii_of_allDigits (Json.allDigits_zeros n)

theorem printableAscii_exponentText (e : Int) : PrintableAscii (exponentText e) := by
  have hsign : PrintableAscii [if e < 0 then '-' else '+'] := by split_ifs <;> decide
  simpa [exponentText, printableAscii_zeros, printableAscii_digitsOf] using hsign

theorem printableAscii_layout (digits : Nat) (exponent : Int) :
    PrintableAscii (layout digits exponent) := by
  have htake : ∀ n, PrintableAscii ((digitsOf digits).take n) := fun n =>
    (printableAscii_digitsOf digits).of_subset (List.take_subset _ _)
  have hdrop : ∀ n, PrintableAscii ((digitsOf digits).drop n) := fun n =>
    (printableAscii_digitsOf digits).of_subset (List.drop_subset _ _)
  unfold layout
  dsimp only
  split_ifs
  · simp [printableAscii_zeros, printableAscii_digitsOf]
  · simp [printableAscii_zeros, printableAscii_digitsOf]
  · simp [htake, hdrop]
  · simp [htake, printableAscii_exponentText]
  · rw [printableAscii_append, printableAscii_append]
    exact ⟨⟨htake 1, printableAscii_cons.mpr ⟨by decide, hdrop 1⟩⟩,
      printableAscii_cons.mpr ⟨by decide, printableAscii_exponentText _⟩⟩

end Binary64

namespace Json

theorem printableAscii_writeFloat (x : Binary64) : PrintableAscii (writeFloat x) := by
  cases x with
  | nan payload => exact (by decide : PrintableAscii "NaN".toList)
  | infinity negative => cases negative <;> decide
  | finite negative m e =>
    have hmagnitude : PrintableAscii (magnitudeText m e) := by
      unfold magnitudeText
      split_ifs
      · decide
      · exact Binary64.printableAscii_layout _ _
    rw [writeFloat_finite]
    split_ifs
    · exact printableAscii_cons.mpr ⟨by decide, hmagnitude⟩
    · exact hmagnitude

theorem printableAscii_writeInteger {i : Int} {cs : List Char} (h : writeInteger i = .ok cs) :
    PrintableAscii cs := by
  unfold writeInteger at h
  split_ifs at h
  obtain rfl := Except.ok.inj h
  have hdigits := printableAscii_of_allDigits (allDigits_toDigits i.natAbs)
  rw [toList_toString]
  split_ifs
  · exact printableAscii_cons.mpr ⟨by decide, hdigits⟩
  · exact hdigits

/-! ## Texts -/

theorem printableAscii_unitEscape {n : Nat} (h : n < 0x10000) : PrintableAscii (unitEscape n) := by
  have hdigit : ∀ d < 16, 0x20 ≤ (Nat.digitChar d).toNat ∧ (Nat.digitChar d).toNat < 0x7F := by
    decide
  have hdigits : PrintableAscii (hex 4 n) := by
    rw [hex_four h]
    simp only [printableAscii_cons, printableAscii_nil, and_true]
    exact ⟨hdigit _ (by omega), hdigit _ (by omega), hdigit _ (by omega), hdigit _ (by omega)⟩
  simpa [unitEscape] using hdigits

theorem printableAscii_writeChar (c : Char) : PrintableAscii (writeChar true c) := by
  have hscalar := toNat_scalar c
  have hwritten := isCharText_writeChar c
  generalize writeChar true c = t at hwritten ⊢
  cases hwritten with
  | escape _ hprintable => simpa using hprintable
  | lent hlent =>
    have hhalf : isHalf (c.toNat - halfShift) = true := ((Bool.and_eq_true _ _).mp hlent).2
    rw [isHalf, Bool.and_eq_true, decide_eq_true_iff, decide_eq_true_iff] at hhalf
    rw [codeOf, if_pos hlent]
    exact printableAscii_unitEscape (by omega)
  | unit hplane => exact printableAscii_unitEscape hplane
  | wide hwide =>
    exact printableAscii_append.mpr ⟨printableAscii_unitEscape (by omega),
      printableAscii_unitEscape (by omega)⟩
  | plain _ _ hprintable => exact printableAscii_cons.mpr ⟨hprintable, printableAscii_nil⟩

theorem printableAscii_writeText (cs : List Char) : PrintableAscii (writeText true cs) := by
  have hchars : PrintableAscii (cs.flatMap (writeChar true)) := by
    intro d hd
    obtain ⟨c, -, hd⟩ := List.mem_flatMap.mp hd
    exact printableAscii_writeChar c d hd
  simpa [writeText] using hchars

/-! ## Values -/

theorem printableAscii_listed {texts : List (List Char)} (h : ∀ t ∈ texts, PrintableAscii t) :
    PrintableAscii (listed texts) := by
  cases texts with
  | nil => decide
  | cons t more =>
    obtain ⟨ht, hmore⟩ := List.forall_mem_cons.mp h
    rw [listed_cons, printableAscii_append]
    refine ⟨ht, fun c hc => ?_⟩
    obtain ⟨next, hnext, hc⟩ := List.mem_flatMap.mp hc
    have hseparated : PrintableAscii ([',', ' '] ++ next) :=
      printableAscii_append.mpr ⟨by decide, hmore next hnext⟩
    exact hseparated c hc

theorem printableAscii_enclose {texts : List (List Char)} (h : ∀ t ∈ texts, PrintableAscii t)
    (depth : Nat) {opening closing : Char} (hends : PrintableAscii [opening, closing]) :
    PrintableAscii (enclose .spaced depth opening closing texts) := by
  simp only [printableAscii_cons, printableAscii_nil, and_true] at hends
  simp [enclose_spaced, hends, printableAscii_listed h]

theorem printableAscii_writeScalar {s : Scalar} {t : List Char}
    (h : writeScalar .spaced s = .ok t) : PrintableAscii t := by
  cases s with
  | null =>
    obtain rfl := Except.ok.inj h
    decide
  | bool b => cases b <;> obtain rfl := Except.ok.inj h <;> decide
  | int i => exact printableAscii_writeInteger h
  | float x =>
    obtain rfl := Except.ok.inj h
    exact printableAscii_writeFloat x
  | text s =>
    obtain rfl := Except.ok.inj h
    exact printableAscii_writeText s.toList
  | date d => cases h
  | time t => cases h
  | dateTime d => cases h
  | bytes bs => cases h
  | steps => cases h

theorem printableAscii_of_writeItems {items : List Value} {depth : Nat} {texts : List (List Char)}
    (hitems : ∀ v ∈ items, ∀ t, writeAt .spaced depth v = .ok t → PrintableAscii t)
    (h : writeItems .spaced depth items = .ok texts) : ∀ t ∈ texts, PrintableAscii t := by
  intro t ht
  obtain ⟨v, hv, hitem⟩ := exists_mem_of_forall₂ (writeItems_ok_iff.mp h) ht
  exact hitems v hv t hitem

/-- Written on one line, every value is printable ASCII. -/
theorem printableAscii_writeAt {v : Value} {depth : Nat} {t : List Char}
    (h : writeAt .spaced depth v = .ok t) : PrintableAscii t := by
  induction v using Value.induction_members generalizing depth t with
  | scalar s => exact printableAscii_writeScalar h
  | list items ih =>
    obtain ⟨texts, htexts, rfl⟩ := map_ok_iff.mp h
    have hitems := printableAscii_of_writeItems (fun v hv t => ih v hv) htexts
    exact printableAscii_enclose hitems depth (by decide)
  | tuple items ih =>
    obtain ⟨texts, htexts, rfl⟩ := map_ok_iff.mp h
    have hitems := printableAscii_of_writeItems (fun v hv t => ih v hv) htexts
    exact printableAscii_enclose hitems depth (by decide)
  | set members => cases h
  | map entries ih =>
    obtain ⟨texts, htexts, rfl⟩ := map_ok_iff.mp h
    refine printableAscii_enclose (fun t ht => ?_) depth (by decide)
    obtain ⟨entry, hentry, key, item, -, hitem, rfl⟩ :=
      exists_mem_of_forall₂ (writeEntries_ok_iff.mp htexts) ht
    have hkey : PrintableAscii (writeText Style.spaced.ascii key ++ Style.spaced.keySeparator) :=
      printableAscii_append.mpr ⟨printableAscii_writeText key, by decide⟩
    exact printableAscii_append.mpr ⟨hkey, ih entry.1 entry.2 hentry hitem⟩

/-- The bytes of a value that is written on one line are read back as the value. -/
theorem readBytes?_write {v : Value} (hv : v.IsData) {text : String}
    (h : write .spaced v = .ok text) : readBytes? (utf8String text) = some v := by
  have hread := read?_write hv h
  obtain ⟨t, ht, rfl⟩ := map_ok_iff.mp h
  rw [String.toList_ofList] at hread
  rw [readBytes?, utf8String, String.toList_ofList, readUnicode?_utf8 (printableAscii_writeAt ht)]
  exact hread

end Json
end Arazzo
