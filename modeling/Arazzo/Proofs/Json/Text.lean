import Arazzo.Json.Reader
import Arazzo.Json.Writer
import Arazzo.Proofs.Text.Utf8
import Arazzo.Text.Quoted

/-!
# Strings read back

A written string holds the number of each of its characters, as an escape or as the character itself,
or the two halves of its surrogate pair. The reader gathers these numbers up to the closing mark and
joins the halves, which gives the text again.
-/

namespace Arazzo
namespace Json

open Text

/-- The sixteen-bit units of a character. -/
def units (c : Char) : List Nat :=
  if c.toNat < 0x10000 then [c.toNat]
  else [0xD800 + (c.toNat - 0x10000) / 1024, 0xDC00 + (c.toNat - 0x10000) % 1024]

/-- Puts units in front of those that have been read. -/
def before (us : List Nat) (found : List Nat × List Char) : List Nat × List Char :=
  (us ++ found.1, found.2)

/-! ## Reading -/

theorem readCodes_plain {c : Char} (hquote : c ≠ '\x22') (hslash : c ≠ '\\')
    (hlow : ¬ c.toNat < 0x20) (rest : List Char) :
    readCodes (c :: rest) = (readCodes rest).map (before [c.toNat]) := by
  rw [readCodes, if_neg hquote, if_neg (by simp [hslash, hlow])]
  · cases readCodes rest <;> rfl
  · intro a b c' d rest' heq
    exact absurd heq hslash
  · intro c' rest' heq
    exact absurd heq hslash

theorem readCodes_escape {e c : Char} (he : escaped? e = some c) (rest : List Char) :
    readCodes ('\\' :: e :: rest) = (readCodes rest).map (before [c.toNat]) := by
  have hu : e ≠ 'u' := by
    rintro rfl
    cases he
  rw [readCodes, he]
  · cases readCodes rest <;> rfl
  · intro a b c' d rest' heq
    exact absurd heq hu

theorem hex4?_digitChar {n : Nat} (h : n < 0x10000) :
    hex4? (Nat.digitChar (n / 16 / 16 / 16)) (Nat.digitChar (n / 16 / 16 % 16))
      (Nat.digitChar (n / 16 % 16)) (Nat.digitChar (n % 16)) = some n := by
  have hvalue : ((n / 16 / 16 / 16 * 16 + n / 16 / 16 % 16) * 16 + n / 16 % 16) * 16 + n % 16 = n := by
    omega
  rw [hex4?, hexDigit?_digitChar (by omega), hexDigit?_digitChar (by omega),
    hexDigit?_digitChar (by omega), hexDigit?_digitChar (by omega)]
  exact congrArg some hvalue

theorem readCodes_unitEscape {n : Nat} (h : n < 0x10000) (rest : List Char) :
    readCodes (unitEscape n ++ rest) = (readCodes rest).map (before [n]) := by
  rw [unitEscape, hex_four h]
  simp only [List.cons_append, List.nil_append]
  rw [readCodes, hex4?_digitChar h]
  cases readCodes rest <;> rfl
theorem map_before (us vs : List Nat) (x : Option (List Nat × List Char)) :
    (x.map (before vs)).map (before us) = x.map (before (us ++ vs)) := by
  cases x <;> simp [before]

theorem units_of_lt {c : Char} (h : c.toNat < 0x10000) : units c = [c.toNat] := if_pos h

/-- The ways to write a character in ASCII. -/
inductive IsCharText (c : Char) : List Char → Prop
  | escape {e : Char} : escaped? e = some c → 0x20 ≤ e.toNat ∧ e.toNat < 0x7F →
      IsCharText c ['\\', e]
  | lent : isLent c = true → IsCharText c (unitEscape (codeOf c))
  | unit : c.toNat < 0x10000 → IsCharText c (unitEscape c.toNat)
  | wide : 0x10000 ≤ c.toNat → IsCharText c (wideEscape c.toNat)
  | plain : c ≠ '\x22' → c ≠ '\\' → 0x20 ≤ c.toNat ∧ c.toNat < 0x7F → IsCharText c [c]

theorem isCharText_writeChar (c : Char) : IsCharText c (writeChar true c) := by
  unfold writeChar
  by_cases hmark : c = '\x22' ∨ c = '\\'
  · rw [if_pos hmark]
    exact .escape (if_pos (hmark.imp_right .inl)) (by rcases hmark with rfl | rfl <;> decide)
  rw [if_neg hmark]
  by_cases hfeed : c = '\n'
  · rw [if_pos hfeed]
    exact .escape (hfeed ▸ rfl) (by decide)
  rw [if_neg hfeed]
  by_cases hreturn : c = '\r'
  · rw [if_pos hreturn]
    exact .escape (hreturn ▸ rfl) (by decide)
  rw [if_neg hreturn]
  by_cases htab : c = '\t'
  · rw [if_pos htab]
    exact .escape (htab ▸ rfl) (by decide)
  rw [if_neg htab]
  by_cases hform : c = '\x0C'
  · rw [if_pos hform]
    exact .escape (hform ▸ rfl) (by decide)
  rw [if_neg hform]
  by_cases hback : c = '\x08'
  · rw [if_pos hback]
    exact .escape (hback ▸ rfl) (by decide)
  rw [if_neg hback]
  split_ifs with hlow hlent hwide hplane
  · exact .unit (by omega)
  · exact .lent hlent
  · exact .unit hplane
  · exact .wide (by omega)
  · have hascii : c.toNat < 0x7F := by simpa using hwide
    rw [not_or] at hmark
    exact .plain hmark.1 hmark.2 ⟨by omega, hascii⟩

/-- Every character with an escape of one letter has one unit. -/
theorem toNat_lt_of_escaped? {e c : Char} (h : escaped? e = some c) (he : e.toNat < 0x7F) :
    c.toNat < 0x10000 := by
  unfold escaped? at h
  split_ifs at h <;> obtain rfl := Option.some.inj h
  · omega
  all_goals decide

/-- What is written for a character reads as its units. -/
theorem readCodes_writeChar {c : Char} (hc : isLent c = false) (rest : List Char) :
    readCodes (writeChar true c ++ rest) = (readCodes rest).map (before (units c)) := by
  have hscalar := toNat_scalar c
  have hwritten := isCharText_writeChar c
  generalize writeChar true c = t at hwritten ⊢
  cases hwritten with
  | escape he hprintable =>
    rw [units_of_lt (toNat_lt_of_escaped? he hprintable.2)]
    exact readCodes_escape he rest
  | lent hlent =>
    rw [hc] at hlent
    cases hlent
  | unit hplane =>
    rw [units_of_lt hplane]
    exact readCodes_unitEscape hplane rest
  | wide hwide =>
    have hfirst : 0xD800 + (c.toNat - 0x10000) / 1024 < 0x10000 := by omega
    have hsecond : 0xDC00 + (c.toNat - 0x10000) % 1024 < 0x10000 := by omega
    rw [wideEscape, List.append_assoc, readCodes_unitEscape hfirst, readCodes_unitEscape hsecond,
      map_before, units, if_neg (Nat.not_lt.mpr hwide)]
    rfl
  | plain hquote hslash hprintable =>
    rw [units_of_lt (by omega)]
    exact readCodes_plain hquote hslash (Nat.not_lt.mpr hprintable.1) rest

/-- A written text is read up to its closing mark. -/
theorem readCodes_flatMap {cs : List Char} (hcs : isEncodable cs = true) (rest : List Char) :
    readCodes (cs.flatMap (writeChar true) ++ '\x22' :: rest) = some (cs.flatMap units, rest) := by
  induction cs with
  | nil => rfl
  | cons c cs ih =>
    rw [isEncodable, List.any_cons, Bool.not_or, Bool.and_eq_true] at hcs
    rw [List.flatMap_cons, List.append_assoc, readCodes_writeChar (by simpa using hcs.1),
      ih hcs.2]
    rfl

/-! ## Joining -/

theorem ofCode_toNat (c : Char) : ofCode c.toNat = c := by
  have hscalar := toNat_scalar c
  have hhalf : isHalf c.toNat = false := by
    simp only [isHalf, Bool.and_eq_false_iff, decide_eq_false_iff_not]
    omega
  rw [ofCode, if_neg (by simp [hhalf]), Char.ofNat_toNat]

/-- The units of a character join to it, whatever follows. -/
theorem joinUnits_units (c : Char) (us : List Nat) :
    joinUnits (units c ++ us) = c :: joinUnits us := by
  have hscalar := toNat_scalar c
  unfold units
  split_ifs with hplane
  · cases us with
    | nil => simp [joinUnits, ofCode_toNat]
    | cons u us =>
      rw [List.cons_append, List.nil_append, joinUnits, if_neg (by omega), ofCode_toNat]
  · have hvalue : 0x10000 + (0xD800 + (c.toNat - 0x10000) / 1024 - 0xD800) * 1024 +
        (0xDC00 + (c.toNat - 0x10000) % 1024 - 0xDC00) = c.toNat := by omega
    rw [List.cons_append, List.cons_append, List.nil_append, joinUnits, if_pos (by omega), hvalue,
      Char.ofNat_toNat]

theorem joinUnits_flatMap (cs : List Char) : joinUnits (cs.flatMap units) = cs := by
  induction cs with
  | nil => rfl
  | cons c cs ih => rw [List.flatMap_cons, joinUnits_units, ih]

/-- A text is read back. -/
theorem readString_writeText {s : String} (hs : isEncodable s.toList = true) (rest : List Char) :
    readString (s.toList.flatMap (writeChar true) ++ '\x22' :: rest) = some (s, rest) := by
  simp [readString, readCodes_flatMap hs, joinUnits_flatMap]

end Json
end Arazzo
