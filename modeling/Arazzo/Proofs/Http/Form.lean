import Arazzo.Http.Form
import Arazzo.Proofs.Text.Trim
import Arazzo.Proofs.Text.Utf8
import Arazzo.Text.Quoted

/-!
# Reading form data back

What form data is written with keeps apart what it is read by: neither a name nor a value holds an
ampersand or an equals sign, a plus sign stands for a blank only, and a percent sign starts an escape.
So any pairs of texts are read back from their form data.
-/

namespace Arazzo
namespace Form

open Text

/-- The characters that names and values are written with. -/
def isWritten (c : Char) : Bool := isUnreserved c || c = '%' || c = '+'

/-! ## Escapes -/

theorem escapeByte_eq (b : UInt8) : escapeByte b =
    ['%', (Nat.digitChar (b.toNat / 16)).toUpper, (Nat.digitChar (b.toNat % 16)).toUpper] := by
  rw [escapeByte, hexUpper, hex_two b.toNat_lt]
  rfl

theorem unescapeBytes_escapeByte (b : UInt8) (rest : List Char) :
    unescapeBytes (escapeByte b ++ rest) = b :: unescapeBytes rest := by
  have hhigh := hexDigit?_toUpper (show b.toNat / 16 < 16 by have := b.toNat_lt; omega)
  have hlow := hexDigit?_toUpper (show b.toNat % 16 < 16 by omega)
  have hvalue : b.toNat / 16 * 16 + b.toNat % 16 = b.toNat := by omega
  simp [escapeByte_eq, unescapeBytes, hhigh, hlow, hvalue]

theorem unescapeBytes_escapeChar (c : Char) (rest : List Char) :
    unescapeBytes (escapeChar c ++ rest) = utf8Char c ++ unescapeBytes rest := by
  rw [escapeChar]
  induction utf8Char c with
  | nil => rfl
  | cons b bs ih =>
    rw [List.flatMap_cons, List.append_assoc, unescapeBytes_escapeByte, ih, List.cons_append]

theorem unescapeBytes_cons {c : Char} (h : c ≠ '%') (rest : List Char) :
    unescapeBytes (c :: rest) = utf8Char c ++ unescapeBytes rest := by
  rw [unescapeBytes]
  intro a b rest' heq
  exact absurd heq h

theorem mem_escapeChar {c e : Char} (h : e ∈ escapeChar c) :
    e = '%' ∨ e.isAlphanum = true := by
  obtain ⟨b, -, he⟩ := List.mem_flatMap.mp h
  rw [escapeByte_eq] at he
  simp only [List.mem_cons, List.not_mem_nil, or_false] at he
  rcases he with rfl | rfl | rfl
  · exact .inl rfl
  · exact .inr (isAlphanum_toUpper (by have := b.toNat_lt; omega))
  · exact .inr (isAlphanum_toUpper (by omega))

/-! ## Names and values -/

theorem isWritten_of_mem_encodeText {cs : List Char} {c : Char} (h : c ∈ encodeText cs) :
    isWritten c = true := by
  obtain ⟨d, -, hc⟩ := List.mem_flatMap.mp h
  split_ifs at hc with hblank hsafe
  · obtain rfl := List.mem_singleton.mp hc
    rfl
  · obtain rfl := List.mem_singleton.mp hc
    simp [isWritten, hsafe]
  · rcases mem_escapeChar hc with rfl | halphanum
    · rfl
    · simp [isWritten, isUnreserved, halphanum]

/-- What decoding makes of a plus sign. -/
def blankFor (c : Char) : Char := if c = '+' then ' ' else c

theorem blankFor_of_ne {c : Char} (h : c ≠ '+') : blankFor c = c := if_neg h

theorem map_blankFor_of_alphanum {cs : List Char}
    (h : ∀ c ∈ cs, c = '%' ∨ c.isAlphanum = true) : cs.map blankFor = cs := by
  have hsame : ∀ c ∈ cs, blankFor c = id c := by
    intro c hc
    rcases h c hc with rfl | halphanum
    · rfl
    · refine blankFor_of_ne ?_
      rintro rfl
      exact absurd halphanum (by decide)
  rw [List.map_congr_left hsame, List.map_id]

theorem unescapeBytes_encodeText (cs rest : List Char) :
    unescapeBytes ((encodeText cs).map blankFor ++ rest) = utf8 cs ++ unescapeBytes rest := by
  induction cs with
  | nil => rfl
  | cons c cs ih =>
    rw [encodeText, List.flatMap_cons, ← encodeText, List.map_append, List.append_assoc, utf8,
      List.flatMap_cons, ← utf8, List.append_assoc, ← ih]
    split_ifs with hblank hsafe
    · rw [hblank]
      exact unescapeBytes_cons (by decide) _
    · have hplus : c ≠ '+' := by
        rintro rfl
        simp [isUnreserved] at hsafe
      have hpercent : c ≠ '%' := by
        rintro rfl
        simp [isUnreserved] at hsafe
      rw [List.map_singleton, blankFor_of_ne hplus]
      exact unescapeBytes_cons hpercent _
    · rw [map_blankFor_of_alphanum fun e he => mem_escapeChar he,
        unescapeBytes_escapeChar]

/-- A name or a value is read back. -/
theorem decodeText_encodeText (cs : List Char) : decodeText (encodeText cs) = cs := by
  have hbytes := unescapeBytes_encodeText cs []
  rw [List.append_nil, unescapeBytes, List.append_nil] at hbytes
  rw [decodeText, unescape]
  exact (congrArg readUtf8 hbytes).trans (readUtf8_utf8 cs)

/-! ## Pairs -/

theorem ne_of_isWritten {c : Char} (h : isWritten c = true) : c ≠ '&' ∧ c ≠ '=' := by
  constructor
  all_goals
    rintro rfl
    revert h
    decide

theorem decodePair_encodePair (pair : List Char × List Char) :
    decodePair (encodePair pair) = pair := by
  have hname : '=' ∉ encodeText pair.1 := fun hmem =>
    (ne_of_isWritten (isWritten_of_mem_encodeText hmem)).2 rfl
  rw [decodePair, encodePair, cutAt_append hname]
  exact Prod.ext (decodeText_encodeText pair.1) (decodeText_encodeText pair.2)

theorem mem_encodePair {pair : List Char × List Char} {c : Char} (h : c ∈ encodePair pair) :
    c = '=' ∨ isWritten c = true := by
  rcases List.mem_append.mp h with hname | hvalue
  · exact .inr (isWritten_of_mem_encodeText hname)
  · rcases List.mem_cons.mp hvalue with rfl | hvalue
    · exact .inl rfl
    · exact .inr (isWritten_of_mem_encodeText hvalue)

theorem encode_cons (pair : List Char × List Char) {pairs : List (List Char × List Char)}
    (h : pairs ≠ []) : encode (pair :: pairs) = encodePair pair ++ '&' :: encode pairs := by
  cases pairs with
  | nil => exact absurd rfl h
  | cons next rest => rfl

theorem splitOnChar_encode {pairs : List (List Char × List Char)} (h : pairs ≠ []) :
    splitOnChar '&' (encode pairs) = pairs.map encodePair := by
  have hpair : ∀ pair : List Char × List Char, '&' ∉ encodePair pair := by
    intro pair hmem
    rcases mem_encodePair hmem with heq | hwritten
    · exact absurd heq (by decide)
    · exact (ne_of_isWritten hwritten).1 rfl
  induction pairs with
  | nil => exact absurd rfl h
  | cons pair rest ih =>
    by_cases hrest : rest = []
    · rw [hrest]
      exact splitOnChar_eq_singleton (hpair pair)
    · rw [encode_cons pair hrest, splitOnChar_append (hpair pair), ih hrest, List.map_cons]

/-- Any pairs of texts are read back from their form data. -/
theorem decode_encode (pairs : List (List Char × List Char)) : decode (encode pairs) = pairs := by
  by_cases h : pairs = []
  · rw [h]
    rfl
  · have hnonempty : ∀ piece ∈ pairs.map encodePair, (!piece.isEmpty) = true := by
      intro piece hpiece
      obtain ⟨pair, -, rfl⟩ := List.mem_map.mp hpiece
      simp [encodePair]
    rw [decode, splitOnChar_encode h, List.filter_eq_self.mpr hnonempty, List.map_map]
    exact List.map_id'' decodePair_encodePair pairs

theorem decodeStrings_encodeStrings (pairs : List (String × String)) :
    decodeStrings (encodeStrings pairs) = pairs := by
  rw [decodeStrings, encodeStrings, String.toList_ofList, decode_encode, List.map_map]
  exact List.map_id'' (fun pair => by simp) pairs

/-- What form data consists of. -/
theorem mem_encode {pairs : List (List Char × List Char)} {c : Char} (h : c ∈ encode pairs) :
    c = '&' ∨ c = '=' ∨ isWritten c = true := by
  induction pairs with
  | nil => simp [encode] at h
  | cons pair rest ih =>
    by_cases hrest : rest = []
    · rw [hrest] at h
      exact .inr (mem_encodePair h)
    · rw [encode_cons pair hrest] at h
      rcases List.mem_append.mp h with hpair | htail
      · exact .inr (mem_encodePair hpair)
      · rcases List.mem_cons.mp htail with rfl | htail
        · exact .inl rfl
        · exact ih htail

theorem toNat_lt_of_isAlphanum {c : Char} (h : c.isAlphanum = true) : c.toNat < 128 := by
  -- Unlike `simp`, `delta` leaves no equations of these library definitions behind in this module.
  delta Char.isAlphanum Char.isAlpha Char.isUpper Char.isLower Char.isDigit at h
  simp only [Bool.or_eq_true, Bool.and_eq_true, decide_eq_true_eq, UInt32.le_iff_toNat_le] at h
  rcases h with (⟨-, h⟩ | ⟨-, h⟩) | ⟨-, h⟩
  all_goals exact Nat.lt_of_le_of_lt h (by decide)

theorem toNat_lt_of_mem_encode {pairs : List (List Char × List Char)} {c : Char}
    (h : c ∈ encode pairs) : c.toNat < 128 := by
  have hwritten := mem_encode h
  simp only [isWritten, isUnreserved, Bool.or_eq_true, decide_eq_true_eq] at hwritten
  rcases hwritten with rfl | rfl | (((((halphanum | rfl) | rfl) | rfl) | rfl) | rfl) | rfl
  case inr.inr.inl.inl.inl.inl.inl.inl => exact toNat_lt_of_isAlphanum halphanum
  all_goals decide

theorem encodeStrings_eq_empty {pairs : List (String × String)} :
    encodeStrings pairs = "" ↔ pairs = [] := by
  constructor
  · intro h
    have hdecode := decodeStrings_encodeStrings pairs
    rw [h] at hdecode
    exact hdecode.symm
  · rintro rfl
    rfl

end Form
end Arazzo
