import Arazzo.Proofs.Document.Entries
import Arazzo.Proofs.Except
import Arazzo.Proofs.Json.Numeral
import Arazzo.Proofs.Json.Text

/-!
# JSON read back

Values that JSON has a form for are read back from their text: texts that can be encoded, integers that
can be written, floating-point values in normal form, lists and mappings with text keys. A written value
ends where a comma or a closing bracket follows, and every item and entry ends so.
-/

namespace Arazzo

/-- The values that JSON has a form for. -/
inductive Value.IsData : Value → Prop
  | null : IsData .null
  | bool (b : Bool) : IsData (.bool b)
  | int (i : Int) : IsData (.int i)
  | float {x : Binary64} : x.IsRounded → IsData (.float x)
  | text {s : String} : Text.isEncodable s.toList = true → IsData (.text s)
  | list {items : List Value} : (∀ v ∈ items, IsData v) → IsData (.list items)
  | map {entries : Entries} : entries.HasTextKeys →
      (∀ s v, (.text s, v) ∈ entries → Text.isEncodable s.toList = true) →
      (∀ entry ∈ entries, IsData entry.2) → IsData (.map entries)

theorem Value.IsData.entry {name : String} {v : Value} (hname : Text.isEncodable name.toList = true)
    (hv : v.IsData) : (Value.map [(.text name, v)]).IsData := by
  refine .map ⟨by simp, by simp⟩ ?_ ?_
  · intro s w hmem
    simp only [List.mem_singleton, Prod.mk.injEq, Scalar.text.injEq] at hmem
    rwa [hmem.1]
  · intro entry hmem
    rwa [List.mem_singleton.mp hmem]

namespace Json

open Text

/-! ## Scalars -/

theorem readValue_of_readScalar {cs : List Char} {found : Value × List Char}
    (h : readScalar cs = some found) (fuel : Nat) : readValue (fuel + 1) cs = some found := by
  have hquote : ∀ rest, readScalar ('\x22' :: rest) = none := fun _ => rfl
  have hbracket : ∀ rest, readScalar ('[' :: rest) = none := fun _ => rfl
  have hbrace : ∀ rest, readScalar ('\x7b' :: rest) = none := fun _ => rfl
  rw [readValue]
  · exact h
  · rintro rest rfl
    exact absurd h (by rw [hquote]; simp)
  · rintro rest rfl
    exact absurd h (by rw [hbracket]; simp)
  · rintro rest rfl
    exact absurd h (by rw [hbrace]; simp)

/-- What a value can start with. -/
def Starts (cs : List Char) : Prop :=
  ∃ c tail, cs = c :: tail ∧ isSpace c = false ∧ c ≠ ']' ∧ c ≠ '\x7d'

theorem starts_of_readValue {cs : List Char} {fuel : Nat} {found : Value × List Char}
    (h : readValue (fuel + 1) cs = some found) : Starts cs := by
  have hnil : readValue (fuel + 1) [] = none := rfl
  have hnone : ∀ c tail, c ∈ [' ', '\t', '\n', '\r', ']', '\x7d'] →
      readValue (fuel + 1) (c :: tail) = none := by
    intro c tail hc
    simp only [List.mem_cons, List.not_mem_nil, or_false] at hc
    rcases hc with rfl | rfl | rfl | rfl | rfl | rfl <;> rfl
  cases cs with
  | nil => cases hnil.symm.trans h
  | cons c tail =>
    have hc : c ∉ [' ', '\t', '\n', '\r', ']', '\x7d'] := fun hmem =>
      absurd ((hnone c tail hmem).symm.trans h) (by simp)
    refine ⟨c, tail, rfl, ?_⟩
    simpa [isSpace, and_assoc] using hc

theorem skipSpace_eq {cs : List Char} (h : Starts cs) (rest : List Char) :
    skipSpace (cs ++ rest) = cs ++ rest := by
  obtain ⟨c, tail, rfl, hspace, -⟩ := h
  simp [skipSpace, hspace]

/-- A text that reads as a value, wherever the value may end. -/
def Reads (v : Value) (t : List Char) : Prop :=
  ∀ fuel rest, t.length < fuel → EndsNumeral rest → readValue fuel (t ++ rest) = some (v, rest)

theorem Reads.starts {v : Value} {t : List Char} (h : Reads v t) : Starts t := by
  have hread := h (t.length + 1) [] (Nat.lt_succ_self _) (by simp [EndsNumeral])
  rw [List.append_nil] at hread
  exact starts_of_readValue hread

theorem reads_of_readScalar {v : Value} {t : List Char}
    (h : ∀ rest, EndsNumeral rest → readScalar (t ++ rest) = some (v, rest)) : Reads v t := by
  intro fuel rest hfuel hrest
  obtain ⟨fuel, rfl⟩ := Nat.exists_eq_add_one_of_ne_zero (Nat.ne_zero_of_lt hfuel)
  exact readValue_of_readScalar (h rest hrest) fuel

theorem reads_writeText {s : String} (hs : isEncodable s.toList = true) :
    Reads (.text s) (writeText true s.toList) := by
  intro fuel rest hfuel hrest
  obtain ⟨fuel, rfl⟩ := Nat.exists_eq_add_one_of_ne_zero (Nat.ne_zero_of_lt hfuel)
  have hstring := readString_writeText hs rest
  simp [writeText, readValue, hstring]

/-! ## Items and entries -/

/-- Written items with a comma and a blank between them. -/
def listed : List (List Char) → List Char
  | [] => []
  | [t] => t
  | t :: next :: more => t ++ ',' :: ' ' :: listed (next :: more)

theorem listed_cons (t : List Char) (texts : List (List Char)) :
    listed (t :: texts) = t ++ texts.flatMap fun next => [',', ' '] ++ next := by
  induction texts generalizing t with
  | nil => simp [listed]
  | cons next texts ih => simp [listed, ih]

theorem enclose_spaced (depth : Nat) (opening closing : Char) (texts : List (List Char)) :
    enclose .spaced depth opening closing texts = opening :: (listed texts ++ [closing]) := by
  cases texts with
  | nil => rfl
  | cons t more => simp [enclose, lineBreak, Style.spaced, listed_cons]

theorem Starts.append {cs : List Char} (h : Starts cs) (rest : List Char) : Starts (cs ++ rest) := by
  obtain ⟨c, tail, rfl, hc⟩ := h
  exact ⟨c, tail ++ rest, rfl, hc⟩

/-- Behind a separator a blank is passed over. -/
theorem skipSpace_blank {t : List Char} (h : Starts t) (texts : List (List Char))
    (rest : List Char) :
    skipSpace (' ' :: (listed (t :: texts) ++ rest)) = listed (t :: texts) ++ rest := by
  rw [listed_cons, List.append_assoc]
  exact skipSpace_eq h _

section
variable {fuel : Nat} {v : Value} {t rest : List Char}

theorem Reads.readItems_last (h : Reads v t) (hfuel : t.length < fuel) :
    readItems (fuel + 1) (t ++ ']' :: rest) = some ([v], rest) := by
  have hitem := h fuel (']' :: rest) hfuel (by simp [EndsNumeral])
  have hspace : skipSpace (']' :: rest) = ']' :: rest := rfl
  simp [readItems, hitem, hspace]

theorem Reads.readItems_more (h : Reads v t) (hfuel : t.length < fuel) {items : List Value}
    {after : List Char} (hmany : readItems fuel (skipSpace rest) = some (items, after)) :
    readItems (fuel + 1) (t ++ ',' :: rest) = some (v :: items, after) := by
  have hitem := h fuel (',' :: rest) hfuel (by simp [EndsNumeral])
  have hspace : skipSpace (',' :: rest) = ',' :: rest := rfl
  simp [readItems, hitem, hmany, hspace]

end

theorem readItems_listed {items : List Value} {texts : List (List Char)}
    (h : List.Forall₂ Reads items texts) (hne : texts ≠ []) {fuel : Nat} (rest : List Char)
    (hfuel : (listed texts).length + 1 < fuel) :
    readItems fuel (listed texts ++ ']' :: rest) = some (items, rest) := by
  induction h generalizing fuel with
  | nil => exact absurd rfl hne
  | @cons v t items texts hv hrest ih =>
    obtain ⟨fuel, rfl⟩ := Nat.exists_eq_add_one_of_ne_zero (Nat.ne_zero_of_lt hfuel)
    cases hrest with
    | nil => exact hv.readItems_last (by simpa [listed] using hfuel)
    | @cons next t' items texts hnext hmore =>
      simp only [listed, List.length_append, List.length_cons] at hfuel ih
      have hmany := ih (List.cons_ne_nil t' texts) (by omega : _ < fuel)
      rw [← skipSpace_blank hnext.starts texts (']' :: rest)] at hmany
      simpa [listed] using hv.readItems_more (by omega) hmany

/-- A text that reads as an entry. -/
inductive ReadsEntry : Scalar × Value → List Char → Prop
  | intro {key : String} {v : Value} {t : List Char} : isEncodable key.toList = true → Reads v t →
      ReadsEntry (.text key, v) (writeText true key.toList ++ ':' :: ' ' :: t)

theorem ReadsEntry.starts {entry : Scalar × Value} {t : List Char} (h : ReadsEntry entry t) :
    Starts t := by
  cases h with
  | intro => exact ⟨'\x22', _, rfl, rfl, by decide, by decide⟩

section
variable {fuel : Nat} {entry : Scalar × Value} {t rest : List Char}

/-- An entry is read up to the separator behind it. -/
theorem ReadsEntry.readEntries_last (h : ReadsEntry entry t) (hfuel : t.length < fuel) :
    readEntries (fuel + 1) (t ++ '\x7d' :: rest) = some ([entry], rest) := by
  cases h with
  | @intro key v item hkey hv =>
    have hlength : item.length < fuel := by
      simp at hfuel
      omega
    have hstring := readString_writeText hkey (':' :: ' ' :: (item ++ '\x7d' :: rest))
    have hcolon : ∀ cs, skipSpace (':' :: cs) = ':' :: cs := fun _ => rfl
    have hblank : skipSpace (' ' :: (item ++ '\x7d' :: rest)) = item ++ '\x7d' :: rest :=
      skipSpace_eq hv.starts _
    have hitem := hv fuel ('\x7d' :: rest) hlength (by simp [EndsNumeral])
    have hspace : skipSpace ('\x7d' :: rest) = '\x7d' :: rest := rfl
    simp [readEntries, writeText, hstring, hcolon, hblank, hitem, hspace]

theorem ReadsEntry.readEntries_more (h : ReadsEntry entry t) (hfuel : t.length < fuel)
    {entries : Entries} {after : List Char}
    (hmany : readEntries fuel (skipSpace rest) = some (entries, after)) :
    readEntries (fuel + 1) (t ++ ',' :: rest) = some (entry :: entries, after) := by
  cases h with
  | @intro key v item hkey hv =>
    have hlength : item.length < fuel := by
      simp at hfuel
      omega
    have hstring := readString_writeText hkey (':' :: ' ' :: (item ++ ',' :: rest))
    have hcolon : ∀ cs, skipSpace (':' :: cs) = ':' :: cs := fun _ => rfl
    have hblank : skipSpace (' ' :: (item ++ ',' :: rest)) = item ++ ',' :: rest :=
      skipSpace_eq hv.starts _
    have hitem := hv fuel (',' :: rest) hlength (by simp [EndsNumeral])
    have hspace : skipSpace (',' :: rest) = ',' :: rest := rfl
    simp [readEntries, writeText, hstring, hcolon, hblank, hitem, hmany, hspace]

end

theorem readEntries_listed {entries : Entries} {texts : List (List Char)}
    (h : List.Forall₂ ReadsEntry entries texts) (hne : texts ≠ []) {fuel : Nat} (rest : List Char)
    (hfuel : (listed texts).length + 1 < fuel) :
    readEntries fuel (listed texts ++ '\x7d' :: rest) = some (entries, rest) := by
  induction h generalizing fuel with
  | nil => exact absurd rfl hne
  | @cons entry t entries texts hentry hrest ih =>
    obtain ⟨fuel, rfl⟩ := Nat.exists_eq_add_one_of_ne_zero (Nat.ne_zero_of_lt hfuel)
    cases hrest with
    | nil => exact hentry.readEntries_last (by simpa [listed] using hfuel)
    | @cons next t' entries texts hnext hmore =>
      simp only [listed, List.length_append, List.length_cons] at hfuel ih
      have hmany := ih (List.cons_ne_nil t' texts) (by omega : _ < fuel)
      rw [← skipSpace_blank hnext.starts texts ('\x7d' :: rest)] at hmany
      simpa [listed] using hentry.readEntries_more (by omega) hmany

/-! ## Values -/

theorem starts_listed {t : List Char} (h : Starts t) (texts : List (List Char)) :
    Starts (listed (t :: texts)) := by
  rw [listed_cons]
  exact h.append _

theorem reads_list {items : List Value} {texts : List (List Char)}
    (h : List.Forall₂ Reads items texts) :
    Reads (.list items) ('[' :: (listed texts ++ [']'])) := by
  intro fuel rest hfuel hrest
  obtain ⟨fuel, rfl⟩ := Nat.exists_eq_add_one_of_ne_zero (Nat.ne_zero_of_lt hfuel)
  cases h with
  | nil => rfl
  | @cons v t items texts hv hmore =>
    have hlength : (listed (t :: texts)).length + 1 < fuel := by
      simp at hfuel
      omega
    have hitems := readItems_listed (.cons hv hmore) (List.cons_ne_nil t texts) rest hlength
    obtain ⟨c, tail, heq, hspace, hclosing, -⟩ := starts_listed hv.starts texts
    rw [heq] at hitems ⊢
    rw [List.cons_append] at hitems
    simp [readValue, skipSpace, hspace, hclosing, hitems]

theorem reads_map {entries : Entries} {texts : List (List Char)} (hkeys : entries.HasTextKeys)
    (h : List.Forall₂ ReadsEntry entries texts) :
    Reads (.map entries) ('\x7b' :: (listed texts ++ ['\x7d'])) := by
  intro fuel rest hfuel hrest
  obtain ⟨fuel, rfl⟩ := Nat.exists_eq_add_one_of_ne_zero (Nat.ne_zero_of_lt hfuel)
  cases h with
  | nil => rfl
  | @cons entry t entries texts hentry hmore =>
    have hlength : (listed (t :: texts)).length + 1 < fuel := by
      simp at hfuel
      omega
    have hread := readEntries_listed (.cons hentry hmore) (List.cons_ne_nil t texts) rest hlength
    obtain ⟨c, tail, heq, hspace, -, hclosing⟩ := starts_listed hentry.starts texts
    rw [heq] at hread ⊢
    rw [List.cons_append] at hread
    simp [readValue, skipSpace, hspace, hclosing, hread, hkeys.ofPairs_eq]

/-! ## Written values -/

theorem writeItems_ok_iff {style : Style} {depth : Nat} {items : List Value}
    {texts : List (List Char)} : writeItems style depth items = .ok texts ↔
      List.Forall₂ (fun v t => writeAt style depth v = .ok t) items texts := by
  refine traverse_ok_iff ?_ fun v rest texts => ?_
  · rfl
  · rw [writeItems]
    simp only [bind_ok_iff, Except.ok.injEq]

/-- The text of an entry is that of its key and that of its value. -/
def IsEntryText (style : Style) (depth : Nat) (entry : Scalar × Value) (t : List Char) : Prop :=
  ∃ key item, keyText entry.1 = .ok key ∧ writeAt style depth entry.2 = .ok item ∧
    t = writeText style.ascii key ++ style.keySeparator ++ item

theorem writeEntries_ok_iff {style : Style} {depth : Nat} {entries : Entries}
    {texts : List (List Char)} : writeEntries style depth entries = .ok texts ↔
      List.Forall₂ (IsEntryText style depth) entries texts := by
  refine traverse_ok_iff ?_ fun entry rest texts => ?_
  · rfl
  · rw [writeEntries]
    simp only [bind_ok_iff, Except.ok.injEq]
    constructor
    · rintro ⟨key, hkey, item, hitem, rest', hrest, rfl⟩
      exact ⟨_, ⟨key, item, hkey, hitem, rfl⟩, rest', hrest, rfl⟩
    · rintro ⟨t, ⟨key, item, hkey, hitem, rfl⟩, rest', hrest, rfl⟩
      exact ⟨key, hkey, item, hitem, rest', hrest, rfl⟩

/-- The text of a value reads as the value. -/
theorem reads_of_writeAt {v : Value} (hv : v.IsData) {depth : Nat} {t : List Char}
    (h : writeAt .spaced depth v = .ok t) : Reads v t := by
  induction hv generalizing depth t with
  | null =>
    obtain rfl := Except.ok.inj h
    exact reads_of_readScalar fun rest _ => rfl
  | bool b =>
    refine reads_of_readScalar fun rest _ => ?_
    cases b <;> obtain rfl := Except.ok.inj h <;> rfl
  | int i => exact reads_of_readScalar fun rest hrest => readScalar_writeInteger h hrest
  | float hx =>
    obtain rfl := Except.ok.inj h
    exact reads_of_readScalar fun rest hrest => readScalar_writeFloat hx hrest
  | text hs =>
    obtain rfl := Except.ok.inj h
    exact reads_writeText hs
  | list _ ih =>
    obtain ⟨texts, htexts, rfl⟩ := map_ok_iff.mp h
    have hwritten := (List.forall₂_and_left _ _).mpr ⟨ih, writeItems_ok_iff.mp htexts⟩
    rw [enclose_spaced]
    exact reads_list (hwritten.imp fun v t hitem => hitem.1 hitem.2)
  | @map entries hkeys hencodable _ ih =>
    obtain ⟨texts, htexts, rfl⟩ := map_ok_iff.mp h
    have hwritten := (List.forall₂_and_left (p := (· ∈ entries)) _ _).mpr
      ⟨fun _ hentry => hentry, writeEntries_ok_iff.mp htexts⟩
    rw [enclose_spaced]
    refine reads_map hkeys (hwritten.imp ?_)
    rintro ⟨k, v⟩ t ⟨hmem, key, item, hkey, hitem, rfl⟩
    obtain ⟨s, rfl⟩ := hkeys.isText _ hmem
    obtain rfl := Except.ok.inj hkey
    simpa [Style.spaced] using ReadsEntry.intro (hencodable s v hmem) (ih _ hmem hitem)

/-- A value that is written on one line is read back. -/
theorem read?_write {v : Value} (hv : v.IsData) {text : String}
    (h : write .spaced v = .ok text) : read? text.toList = some v := by
  obtain ⟨t, ht, rfl⟩ := map_ok_iff.mp h
  have hreads := reads_of_writeAt hv ht
  have hspace := skipSpace_eq hreads.starts []
  have hread := hreads (t.length + 1) [] (Nat.lt_succ_self _) (by simp [EndsNumeral])
  rw [List.append_nil] at hspace hread
  rw [read?, String.toList_ofList, hspace, hread]
  rfl

end Json
end Arazzo
