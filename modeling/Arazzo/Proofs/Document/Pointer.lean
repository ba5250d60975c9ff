import Arazzo.Proofs.Document.Dereference
import Arazzo.Proofs.Json.Numeral
import Arazzo.Proofs.Number.Decimal
import Arazzo.Proofs.Text.Trim

/-!
# Pointers

The way to a value inside another one takes a key of every mapping and a position in every list that it
passes. Written behind a number sign, each with a slash in front of it and with escapes for the slashes
and tildes in it, these steps point to the value that they lead to.
-/

namespace Arazzo

open Text

/-- Texts are the keys of all mappings that can be reached in a value, each of them once. -/
inductive Value.HasTextKeys : Value → Prop
  | scalar (s : Scalar) : HasTextKeys (.scalar s)
  | tuple (items : List Value) : HasTextKeys (.tuple items)
  | set (members : List Scalar) : HasTextKeys (.set members)
  | list {items : List Value} : (∀ v ∈ items, HasTextKeys v) → HasTextKeys (.list items)
  | map {entries : Entries} : entries.HasTextKeys → (∀ entry ∈ entries, HasTextKeys entry.2) →
      HasTextKeys (.map entries)

namespace Reference

/-! ## Escapes -/

def escapeChar (c : Char) : List Char :=
  if c = '~' then ['~', '0'] else if c = '/' then ['~', '1'] else [c]

/-- Writes tildes and slashes as the escapes that stand for them. -/
def escape (token : List Char) : List Char := token.flatMap escapeChar

/-- Writes tildes as the escape that stands for them, and slashes as they are. -/
def escapeTildes (token : List Char) : List Char :=
  token.flatMap fun c => if c = '~' then ['~', '0'] else [c]

theorem slash_not_mem_escape (token : List Char) : '/' ∉ escape token := by
  intro h
  obtain ⟨c, -, hc⟩ := List.mem_flatMap.mp h
  unfold escapeChar at hc
  split_ifs at hc with htilde hslash
  · simp at hc
  · simp at hc
  · exact hslash (List.mem_singleton.mp hc).symm

theorem escape_eq_nil_iff {token : List Char} : escape token = [] ↔ token = [] := by
  cases token with
  | nil => simp [escape]
  | cons c token =>
    simp only [escape, List.flatMap_cons, List.append_eq_nil_iff, reduceCtorEq, iff_false, not_and]
    intro h
    unfold escapeChar at h
    split_ifs at h

/-- Slashes are put back first: behind a tilde that has been written as an escape stands a zero, so that
none of these is taken for the escape of a slash. -/
theorem replace_escape (token : List Char) :
    replace ['~', '1'] ['/'] (escape token) = escapeTildes token := by
  induction token with
  | nil => exact replace_nil _ _
  | cons c token ih =>
    rw [escape, escapeTildes, List.flatMap_cons, List.flatMap_cons, ← escape, ← escapeTildes]
    by_cases htilde : c = '~'
    · subst htilde
      have hfirst : ¬ ['~', '1'] <+: '~' :: '0' :: escape token := by simp
      have hsecond : ¬ ['~', '1'] <+: '0' :: escape token := by simp
      simp [escapeChar, replace_cons hfirst, replace_cons hsecond, ih]
    · by_cases hslash : c = '/'
      · subst hslash
        have hpiece : replace ['~', '1'] ['/'] (['~', '1'] ++ escape token) =
            ['/'] ++ escapeTildes token := by
          rw [replace_piece_append (by simp), ih]
        simpa [escapeChar] using hpiece
      · have hfirst : ¬ ['~', '1'] <+: c :: escape token := by simp [Ne.symm htilde]
        simp [escapeChar, htilde, hslash, replace_cons hfirst, ih]

theorem replace_escapeTildes (token : List Char) :
    replace ['~', '0'] ['~'] (escapeTildes token) = token := by
  induction token with
  | nil => exact replace_nil _ _
  | cons c token ih =>
    rw [escapeTildes, List.flatMap_cons, ← escapeTildes]
    by_cases htilde : c = '~'
    · subst htilde
      have hpiece : replace ['~', '0'] ['~'] (['~', '0'] ++ escapeTildes token) =
          ['~'] ++ token := by
        rw [replace_piece_append (by simp), ih]
      simpa using hpiece
    · have hfirst : ¬ ['~', '0'] <+: c :: escapeTildes token := by simp [Ne.symm htilde]
      simp [htilde, replace_cons hfirst, ih]

/-- Whatever a key holds, undoing its escapes gives it back. -/
theorem unescape_escape (token : List Char) : unescape (escape token) = token := by
  rw [unescape, replace_escape, replace_escapeTildes]

/-! ## Positions -/

theorem digit?_of_isDigit {c : Char} (h : c.isDigit = true) :
    digit? c = some (c.toNat - '0'.toNat) := by
  simp only [Char.isDigit, Bool.and_eq_true, decide_eq_true_eq] at h
  have hzero : (0x30 ≤ c.toNat && c.toNat < 0x30 + 10) = true := by
    simp only [Bool.and_eq_true, decide_eq_true_eq]
    exact ⟨h.1, Nat.lt_succ_of_le h.2⟩
  have hfirst : digitZeros.find? (fun first => first ≤ c.toNat && c.toNat < first + 10) =
      some 0x30 := List.find?_cons_of_pos hzero
  rw [digit?, hfirst]
  rfl

theorem isDigits_of_allDigits {ds : List Char} (h : Json.AllDigits ds) :
    Numeral.IsDigits ds (Json.digitValues ds) := by
  unfold Numeral.IsDigits Json.digitValues
  rw [List.forall₂_map_right_iff, List.forall₂_same]
  exact fun c hc => digit?_of_isDigit (h c hc)

/-- The decimal digits of a number name the position of this number, if the list is that long. -/
theorem position?_toDigits {i : Nat} (h : i < longNumber) (length : Nat) :
    position? length (Nat.toDigits 10 i) = .ok (if i < length then some i else none) := by
  have hall := Json.allDigits_toDigits i
  have hdigits : Numeral.digits? (Nat.toDigits 10 i) =
      some (Json.digitValues (Nat.toDigits 10 i)) :=
    Numeral.digits?_eq_some_iff.mpr ⟨isDigits_of_allDigits hall, by
      simp [Json.digitValues, Nat.toDigits_ne_nil]⟩
  have hplain : (Nat.toDigits 10 i).all (fun c => isDigit c || isLooseDigit c) = true := by
    simp only [List.all_eq_true, Bool.or_eq_true]
    intro c hc
    exact .inl (by rw [isDigit, digit?_of_isDigit (hall c hc)]; rfl)
  have hshort : ¬ (Json.digitValues (Nat.toDigits 10 i)).length > Numeral.digitLimit := by
    simpa [Json.digitValues] using Json.length_toDigits_le h
  simp [position?, hplain, hdigits, hshort, Json.valueOf_toDigits, Nat.toDigits_ne_nil]

/-! ## Ways -/

/-- A key of a mapping or a position in a list. -/
inductive Step where
  | key (name : String)
  | position (i : Nat)
deriving DecidableEq, Repr

/-- What a step is written as, apart from the escapes. -/
def Step.token : Step → List Char
  | .key name => name.toList
  | .position i => Nat.toDigits 10 i

/-- The steps from a value to one inside it. -/
inductive IsWay : Value → List Step → Value → Prop
  | nil (v : Value) : IsWay v [] v
  | key {entries : Entries} {name : String} {v target : Value} {way : List Step} :
      (.text name, v) ∈ entries → IsWay v way target →
      IsWay (.map entries) (.key name :: way) target
  | position {items : List Value} {i : Nat} {v target : Value} {way : List Step} :
      items[i]? = some v → IsWay v way target →
      IsWay (.list items) (.position i :: way) target

/-- The reference with the steps of a way, each behind a slash and with its escapes. -/
def pointer (way : List Step) : String :=
  String.ofList ('#' :: way.flatMap fun step => '/' :: escape step.token)

theorem splitOnChar_joined {sep : Char} {piece : List Char} {pieces : List (List Char)}
    (hpiece : sep ∉ piece) (hpieces : ∀ p ∈ pieces, sep ∉ p) :
    splitOnChar sep (piece ++ pieces.flatMap (sep :: ·)) = piece :: pieces := by
  induction pieces generalizing piece with
  | nil => simpa using splitOnChar_eq_singleton hpiece
  | cons next pieces ih =>
    obtain ⟨hnext, hrest⟩ := List.forall_mem_cons.mp hpieces
    rw [List.flatMap_cons, List.cons_append, splitOnChar_append hpiece, ih hnext hrest]

/-- The slash in front of the first step is passed over, and no other one unless the step is empty. -/
theorem tokens_pointer {first : Step} (hfirst : first.token ≠ []) (way : List Step) :
    tokens ((first :: way).flatMap fun step => '/' :: escape step.token) =
      (first :: way).map Step.token := by
  obtain ⟨c, written, hwritten⟩ := List.exists_cons_of_ne_nil (mt escape_eq_nil_iff.mp hfirst)
  have hc : c ≠ '/' := by
    rintro rfl
    exact slash_not_mem_escape first.token (hwritten ▸ List.mem_cons_self)
  have hdrop : ((first :: way).flatMap fun step => '/' :: escape step.token).dropWhile (· = '/') =
      escape first.token ++ (way.map fun step => escape step.token).flatMap ('/' :: ·) := by
    simp [hwritten, hc, List.flatMap_map]
  have hpieces : ∀ p ∈ way.map fun step => escape step.token, '/' ∉ p := by
    intro p hp
    obtain ⟨step, -, rfl⟩ := List.mem_map.mp hp
    exact slash_not_mem_escape step.token
  rw [tokens, hdrop, splitOnChar_joined (slash_not_mem_escape _) hpieces]
  simp [unescape_escape, Function.comp_def]

/-- Every step leads where its text leads. -/
theorem IsWay.foldlM_child {reference : String} {v target : Value} {way : List Step}
    (h : IsWay v way target) (hkeys : v.HasTextKeys)
    (hshort : ∀ i, .position i ∈ way → i < longNumber) :
    (way.map Step.token).foldlM (child reference) v = .ok target := by
  induction h with
  | nil v => rfl
  | @key entries name v target way hmem _ ih =>
    cases hkeys with
    | map hentries hvalues =>
      have hget := Entries.get?_of_mem entries name hentries.nodup hmem
      have hchild : child reference (.map entries) (Step.key name).token = .ok v := by
        rw [child_map_ok_iff, Step.token, String.ofList_toList, hget]
      rw [List.map_cons, List.foldlM_cons, hchild]
      exact ih (hvalues _ hmem) fun i hi => hshort i (List.mem_cons_of_mem _ hi)
  | @position items i v target way hitem _ ih =>
    cases hkeys with
    | list hvalues =>
      obtain ⟨hlt, -⟩ := List.getElem?_eq_some_iff.mp hitem
      have hposition := position?_toDigits (hshort i List.mem_cons_self) items.length
      rw [if_pos hlt] at hposition
      have hchild : child reference (.list items) (Step.position i).token = .ok v :=
        child_list_ok_iff.mpr ⟨i, hposition, hitem⟩
      rw [List.map_cons, List.foldlM_cons, hchild]
      exact ih (hvalues _ (List.mem_of_getElem? hitem)) fun j hj =>
        hshort j (List.mem_cons_of_mem _ hj)

/-- The reference with the steps to a value points to it, whatever the keys on the way hold; only the
first one may not be empty. No list is so long that its positions have more digits than a numeral may
have. -/
theorem resolve_pointer {root target : Value} {way : List Step} (hkeys : root.HasTextKeys)
    (h : IsWay root way target) (hne : way ≠ []) (hfirst : way.head? ≠ some (.key ""))
    (hshort : ∀ i, .position i ∈ way → i < longNumber) :
    resolve root (pointer way) = .ok target := by
  obtain ⟨first, rest, rfl⟩ := List.exists_cons_of_ne_nil hne
  have htoken : first.token ≠ [] := by
    cases first with
    | key name => simpa [Step.token] using hfirst
    | position i => exact Nat.toDigits_ne_nil
  have hpath : (pointer (first :: rest)).toList.drop 1 =
      (first :: rest).flatMap fun step => '/' :: escape step.token := by
    simp [pointer]
  have hresolve : resolve root (pointer (first :: rest)) =
      (tokens ((first :: rest).flatMap fun step => '/' :: escape step.token)).foldlM
        (child (pointer (first :: rest))) root := by
    rw [resolve, hpath]
    rfl
  rw [hresolve, tokens_pointer htoken]
  exact h.foldlM_child hkeys hshort

/-- Keys that hold a slash, a tilde, what looks like an escape, digits or nothing, and a list. -/
def tricky : Value :=
  .map [(.text "~1", .list [.null,
    .map [(.text "", .map [(.text "a/~01", .map [(.text "0", .int 7)])])]])]

def trickyWay : List Step := [.key "~1", .position 1, .key "", .key "a/~01", .key "0"]

theorem hasTextKeys_tricky : tricky.HasTextKeys := by
  have hsingle : ∀ (name : String) (v : Value), v.HasTextKeys →
      (Value.map [(.text name, v)]).HasTextKeys := by
    intro name v hv
    refine .map ⟨by simp, by simp⟩ ?_
    simpa using hv
  refine hsingle _ _ (.list ?_)
  intro v hv
  rcases List.mem_pair.mp hv with rfl | rfl
  · exact .scalar .null
  · exact hsingle _ _ (hsingle _ _ (hsingle _ _ (.scalar (.int 7))))

theorem isWay_tricky : IsWay tricky trickyWay (.int 7) :=
  .key List.mem_cons_self <| .position rfl <| .key List.mem_cons_self <|
    .key List.mem_cons_self <| .key List.mem_cons_self <| .nil _

theorem resolve_pointer_tricky :
    tricky.HasTextKeys ∧ IsWay tricky trickyWay (.int 7) ∧ trickyWay ≠ [] ∧
    trickyWay.head? ≠ some (.key "") ∧ (∀ i, .position i ∈ trickyWay → i < longNumber) ∧
    pointer trickyWay = "#/~01/1//a~1~001/0" ∧
    resolve tricky (pointer trickyWay) = .ok (.int 7) := by
  have hne : trickyWay ≠ [] := by decide
  have hfirst : trickyWay.head? ≠ some (.key "") := by decide
  have hshort : ∀ i, .position i ∈ trickyWay → i < longNumber := by
    intro i hi
    obtain rfl : i = 1 := by simpa [trickyWay] using hi
    have hlimit : Numeral.digitLimit ≠ 0 := by decide
    unfold longNumber
    -- The power is not to be computed.
    generalize Numeral.digitLimit = limit at hlimit
    exact Nat.one_lt_pow hlimit (by decide)
  exact ⟨hasTextKeys_tricky, isWay_tricky, hne, hfirst, hshort, by decide,
    resolve_pointer hasTextKeys_tricky isWay_tricky hne hfirst hshort⟩

end Reference
end Arazzo
