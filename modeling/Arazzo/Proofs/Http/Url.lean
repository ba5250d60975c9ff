import Arazzo.Http.Url
import Arazzo.Proofs.Except
import Arazzo.Proofs.Http.Form
import Mathlib.Data.List.TakeWhile

/-!
# The query of a URL

The query of a text is what follows its first question mark, if no number sign stands in front of it.
Form data behind that question mark is kept as it is: every character of it may stand in a query. So
it is the query of the normal form too, and of the URL that a request is sent to.
-/

namespace Arazzo
namespace Url

open Text

/-- A text in which neither a query nor a fragment starts. -/
def IsBare (cs : List Char) : Prop := '?' ∉ cs ∧ '#' ∉ cs

instance (cs : List Char) : Decidable (IsBare cs) :=
  inferInstanceAs (Decidable (_ ∧ _))

theorem isBare_append {cs ds : List Char} : IsBare (cs ++ ds) ↔ IsBare cs ∧ IsBare ds := by
  simp only [IsBare, List.mem_append, not_or]
  tauto

theorem IsBare.append {cs ds : List Char} (hcs : IsBare cs) (hds : IsBare ds) :
    IsBare (cs ++ ds) :=
  isBare_append.mpr ⟨hcs, hds⟩

theorem isBare_iff {cs : List Char} :
    IsBare cs ↔ ∀ c ∈ cs, (decide (c = '?') || decide (c = '#')) = false := by
  simp only [Bool.or_eq_false_iff, decide_eq_false_iff_not]
  exact ⟨fun h c hc => ⟨fun heq => h.1 (heq ▸ hc), fun heq => h.2 (heq ▸ hc)⟩,
    fun h => ⟨fun hmem => (h _ hmem).1 rfl, fun hmem => (h _ hmem).2 rfl⟩⟩

/-- The end of a text from a query on: nothing, or a question mark and characters that stand for
themselves in a query. -/
inductive IsQuery : List Char → Option (List Char) → Prop
  | none : IsQuery [] none
  | some {query : List Char} : (∀ c ∈ query, isQueryChar c = true) → ':' ∉ query →
      IsQuery ('?' :: query) (some query)

/-- Every character that form data is written with may stand in a query. -/
theorem isQueryChar_of_isWritten : ∀ n < 128,
    (Char.ofNat n = '&' ∨ Char.ofNat n = '=' ∨ Form.isWritten (Char.ofNat n) = true) →
      isQueryChar (Char.ofNat n) = true ∧ Char.ofNat n ≠ ':' := by
  decide

theorem isQuery_encodeStrings (pairs : List (String × String)) :
    IsQuery ("?" ++ Form.encodeStrings pairs).toList (some (Form.encodeStrings pairs).toList) := by
  have hsafe : ∀ c ∈ (Form.encodeStrings pairs).toList, isQueryChar c = true ∧ c ≠ ':' := by
    intro c hc
    rw [Form.encodeStrings, String.toList_ofList] at hc
    have hspec := isQueryChar_of_isWritten c.toNat (Form.toNat_lt_of_mem_encode hc)
    rw [Char.ofNat_toNat] at hspec
    exact hspec (Form.mem_encode hc)
  rw [String.toList_append]
  exact .some (fun c hc => (hsafe c hc).1) fun hmem => (hsafe _ hmem).2 rfl

/-! ## Where the query starts -/

/-- The authority behind two slashes, and what follows it. -/
def cutAuthority (cs : List Char) : List Char × List Char :=
  match cs with
  | '/' :: '/' :: rest => spanUntil (fun c => c = '/' || c = '?' || c = '#') rest
  | _ => ([], cs)

/-- The query behind a question mark, and what follows it. -/
def cutQuery (cs : List Char) : Option (List Char) × List Char :=
  match cs with
  | '?' :: rest => (some (spanUntil (· = '#') rest).1, (spanUntil (· = '#') rest).2)
  | _ => (none, cs)

/-- What follows the path of a text. -/
def afterPath (cs : List Char) : List Char :=
  (spanUntil (fun c => c = '?' || c = '#') (cutAuthority (cutScheme cs).2).2).2

/-- What follows a number sign. -/
def cutFragment? : List Char → Option (List Char)
  | '#' :: rest => some rest
  | _ => none

theorem partsOf_query (cs : List Char) : (partsOf cs).query = (cutQuery (afterPath cs)).1 :=
  rfl

theorem partsOf_fragment (cs : List Char) :
    (partsOf cs).fragment = cutFragment? (cutQuery (afterPath cs)).2 :=
  rfl

variable {base tail : List Char} {query : Option (List Char)}

/-- No character of a class that lacks the question mark is dropped from a query. -/
theorem dropWhile_append {p : Char → Bool} (h : IsQuery tail query) (hp : p '?' = false) :
    (base ++ tail).dropWhile p = base.dropWhile p ++ tail := by
  have htail : tail.dropWhile p = tail := by
    cases h with
    | none => rfl
    | some => simp [hp]
  rw [List.dropWhile_append, htail]
  split_ifs with hbase
  · rw [List.isEmpty_iff.mp hbase, List.nil_append]
  · rfl

theorem spanUntil_append {stop : Char → Bool} (h : IsQuery tail query) (hstop : stop '?' = true) :
    (spanUntil stop (base ++ tail)).2 = (spanUntil stop base).2 ++ tail :=
  dropWhile_append h (by simp [hstop])

/-- A text is passed over as a whole if it has no character of a class. -/
theorem spanUntil_eq_nil {stop : Char → Bool} :
    (spanUntil stop base).2 = [] ↔ ∀ c ∈ base, stop c = false := by
  simp [spanUntil, List.dropWhile_eq_nil_iff]

theorem cutScheme_of_not_mem {cs : List Char} (h : ':' ∉ cs) : cutScheme cs = ([], cs) := by
  rw [cutScheme, cutAt_eq_none h]

/-- A scheme that ends in a text has its end there whatever follows. -/
theorem cutScheme_append_of_mem (h : ':' ∈ base) (tail : List Char) :
    cutScheme (base ++ tail) = ((cutScheme base).1, (cutScheme base).2 ++ tail) := by
  obtain ⟨front, rest, rfl, hfront⟩ := List.eq_append_cons_of_mem h
  rw [List.append_assoc, List.cons_append, cutScheme, cutScheme, cutAt_append hfront,
    cutAt_append hfront]
  cases front with
  | nil => rfl
  | cons c scheme =>
    dsimp only
    split_ifs
    · rfl
    · simp

theorem cutScheme_append (h : ':' ∉ tail) :
    (cutScheme (base ++ tail)).2 = (cutScheme base).2 ++ tail := by
  by_cases hmem : ':' ∈ base
  · rw [cutScheme_append_of_mem hmem]
  · rw [cutScheme_of_not_mem hmem, cutScheme_of_not_mem (by simp [hmem, h])]

theorem exists_cutScheme (cs : List Char) :
    ∃ front, IsBare front ∧ cs = front ++ (cutScheme cs).2 := by
  by_cases hmem : ':' ∈ cs
  · obtain ⟨front, rest, rfl, hfront⟩ := List.eq_append_cons_of_mem hmem
    rw [cutScheme, cutAt_append hfront]
    cases front with
    | nil => exact ⟨[':'], ⟨by decide, by decide⟩, rfl⟩
    | cons c scheme =>
      dsimp only
      split_ifs with hscheme
      · rw [Bool.and_eq_true, List.all_eq_true] at hscheme
        have hall : ∀ d ∈ c :: scheme, isSchemeChar d = true := by
          refine List.forall_mem_cons.mpr ⟨?_, hscheme.2⟩
          simp [isSchemeChar, Char.isAlphanum, hscheme.1]
        have hbare : IsBare (c :: scheme) :=
          ⟨fun h => absurd (hall _ h) (by decide), fun h => absurd (hall _ h) (by decide)⟩
        exact ⟨c :: scheme ++ [':'], hbare.append ⟨by decide, by decide⟩, by simp⟩
      · exact ⟨[], ⟨by simp, by simp⟩, rfl⟩
  · exact ⟨[], ⟨by simp, by simp⟩, by rw [cutScheme_of_not_mem hmem, List.nil_append]⟩

theorem cutAuthority_of_ne {cs : List Char} (h : ∀ rest, cs ≠ '/' :: '/' :: rest) :
    cutAuthority cs = ([], cs) := by
  unfold cutAuthority
  split
  · exact absurd rfl (h _)
  · rfl

theorem cutAuthority_append (h : IsQuery tail query) :
    (cutAuthority (base ++ tail)).2 = (cutAuthority base).2 ++ tail := by
  by_cases hslashes : ∃ rest, base = '/' :: '/' :: rest
  · obtain ⟨rest, rfl⟩ := hslashes
    exact spanUntil_append h rfl
  · rw [not_exists] at hslashes
    rw [cutAuthority_of_ne hslashes]
    refine congrArg Prod.snd (cutAuthority_of_ne fun rest heq => ?_)
    -- No slash of the tail can make up for one that the text in front of it lacks.
    cases h with
    | none => exact hslashes rest (by rw [← heq, List.append_nil])
    | some => rcases base with _ | ⟨c, _ | ⟨d, more⟩⟩ <;> simp_all

theorem exists_cutAuthority (cs : List Char) :
    ∃ front, IsBare front ∧ cs = front ++ (cutAuthority cs).2 := by
  by_cases hslashes : ∃ rest, cs = '/' :: '/' :: rest
  · obtain ⟨rest, rfl⟩ := hslashes
    let inside : Char → Bool := fun c => !(c = '/' || c = '?' || c = '#')
    have hinside : IsBare (rest.takeWhile inside) :=
      ⟨fun hmem => absurd (List.mem_takeWhile_imp hmem) (by decide),
        fun hmem => absurd (List.mem_takeWhile_imp hmem) (by decide)⟩
    refine ⟨['/', '/'] ++ rest.takeWhile inside, .append ⟨by decide, by decide⟩ hinside, ?_⟩
    exact congrArg (['/', '/'] ++ ·) (List.takeWhile_append_dropWhile (p := inside)).symm
  · rw [not_exists] at hslashes
    exact ⟨[], ⟨by simp, by simp⟩, by rw [cutAuthority_of_ne hslashes, List.nil_append]⟩

theorem number_not_mem {cs : List Char} (h : ∀ c ∈ cs, isQueryChar c = true) : '#' ∉ cs :=
  fun hmem => absurd (h _ hmem) (by decide)

theorem IsQuery.colon_not_mem (h : IsQuery tail query) : ':' ∉ tail := by
  cases h with
  | none => simp
  | some _ hcolon => simpa using hcolon

theorem afterPath_append (h : IsQuery tail query) :
    afterPath (base ++ tail) = afterPath base ++ tail := by
  rw [afterPath, cutScheme_append h.colon_not_mem, cutAuthority_append h, spanUntil_append h rfl,
    afterPath]

/-- Something follows the path of a text if a query or a fragment starts in it. -/
theorem afterPath_eq_nil : afterPath base = [] ↔ IsBare base := by
  obtain ⟨scheme, hscheme, hrest⟩ := exists_cutScheme base
  obtain ⟨authority, hauthority, hpath⟩ := exists_cutAuthority (cutScheme base).2
  calc afterPath base = []
    _ ↔ IsBare (cutAuthority (cutScheme base).2).2 := spanUntil_eq_nil.trans isBare_iff.symm
    _ ↔ IsBare (authority ++ (cutAuthority (cutScheme base).2).2) := by
      rw [isBare_append, and_iff_right hauthority]
    _ ↔ IsBare (scheme ++ (cutScheme base).2) := by
      rw [← hpath, isBare_append, and_iff_right hscheme]
    _ ↔ IsBare base := by rw [← hrest]

theorem cutQuery_of_isQuery (h : IsQuery tail query) : cutQuery tail = (query, []) := by
  cases h with
  | none => rfl
  | @some query hsafe =>
    have hstop : ∀ c ∈ query, decide (c = '#') = false := fun c hc =>
      decide_eq_false fun heq => number_not_mem hsafe (heq ▸ hc)
    have hwhole : (spanUntil (· = '#') query).1 = query :=
      List.takeWhile_eq_self_iff.mpr fun c hc => by simp [hstop c hc]
    rw [cutQuery, hwhole, spanUntil_eq_nil.mpr hstop]

/-- The query starts behind what is bare. -/
theorem partsOf_query_append (hbase : IsBare base) (h : IsQuery tail query) :
    (partsOf (base ++ tail)).query = query := by
  rw [partsOf_query, afterPath_append h, afterPath_eq_nil.mpr hbase, List.nil_append,
    cutQuery_of_isQuery h]

/-- No fragment starts behind what is bare and a query. -/
theorem partsOf_fragment_append (hbase : IsBare base) (h : IsQuery tail query) :
    (partsOf (base ++ tail)).fragment = none := by
  rw [partsOf_fragment, afterPath_append h, afterPath_eq_nil.mpr hbase, List.nil_append,
    cutQuery_of_isQuery h]
  rfl

/-! ## Normal forms -/

theorem escape_eq_self {safe : Char → Bool} {cs : List Char} (h : ∀ c ∈ cs, safe c = true) :
    Form.escape safe cs = cs := by
  induction cs with
  | nil => rfl
  | cons c cs ih =>
    obtain ⟨hc, hcs⟩ := List.forall_mem_cons.mp h
    rw [Form.escape, List.flatMap_cons, if_pos hc, ← Form.escape, ih hcs]
    rfl

theorem escape_append (safe : Char → Bool) (cs ds : List Char) :
    Form.escape safe (cs ++ ds) = Form.escape safe cs ++ Form.escape safe ds :=
  List.flatMap_append

theorem escapePart?_query (h : IsQuery tail query) :
    escapePart? isQueryChar query = .ok (query.map String.ofList) := by
  cases h with
  | none => rfl
  | some hsafe =>
    have hascii : isEncodable _ = true := isEncodable_of_ascii fun c hc => by
      have hvisible := hsafe c hc
      simp only [isQueryChar, visibleWithout, Bool.and_eq_true, decide_eq_true_eq] at hvisible
      omega
    simp [escapePart?, escapePart, hascii, escape_eq_self hsafe, Except.map]

theorem question_not_mem_escape (cs : List Char) : '?' ∉ Form.escape isPathChar cs := by
  intro hmem
  obtain ⟨c, -, hc⟩ := List.mem_flatMap.mp hmem
  split_ifs at hc with hsafe
  · rw [← List.mem_singleton.mp hc] at hsafe
    exact absurd hsafe (by decide)
  · rcases Form.mem_escapeChar hc with heq | halphanum
    · exact absurd heq (by decide)
    · exact absurd halphanum (by decide)

theorem escapePart_ok {safe : Char → Bool} {cs : List Char} {s : String}
    (h : escapePart safe cs = .ok s) : s = String.ofList (Form.escape safe cs) := by
  unfold escapePart at h
  split_ifs at h
  exact (Except.ok.inj h).symm

/-- What the parts of a normal form are made of. -/
structure IsNormalOf (url : Url) (parts : Parts) : Prop where
  scheme : String.ofList (lowerAscii parts.scheme) = url.scheme
  userinfo : escapePart isUserinfoChar parts.userinfo = .ok url.userinfo
  host : (normalHost parts.host).map String.ofList = .ok url.host
  port : normalPort parts.port parts.scheme = .ok url.port
  path : ∃ path, escapePart isPathChar path = .ok url.path
  query : escapePart? isQueryChar parts.query = .ok url.query
  fragment : escapePart? isFragmentChar parts.fragment = .ok url.fragment

theorem ofParts_ok {parts : Parts} {url : Url} (h : ofParts parts = .ok url) :
    IsNormalOf url parts := by
  obtain ⟨userinfo, huserinfo, h⟩ := bind_eq_ok h
  obtain ⟨host, hhost, h⟩ := bind_eq_ok h
  obtain ⟨port, hport, h⟩ := bind_eq_ok h
  obtain ⟨-, -, h⟩ := bind_eq_ok h
  obtain ⟨path, hpath, h⟩ := bind_eq_ok h
  obtain ⟨query, hquery, h⟩ := bind_eq_ok h
  obtain ⟨fragment, hfragment, h⟩ := bind_eq_ok h
  obtain rfl := Except.ok.inj h
  exact ⟨rfl, huserinfo, map_ok_iff.mpr ⟨host, hhost, rfl⟩, hport, ⟨_, hpath⟩, hquery, hfragment⟩

/-- No query starts in the path of a normal form. -/
theorem IsNormalOf.question_not_mem {parts : Parts} {url : Url} (h : IsNormalOf url parts) :
    '?' ∉ url.path.toList := by
  obtain ⟨path, hpath⟩ := h.path
  rw [escapePart_ok hpath, String.toList_ofList]
  exact question_not_mem_escape path

theorem read_ok {cs : List Char} {url : Url} (h : read cs = .ok url) :
    ofParts (partsOf cs) = .ok url := by
  obtain ⟨-, -, h⟩ := bind_eq_ok h
  exact h

/-- A request keeps the query of its URL, with or without a scheme and a host. -/
theorem forRequest_query {url result : Url} (h : IsQuery tail query)
    (hquery : url.query = query.map String.ofList) (hpath : '?' ∉ url.path.toList)
    (hresult : forRequest url = .ok result) : result.query = query.map String.ofList := by
  unfold forRequest at hresult
  split_ifs at hresult with habsolute
  · rw [← Except.ok.inj hresult, hquery]
  · have htarget : url.target.toList =
        (if url.path = "" then "/" else url.path).toList ++ tail := by
      cases h <;> simp_all [target, queryText]
    have hbare : '?' ∉ (if url.path = "" then "/" else url.path).toList := by
      split_ifs
      · decide
      · exact hpath
    have hrest : (spanUntil (· = '?')
        ('/' :: url.target.toList.dropWhile (· = '/'))).2 = tail := by
      rw [htarget, dropWhile_append h rfl, ← List.cons_append, spanUntil_append h rfl]
      refine (congrArg (· ++ tail) (spanUntil_eq_nil.mpr fun c hc => ?_)).trans (List.nil_append tail)
      rcases List.mem_cons.mp hc with rfl | hmem
      · rfl
      · have hne : c ≠ '?' := fun heq => hbare (heq ▸ (List.dropWhile_sublist _).subset hmem)
        simp [hne]
    have hparts : ofParts ⟨[], [], [], [], (spanUntil (· = '?')
        ('/' :: url.target.toList.dropWhile (· = '/'))).1, (spanUntil (· = '?')
        ('/' :: url.target.toList.dropWhile (· = '/'))).2.tail?, none⟩ = .ok result := hresult
    have hresultQuery := (ofParts_ok hparts).query
    have htail : tail.tail? = query := by cases h <;> rfl
    rw [hrest, htail, escapePart?_query h] at hresultQuery
    exact (Except.ok.inj hresultQuery).symm

/-- Form data behind what is bare is the query of the request. -/
theorem query_of_text {url : Url} (hbase : IsBare base) (h : IsQuery tail query)
    (hurl : (read (base ++ tail)).bind forRequest = .ok url) :
    url.query = query.map String.ofList := by
  obtain ⟨normal, hread, hrequest⟩ := bind_eq_ok hurl
  have hnormal := ofParts_ok (read_ok hread)
  have hquery := hnormal.query
  rw [partsOf_query_append hbase h, escapePart?_query h] at hquery
  exact forRequest_query h (Except.ok.inj hquery).symm hnormal.question_not_mem hrequest

end Url
end Arazzo
