import Arazzo.Proofs.Http.Url

/-!
# The parts of a URL around its path

What follows a slash behind the text of a server has no part in the scheme, the user information, the
host and the port, unless that text ends behind its scheme: then two slashes start an authority. The
query and the fragment of an absolute URL are those of the text behind its path, unless the path holds
a character that starts one of them.
-/

namespace Arazzo
namespace Url

open Text

/-- Scheme, user information, host and port of a URL. -/
def origin (url : Url) : String × String × String × Option Int :=
  (url.scheme, url.userinfo, url.host, url.port)

/-- The parts as they are written that the origin comes from. -/
def Parts.origin (parts : Parts) : List Char × List Char × List Char × List Char :=
  (parts.scheme, parts.userinfo, parts.host, parts.port)

/-- A text that ends behind its scheme. -/
def IsBareScheme (cs : List Char) : Prop := (cutScheme cs).1 ≠ [] ∧ (cutScheme cs).2 = []

instance (cs : List Char) : Decidable (IsBareScheme cs) :=
  inferInstanceAs (Decidable (_ ∧ _))

theorem partsOf_origin (cs : List Char) : (partsOf cs).origin =
    ((cutScheme cs).1, splitAuthority (cutAuthority (cutScheme cs).2).1) :=
  rfl

/-! ## A slash behind a text -/

variable {front rest rest' : List Char}

/-- No scheme reaches over a slash. -/
theorem cutScheme_slash (front rest : List Char) : cutScheme (front ++ '/' :: rest) =
    ((cutScheme front).1, (cutScheme front).2 ++ '/' :: rest) := by
  by_cases hmem : ':' ∈ front
  · exact cutScheme_append_of_mem hmem _
  rw [cutScheme_of_not_mem hmem]
  by_cases hrest : ':' ∈ rest
  · obtain ⟨before, behind, rfl, hbefore⟩ := List.eq_append_cons_of_mem hrest
    have hfirst : ':' ∉ front ++ '/' :: before := by simp [hmem, hbefore]
    have hcut := cutAt_append hfirst behind
    rw [List.append_assoc, List.cons_append] at hcut
    rw [cutScheme, hcut]
    cases front with
    | nil => rfl
    | cons c scheme =>
      have hslash : isSchemeChar '/' = false := by decide
      simp [hslash]
  · exact cutScheme_of_not_mem (by simp [hmem, hrest])

theorem takeWhile_append_of_neg {p : Char → Bool} {c : Char} (hc : p c = false)
    (front rest : List Char) : (front ++ c :: rest).takeWhile p = front.takeWhile p := by
  rw [List.takeWhile_append]
  split_ifs with hlength
  · rw [List.takeWhile_cons, hc, if_neg Bool.false_ne_true, List.append_nil]
    exact ((List.takeWhile_prefix p).eq_of_length hlength).symm
  · rfl

/-- No authority reaches over a slash, unless it completes the two slashes in front of one. -/
theorem cutAuthority_slash (hlast : front.getLast? ≠ some '/')
    (hslashes : front = [] → ¬ ['/'] <+: rest) :
    (cutAuthority (front ++ '/' :: rest)).1 = (cutAuthority front).1 := by
  by_cases hfront : ∃ more, front = '/' :: '/' :: more
  · obtain ⟨more, rfl⟩ := hfront
    exact takeWhile_append_of_neg rfl more rest
  rw [not_exists] at hfront
  have hne : ∀ more, front ++ '/' :: rest ≠ '/' :: '/' :: more := by
    rintro more heq
    rcases front with _ | ⟨c, _ | ⟨d, front⟩⟩
    · exact hslashes rfl ⟨more, (List.cons.inj heq).2.symm⟩
    · exact hlast (congrArg some (List.cons.inj heq).1)
    · simp_all
  rw [cutAuthority_of_ne hne, cutAuthority_of_ne hfront]

/-! ## The origin of a request -/

variable {parts parts' : Parts} {url url' result result' : Url}

/-- Parts that share their origin have normal forms that do. -/
theorem IsNormalOf.origin_eq (h : IsNormalOf url parts) (h' : IsNormalOf url' parts')
    (hsame : parts.origin = parts'.origin) : url.origin = url'.origin := by
  simp only [Parts.origin, Prod.mk.injEq] at hsame
  obtain ⟨hscheme, huserinfo, hhost, hport⟩ := hsame
  have hscheme' : url.scheme = url'.scheme := by rw [← h.scheme, hscheme, h'.scheme]
  have huserinfo' := h.userinfo
  rw [huserinfo, h'.userinfo] at huserinfo'
  have hhost' := h.host
  rw [hhost, h'.host] at hhost'
  have hport' := h.port
  rw [hport, hscheme, h'.port] at hport'
  rw [origin, origin, hscheme', Except.ok.inj huserinfo', Except.ok.inj hhost',
    Except.ok.inj hport']

theorem eq_of_absolute (habsolute : url.isAbsolute = true) (h : forRequest url = .ok result) :
    result = url := by
  rw [forRequest, habsolute, if_pos rfl] at h
  exact (Except.ok.inj h).symm

/-- A URL that is not absolute is sent as one without an origin and a fragment. -/
theorem exists_parts_of_relative (hrelative : url.isAbsolute = false)
    (h : forRequest url = .ok result) :
    ∃ path query, IsNormalOf result ⟨[], [], [], [], path, query, none⟩ := by
  rw [forRequest, hrelative, if_neg Bool.false_ne_true] at h
  exact ⟨_, _, ofParts_ok h⟩

theorem origin_eq_of_relative (hrelative : url.isAbsolute = false)
    (hrelative' : url'.isAbsolute = false) (h : forRequest url = .ok result)
    (h' : forRequest url' = .ok result') : result.origin = result'.origin := by
  obtain ⟨path, query, hnormal⟩ := exists_parts_of_relative hrelative h
  obtain ⟨path', query', hnormal'⟩ := exists_parts_of_relative hrelative' h'
  exact hnormal.origin_eq hnormal' rfl

theorem isAbsolute_eq_of_origin (h : url.origin = url'.origin) :
    url.isAbsolute = url'.isAbsolute :=
  congrArg (fun origin : String × String × String × Option Int =>
    origin.1 != "" && origin.2.2.1 != "") h

theorem IsNormalOf.isAbsolute_eq_false (h : IsNormalOf url parts) (hscheme : parts.scheme = []) :
    url.isAbsolute = false := by
  rw [isAbsolute, ← h.scheme, hscheme]
  rfl

theorem eq_of_sent_absolute (habsolute : result.isAbsolute = true)
    (h : forRequest url = .ok result) : result = url := by
  cases hkind : url.isAbsolute with
  | true => exact eq_of_absolute hkind h
  | false =>
    obtain ⟨path, query, hnormal⟩ := exists_parts_of_relative hkind h
    rw [hnormal.isAbsolute_eq_false rfl] at habsolute
    cases habsolute

/-- A request keeps what its origin comes from, and without a scheme none of it. -/
theorem IsNormalOf.request_origin (h : IsNormalOf url parts) (h' : IsNormalOf url' parts')
    (hsame : parts.origin = parts'.origin ∨ parts.scheme = [] ∧ parts'.scheme = [])
    (hresult : forRequest url = .ok result) (hresult' : forRequest url' = .ok result') :
    result.origin = result'.origin := by
  rcases hsame with hsame | ⟨hscheme, hscheme'⟩
  · have horigin := h.origin_eq h' hsame
    have hkind := isAbsolute_eq_of_origin horigin
    cases habsolute : url.isAbsolute with
    | true =>
      rw [eq_of_absolute habsolute hresult, eq_of_absolute (hkind ▸ habsolute) hresult', horigin]
    | false => exact origin_eq_of_relative habsolute (hkind ▸ habsolute) hresult hresult'
  · exact origin_eq_of_relative (h.isAbsolute_eq_false hscheme) (h'.isAbsolute_eq_false hscheme')
      hresult hresult'

/-- What follows a slash behind a text has no part in the origin, as long as it does not complete the
two slashes of an authority behind a scheme. -/
theorem origin_of_text (hlast : front.getLast? ≠ some '/')
    (hslashes : IsBareScheme front → ¬ ['/'] <+: rest ∧ ¬ ['/'] <+: rest')
    (h : (read (front ++ '/' :: rest)).bind forRequest = .ok url)
    (h' : (read (front ++ '/' :: rest')).bind forRequest = .ok url') :
    url.origin = url'.origin := by
  obtain ⟨normal, hread, hrequest⟩ := bind_eq_ok h
  obtain ⟨normal', hread', hrequest'⟩ := bind_eq_ok h'
  refine (ofParts_ok (read_ok hread)).request_origin (ofParts_ok (read_ok hread')) ?_ hrequest
    hrequest'
  by_cases hscheme : (cutScheme front).1 = []
  · refine .inr ⟨?_, ?_⟩
    · exact (congrArg Prod.fst (cutScheme_slash front rest)).trans hscheme
    · exact (congrArg Prod.fst (cutScheme_slash front rest')).trans hscheme
  · have hlast' : (cutScheme front).2.getLast? ≠ some '/' := by
      obtain ⟨scheme, -, hfront⟩ := exists_cutScheme front
      intro hslash
      rw [hfront, List.getLast?_append, hslash] at hlast
      exact hlast rfl
    refine .inl ?_
    rw [partsOf_origin, partsOf_origin, cutScheme_slash, cutScheme_slash,
      cutAuthority_slash hlast' fun hnil => (hslashes ⟨hscheme, hnil⟩).1,
      cutAuthority_slash hlast' fun hnil => (hslashes ⟨hscheme, hnil⟩).2]

/-! ## The query and the fragment of a request -/

variable {base tail : List Char} {query : Option (List Char)}

/-- A query and a fragment start behind a path that ends before the end of the text. -/
theorem afterPath_eq_cons {c : Char} {rest : List Char} (h : afterPath base = c :: rest) :
    c = '?' ∨ c = '#' := by
  have hstop := List.head?_dropWhile_not (fun c => !(decide (c = '?') || decide (c = '#')))
    (cutAuthority (cutScheme base).2).2
  change List.dropWhile _ _ = c :: rest at h
  rw [h] at hstop
  simpa [imp_iff_not_or] using hstop

theorem number_not_mem_of_cutFragment {cs : List Char}
    (h : cutFragment? (spanUntil (· = '#') cs).2 = none) : '#' ∉ cs := by
  intro hmem
  obtain ⟨front, rest, rfl, hfront⟩ := List.eq_append_cons_of_mem hmem
  have hpassed : ∀ c ∈ front, decide (c = '#') = false := fun c hc =>
    decide_eq_false fun heq => hfront (heq ▸ hc)
  have hrest : (spanUntil (· = '#') (front ++ '#' :: rest)).2 = '#' :: rest := by
    rw [spanUntil, List.dropWhile_append_of_pos fun c hc => by simp [hpassed c hc]]
    rfl
  rw [hrest] at h
  cases h

/-- No fragment starts behind what is bare and a query. -/
theorem fragment_of_text (hbase : IsBare base) (h : IsQuery tail query)
    (hurl : (read (base ++ tail)).bind forRequest = .ok url) : url.fragment = none := by
  obtain ⟨normal, hread, hrequest⟩ := bind_eq_ok hurl
  have hfragment := (ofParts_ok (read_ok hread)).fragment
  rw [partsOf_fragment_append hbase h] at hfragment
  cases habsolute : normal.isAbsolute with
  | true => rw [eq_of_absolute habsolute hrequest, ← Except.ok.inj hfragment]
  | false =>
    obtain ⟨path, query', hnormal⟩ := exists_parts_of_relative habsolute hrequest
    exact (Except.ok.inj hnormal.fragment).symm

/-- The query of an absolute URL is that at the end of its text, without a fragment, only if no other
query and no fragment starts in front of it. -/
theorem isBare_of_text (h : IsQuery tail query)
    (hurl : (read (base ++ tail)).bind forRequest = .ok url) (habsolute : url.isAbsolute = true)
    (hquery : url.query = query.map String.ofList) (hfragment : url.fragment = none) :
    IsBare base := by
  obtain ⟨normal, hread, hrequest⟩ := bind_eq_ok hurl
  obtain rfl := eq_of_sent_absolute habsolute hrequest
  have hnormal := ofParts_ok (read_ok hread)
  have hfragmentPart := hnormal.fragment
  have hqueryPart := hnormal.query
  rw [partsOf_fragment, afterPath_append h, hfragment] at hfragmentPart
  rw [partsOf_query, afterPath_append h, hquery] at hqueryPart
  have hnone : cutFragment? (cutQuery (afterPath base ++ tail)).2 = none := by
    cases hcut : cutFragment? (cutQuery (afterPath base ++ tail)).2 with
    | none => rfl
    | some cs =>
      obtain ⟨s, -, hs⟩ := map_ok_iff.mp (hcut ▸ hfragmentPart)
      cases hs
  cases hafter : afterPath base with
  | nil => exact afterPath_eq_nil.mp hafter
  | cons c rest =>
    rw [hafter, List.cons_append] at hnone hqueryPart
    rcases afterPath_eq_cons hafter with rfl | rfl
    · -- A query that starts here holds all that follows, so it is longer than the one at the end.
      have hwhole : (spanUntil (· = '#') (rest ++ tail)).1 = rest ++ tail := by
        refine List.takeWhile_eq_self_iff.mpr fun d hd => ?_
        have hne : d ≠ '#' := fun heq => number_not_mem_of_cutFragment hnone (heq ▸ hd)
        simp [hne]
      rw [cutQuery, hwhole] at hqueryPart
      obtain ⟨s, hs, hsome⟩ := map_ok_iff.mp hqueryPart
      cases h with
      | none => cases hsome
      | @some query hsafe =>
        have hend : Form.escape isQueryChar ('?' :: query) = '?' :: query :=
          escape_eq_self (List.forall_mem_cons.mpr ⟨by decide, hsafe⟩)
        have hlonger : Form.escape isQueryChar rest ++ '?' :: query = query := by
          rw [← hend, ← escape_append, ← String.ofList_inj, ← escapePart_ok hs]
          exact Option.some.inj hsome
        have hlength := congrArg List.length hlonger
        rw [List.length_append, List.length_cons] at hlength
        omega
    · cases hnone

end Url
end Arazzo
