import Arazzo.Proofs.Text.Trim
import Arazzo.Proofs.Workflow.FormData

/-!
# Placeholders

The placeholders of a path are filled for one parameter after the other, so a text that was put in is
searched for the placeholders of all parameters behind it. The filled path has in the place of each
placeholder the text of its parameter, in which these placeholders are filled in turn. It is the path
in which the texts stand for the placeholders all at once only as long as no text holds a placeholder.
-/

namespace Arazzo

open Text

/-- A name between braces. -/
def placeholder (name : List Char) : List Char := '\x7b' :: name ++ ['\x7d']

/-- A name without braces. -/
def IsName (name : List Char) : Prop := '\x7b' ∉ name ∧ '\x7d' ∉ name

instance (name : List Char) : Decidable (IsName name) :=
  inferInstanceAs (Decidable (_ ∧ _))

/-- A text in which every opening brace starts a placeholder. -/
inductive IsTemplate : List Char → Prop
  | nil : IsTemplate []
  | other {c : Char} {rest : List Char} : c ≠ '\x7b' → IsTemplate rest → IsTemplate (c :: rest)
  | named {name rest : List Char} : IsName name → IsTemplate rest →
      IsTemplate (placeholder name ++ rest)

/-- A text and the text that it becomes when named texts are put in the place of all placeholders of
their names at once. -/
inductive IsFilled (texts : Named String) : List Char → List Char → Prop
  | nil : IsFilled texts [] []
  | named {name text : String} {rest result : List Char} : (name, text) ∈ texts →
      IsFilled texts rest result →
      IsFilled texts (placeholder name.toList ++ rest) (text.toList ++ result)
  | other {c : Char} {rest result : List Char} :
      (∀ p ∈ texts, ¬ placeholder p.1.toList <+: c :: rest) → IsFilled texts rest result →
      IsFilled texts (c :: rest) (c :: result)

variable {name other new cs rest : List Char}

theorem placeholder_append (name rest : List Char) :
    placeholder name ++ rest = '\x7b' :: (name ++ ['\x7d'] ++ rest) :=
  rfl

theorem placeholder_ne_nil (name : List Char) : placeholder name ≠ [] :=
  List.cons_ne_nil _ _

/-- A placeholder ends at its first closing brace. -/
theorem placeholder_append_inj (hname : IsName name) (hother : IsName other)
    {more : List Char} (h : placeholder name ++ rest = placeholder other ++ more) :
    name = other ∧ rest = more := by
  rw [placeholder_append, placeholder_append] at h
  have hcut := congrArg (cutAt '\x7d') (List.cons.inj h).2
  rw [List.append_assoc, List.append_assoc, List.singleton_append, List.singleton_append,
    cutAt_append hname.2, cutAt_append hother.2] at hcut
  exact Prod.mk.inj (Option.some.inj hcut)

theorem not_placeholder_of_ne {c : Char} (hc : c ≠ '\x7b') (name rest : List Char) :
    ¬ placeholder name <+: c :: rest := by
  rintro ⟨tail, htail⟩
  rw [placeholder_append] at htail
  exact hc (List.cons.inj htail).1.symm

theorem IsTemplate.append {cs ds : List Char} (hcs : IsTemplate cs) (hds : IsTemplate ds) :
    IsTemplate (cs ++ ds) := by
  induction hcs with
  | nil => exact hds
  | other hc _ ih => exact .other hc ih
  | named hname _ ih =>
    rw [List.append_assoc]
    exact .named hname ih

theorem isTemplate_of_not_mem (h : '\x7b' ∉ cs) : IsTemplate cs := by
  induction cs with
  | nil => exact .nil
  | cons c cs ih =>
    rw [List.mem_cons, not_or] at h
    exact .other (Ne.symm h.1) (ih h.2)

/-! ## One parameter -/

theorem replace_placeholder_cons {c : Char} (hc : c ≠ '\x7b') (name new cs : List Char) :
    replace (placeholder name) new (c :: cs) = c :: replace (placeholder name) new cs :=
  replace_cons (not_placeholder_of_ne hc name cs)

theorem replace_placeholder_not_mem {front : List Char} (h : '\x7b' ∉ front)
    (name new cs : List Char) :
    replace (placeholder name) new (front ++ cs) = front ++ replace (placeholder name) new cs := by
  induction front with
  | nil => rfl
  | cons c front ih =>
    rw [List.mem_cons, not_or] at h
    rw [List.cons_append, replace_placeholder_cons (Ne.symm h.1), ih h.2, List.cons_append]

/-- The placeholder of another name is kept. -/
theorem replace_placeholder_of_ne (hname : IsName name) (hother : IsName other) (hne : name ≠ other)
    (new rest : List Char) :
    replace (placeholder name) new (placeholder other ++ rest) =
      placeholder other ++ replace (placeholder name) new rest := by
  have hprefix : ¬ placeholder name <+: placeholder other ++ rest := by
    rintro ⟨tail, htail⟩
    exact hne (placeholder_append_inj hname hother htail).1
  have hfront : '\x7b' ∉ other ++ ['\x7d'] := by
    simp [hother.1]
  rw [placeholder_append] at hprefix ⊢
  rw [replace_cons hprefix, replace_placeholder_not_mem hfront, placeholder_append]

theorem IsTemplate.replace_append (hcs : IsTemplate cs) (hname : IsName name)
    (new ds : List Char) :
    replace (placeholder name) new (cs ++ ds) =
      replace (placeholder name) new cs ++ replace (placeholder name) new ds := by
  induction hcs with
  | nil => rw [replace_nil, List.nil_append, List.nil_append]
  | other hc _ ih =>
    rw [List.cons_append, replace_placeholder_cons hc, replace_placeholder_cons hc, ih,
      List.cons_append]
  | @named held rest hheld _ ih =>
    rw [List.append_assoc]
    by_cases heq : name = held
    · rw [heq, replace_piece_append (placeholder_ne_nil held),
        replace_piece_append (placeholder_ne_nil held), ← heq, ih, List.append_assoc]
    · rw [replace_placeholder_of_ne hname hheld heq, replace_placeholder_of_ne hname hheld heq, ih,
        List.append_assoc]

theorem IsTemplate.replace (hcs : IsTemplate cs) (hname : IsName name) (hnew : IsTemplate new) :
    IsTemplate (Text.replace (placeholder name) new cs) := by
  induction hcs with
  | nil =>
    rw [replace_nil]
    exact .nil
  | other hc _ ih =>
    rw [replace_placeholder_cons hc]
    exact .other hc ih
  | @named held rest hheld _ ih =>
    by_cases heq : name = held
    · rw [← heq, replace_piece_append (placeholder_ne_nil name)]
      exact hnew.append ih
    · rw [replace_placeholder_of_ne hname hheld heq]
      exact .named hheld ih

/-! ## All parameters -/

/-- Named texts that are templates under names without braces. -/
def AreTemplates (texts : Named String) : Prop :=
  ∀ p ∈ texts, IsName p.1.toList ∧ IsTemplate p.2.toList

namespace Operation

variable {texts : Named String}

theorem fillPath_cons (p : String × String) (texts : Named String) (path : List Char) :
    fillPath path (p :: texts) =
      fillPath (replace (placeholder p.1.toList) p.2.toList path) texts :=
  rfl

/-- A character in front that is no opening brace stays there. -/
theorem fillPath_of_ne {c : Char} (hc : c ≠ '\x7b') (path : List Char) (texts : Named String) :
    fillPath (c :: path) texts = c :: fillPath path texts := by
  induction texts generalizing path with
  | nil => rfl
  | cons p texts ih => rw [fillPath_cons, fillPath_cons, replace_placeholder_cons hc, ih]

theorem fillPath_nil (texts : Named String) : fillPath [] texts = [] := by
  induction texts with
  | nil => rfl
  | cons p texts ih => rw [fillPath_cons, replace_nil, ih]

theorem fillPath_append (htexts : AreTemplates texts) (hcs : IsTemplate cs) (ds : List Char) :
    fillPath (cs ++ ds) texts = fillPath cs texts ++ fillPath ds texts := by
  induction texts generalizing cs ds with
  | nil => rfl
  | cons p texts ih =>
    obtain ⟨⟨hname, htext⟩, hrest⟩ := List.forall_mem_cons.mp htexts
    rw [fillPath_cons, fillPath_cons, fillPath_cons, hcs.replace_append hname,
      ih hrest (hcs.replace hname htext)]

/-- A text without the placeholders is left as it is. -/
theorem fillPath_eq_self (h : ∀ p ∈ texts, ¬ placeholder p.1.toList <:+: cs) :
    fillPath cs texts = cs := by
  induction texts with
  | nil => rfl
  | cons p texts ih =>
    obtain ⟨hfirst, hrest⟩ := List.forall_mem_cons.mp h
    rw [fillPath_cons, replace_eq_self hfirst, ih hrest]

/-- Named texts, in each of which the placeholders of the names behind it are filled. -/
def refilled : Named String → Named String
  | [] => []
  | p :: rest => (p.1, String.ofList (fillPath p.2.toList rest)) :: refilled rest

theorem map_fst_refilled (texts : Named String) :
    (refilled texts).map Prod.fst = texts.map Prod.fst := by
  induction texts with
  | nil => rfl
  | cons p texts ih => rw [refilled, List.map_cons, List.map_cons, ih]

theorem exists_of_mem_refilled {p : String × String} (hp : p ∈ refilled texts) :
    ∃ q ∈ texts, q.1 = p.1 := by
  have hmem : p.1 ∈ texts.map Prod.fst := map_fst_refilled texts ▸ List.mem_map_of_mem hp
  exact List.mem_map.mp hmem

theorem isName_refilled (htexts : AreTemplates texts) : ∀ p ∈ refilled texts, IsName p.1.toList := by
  intro p hp
  obtain ⟨q, hq, hsame⟩ := exists_of_mem_refilled hp
  exact hsame ▸ (htexts q hq).1

theorem refilled_eq_self (h : ∀ p ∈ texts, ∀ q ∈ texts, ¬ placeholder q.1.toList <:+: p.2.toList) :
    refilled texts = texts := by
  induction texts with
  | nil => rfl
  | cons p texts ih =>
    have hrest : refilled texts = texts := ih fun q hq q' hq' =>
      h q (List.mem_cons_of_mem p hq) q' (List.mem_cons_of_mem p hq')
    have hfirst : fillPath p.2.toList texts = p.2.toList := fillPath_eq_self fun q hq =>
      h p List.mem_cons_self q (List.mem_cons_of_mem p hq)
    rw [refilled, hrest, hfirst, String.ofList_toList]

/-- A placeholder is kept if no text has its name, and else becomes such a text, filled in turn. -/
theorem fillPath_placeholder (htexts : AreTemplates texts) (hname : IsName name) :
    ((∀ p ∈ texts, p.1.toList ≠ name) ∧ fillPath (placeholder name) texts = placeholder name) ∨
      ∃ p ∈ refilled texts, p.1.toList = name ∧
        fillPath (placeholder name) texts = p.2.toList := by
  induction texts with
  | nil => exact .inl ⟨by simp, rfl⟩
  | cons p texts ih =>
    obtain ⟨⟨hfirst, -⟩, hrest⟩ := List.forall_mem_cons.mp htexts
    rw [fillPath_cons]
    by_cases heq : p.1.toList = name
    · refine .inr ⟨_, List.mem_cons_self, heq, ?_⟩
      have hreplace : replace (placeholder name) p.2.toList (placeholder name ++ []) =
          p.2.toList ++ replace (placeholder name) p.2.toList [] :=
        replace_piece_append (placeholder_ne_nil name) []
      rw [replace_nil, List.append_nil, List.append_nil] at hreplace
      rw [heq, hreplace, String.toList_ofList]
    · have hkept := replace_placeholder_of_ne hfirst hname heq p.2.toList []
      rw [replace_nil, List.append_nil] at hkept
      rw [hkept]
      rcases ih hrest with ⟨hnone, hsame⟩ | ⟨q, hq, hqname, hfilled⟩
      · exact .inl ⟨List.forall_mem_cons.mpr ⟨heq, hnone⟩, hsame⟩
      · exact .inr ⟨q, List.mem_cons_of_mem _ hq, hqname, hfilled⟩

end Operation

/-! ## Filling at once -/

namespace IsFilled

variable {texts more : Named String} {result : List Char}

theorem of_not_mem {front : List Char} (hfront : '\x7b' ∉ front) (h : IsFilled texts cs result) :
    IsFilled texts (front ++ cs) (front ++ result) := by
  induction front with
  | nil => exact h
  | cons c front ih =>
    rw [List.mem_cons, not_or] at hfront
    exact .other (fun p _ => not_placeholder_of_ne (Ne.symm hfront.1) _ _) (ih hfront.2)

/-- A placeholder of no name is kept. -/
theorem kept (hname : IsName name) (htexts : ∀ p ∈ texts, IsName p.1.toList ∧ p.1.toList ≠ name)
    (h : IsFilled texts cs result) :
    IsFilled texts (placeholder name ++ cs) (placeholder name ++ result) := by
  have hfront : '\x7b' ∉ name ++ ['\x7d'] := by
    simp [hname.1]
  rw [placeholder_append, placeholder_append]
  refine .other (fun p hp => ?_) (of_not_mem hfront h)
  rw [← placeholder_append]
  rintro ⟨tail, htail⟩
  exact (htexts p hp).2 (placeholder_append_inj (htexts p hp).1 hname htail).1

theorem mono (hsame : ∀ p, p ∈ texts ↔ p ∈ more) (h : IsFilled texts cs result) :
    IsFilled more cs result := by
  induction h with
  | nil => exact .nil
  | named hmem _ ih => exact .named ((hsame _).mp hmem) ih
  | other hnone _ ih => exact .other (fun p hp => hnone p ((hsame p).mpr hp)) ih

/-- A placeholder at the start becomes the text of its name. -/
theorem exists_of_placeholder {text : String} {name : String}
    (hnames : ∀ p ∈ texts, IsName p.1.toList) (hdistinct : (texts.map Prod.fst).Nodup)
    (hmem : (name, text) ∈ texts) (h : IsFilled texts (placeholder name.toList ++ cs) result) :
    ∃ tail, result = text.toList ++ tail ∧ IsFilled texts cs tail := by
  generalize hstart : placeholder name.toList ++ cs = start at h
  cases h with
  | nil => exact absurd hstart (by simp [placeholder])
  | @named other otherText rest tail hother htail =>
    obtain ⟨hsame, rfl⟩ := placeholder_append_inj (hnames _ hmem) (hnames _ hother) hstart
    have hpair := List.inj_on_of_nodup_map hdistinct hmem hother (String.toList_inj.mp hsame)
    obtain rfl := (Prod.mk.inj hpair).2
    exact ⟨tail, rfl, htail⟩
  | other hnone => exact absurd ⟨cs, hstart⟩ (hnone _ hmem)

/-- There is one way to fill all placeholders at once. -/
theorem unique {result' : List Char} (hnames : ∀ p ∈ texts, IsName p.1.toList)
    (hdistinct : (texts.map Prod.fst).Nodup) (h : IsFilled texts cs result)
    (h' : IsFilled texts cs result') : result = result' := by
  induction h generalizing result' with
  | nil =>
    generalize hstart : ([] : List Char) = start at h'
    cases h' with
    | nil => rfl
    | named => exact absurd hstart (by simp [placeholder])
    | other => cases hstart
  | named hmem _ ih =>
    obtain ⟨tail, rfl, htail⟩ := exists_of_placeholder hnames hdistinct hmem h'
    rw [ih htail]
  | @other c rest result hnone _ ih =>
    generalize hstart : c :: rest = start at h'
    cases h' with
    | nil => cases hstart
    | @named name text more tail hmem => exact absurd ⟨more, hstart.symm⟩ (hnone _ hmem)
    | other _ htail =>
      obtain ⟨rfl, rfl⟩ := List.cons.inj hstart
      rw [ih htail]

theorem eq_iff (hnames : ∀ p ∈ texts, IsName p.1.toList)
    (hdistinct : (texts.map Prod.fst).Nodup) (h : IsFilled texts cs result) (other : List Char) :
    IsFilled texts cs other ↔ other = result :=
  ⟨fun h' => h'.unique hnames hdistinct h, fun heq => heq ▸ h⟩

end IsFilled

namespace Operation

variable {texts more : Named String} {path : List Char}

/-- A filled path has in the place of each placeholder the text of its name, in which the placeholders
of the names behind it are filled. -/
theorem isFilled_fillPath (htexts : AreTemplates texts) (hpath : IsTemplate path) :
    IsFilled (refilled texts) path (fillPath path texts) := by
  induction hpath with
  | nil =>
    rw [fillPath_nil]
    exact .nil
  | other hc _ ih =>
    rw [fillPath_of_ne hc]
    exact .other (fun p _ => not_placeholder_of_ne hc _ _) ih
  | @named name rest hname _ ih =>
    have htemplate : IsTemplate (placeholder name) := by
      simpa using IsTemplate.named hname .nil
    rw [fillPath_append htexts htemplate]
    rcases fillPath_placeholder htexts hname with ⟨hnone, hkept⟩ | ⟨p, hp, rfl, hfilled⟩
    · rw [hkept]
      refine ih.kept hname fun p hp => ?_
      obtain ⟨q, hq, hsame⟩ := exists_of_mem_refilled hp
      exact hsame ▸ ⟨(htexts q hq).1, hnone q hq⟩
    · rw [hfilled]
      exact .named hp ih

/-- As long as no text holds a placeholder, all placeholders are filled at once. -/
theorem isFilled_of_free (htexts : AreTemplates texts) (hpath : IsTemplate path)
    (hfree : ∀ p ∈ texts, ∀ q ∈ texts, ¬ placeholder q.1.toList <:+: p.2.toList) :
    IsFilled texts path (fillPath path texts) := by
  have hfilled := isFilled_fillPath htexts hpath
  rwa [refilled_eq_self hfree] at hfilled

/-- Texts without placeholders are put in with one result in every order. -/
theorem fillPath_perm (htexts : AreTemplates texts) (hpath : IsTemplate path)
    (hdistinct : (texts.map Prod.fst).Nodup)
    (hfree : ∀ p ∈ texts, ∀ q ∈ texts, ¬ placeholder q.1.toList <:+: p.2.toList)
    (hperm : more.Perm texts) : fillPath path more = fillPath path texts := by
  have hmore : IsFilled more path (fillPath path more) :=
    isFilled_of_free (fun p hp => htexts p (hperm.subset hp)) hpath fun p hp q hq =>
      hfree p (hperm.subset hp) q (hperm.subset hq)
  exact (hmore.mono fun p => hperm.mem_iff).unique (fun p hp => (htexts p hp).1) hdistinct
    (isFilled_of_free htexts hpath hfree)

end Operation

namespace Call

variable {call : Call} {scope : Scope} {site : Site} {client : Client} {session : Session}
  {r : Request}

/-- The path of a request that is built has in the place of each placeholder the text of the path
parameter, in which the placeholders of the parameters behind it are filled in turn. As long as no text
holds a placeholder, the texts are put in all at once, and in every order. -/
theorem request_fills (built : call.request scope site client session = .ok r)
    (htemplate : IsTemplate call.template)
    (hnames : ∀ name ∈ call.names .path, IsName name.toList)
    (htexts : ∀ name text, call.HasText scope .path name text → IsTemplate text.toList) :
    ∃ server path fills texts, call.operation.serverUrl site = .ok server ∧
      call.MergesTo scope .path fills ∧ call.MergesTo scope .query texts ∧
      (Url.read (server.toList ++ path ++ queryTail texts)).bind Url.forRequest = .ok r.url ∧
      (∀ path', IsFilled (Operation.refilled fills) call.template path' ↔ path' = path) ∧
      ((∀ p ∈ fills, ∀ q ∈ fills, ¬ placeholder q.1.toList <:+: p.2.toList) →
        (∀ path', IsFilled fills call.template path' ↔ path' = path) ∧
        ∀ more, more.Perm fills → Operation.fillPath call.template more = path) := by
  obtain ⟨server, fills, texts, hserver, hfills, hquery, hurl⟩ := exists_urlText built
  have hall : AreTemplates fills := by
    intro p hp
    obtain ⟨hname, hhas⟩ := hfills.hasText hp
    exact ⟨hnames p.1 hname, htexts p.1 p.2 hhas⟩
  refine ⟨server, _, fills, texts, hserver, hfills, hquery, hurl, ?_, ?_⟩
  · exact (Operation.isFilled_fillPath hall htemplate).eq_iff (Operation.isName_refilled hall)
      (Operation.map_fst_refilled fills ▸ hfills.nodup)
  · intro hfree
    refine ⟨?_, fun more hperm => Operation.fillPath_perm hall htemplate hfills.nodup hfree hperm⟩
    exact (Operation.isFilled_of_free hall htemplate hfree).eq_iff (fun p hp => (hall p hp).1)
      hfills.nodup

end Call

namespace Search

/-- A search under the given path with the given path parameters. -/
def under (path : String) (texts : Named String) : Call where
  operation := { call.operation with path := .text path }
  parameters := texts.map fun p => .given (parameter .path p.1 p.2)
  shared := []
  body := some form

/-- The request of the search. -/
def requestUnder (path : String) (texts : Named String) : Except Fault Request :=
  (under path texts).request scope default ⟨Client.defaultHeaders, true, true, .still default⟩ .start

/-- A path with one placeholder in two places. -/
def twice : String := "/\x7ba\x7d/\x7bb\x7d/\x7ba\x7d"

def filling : Named String := [("a", "\x7bc\x7d"), ("b", "x")]

theorem isTemplate_twice : IsTemplate (under twice filling).template :=
  .other (by decide) (@IsTemplate.named ['a'] _ (by decide)
    (.other (by decide) (@IsTemplate.named ['b'] _ (by decide)
      (.other (by decide) (@IsTemplate.named ['a'] [] (by decide) .nil)))))

theorem mergesTo_filling : (under twice filling).MergesTo scope .path filling := by
  refine .cons ⟨rfl, parameter .path "a" "\x7bc\x7d", .text "\x7bc\x7d", ?_, ?_, ?_⟩
    (.cons ⟨rfl, parameter .path "b" "x", .text "x", ?_, ?_, ?_⟩ .nil)
  all_goals rfl

theorem isTemplate_filling (name text : String)
    (h : (under twice filling).HasText scope .path name text) : IsTemplate text.toList := by
  obtain ⟨p, v, hdecisive, hvalue, hwire⟩ := h
  have hmem := Call.mem_of_decisive? hdecisive
  rcases List.mem_cons.mp hmem with rfl | hmem
  · obtain rfl : Value.text "\x7bc\x7d" = v := Except.ok.inj hvalue
    obtain rfl : "\x7bc\x7d" = text := Except.ok.inj hwire
    exact @IsTemplate.named ['c'] [] (by decide) .nil
  · obtain rfl := List.mem_singleton.mp hmem
    obtain rfl : Value.text "x" = v := Except.ok.inj hvalue
    obtain rfl : "x" = text := Except.ok.inj hwire
    exact isTemplate_of_not_mem (by decide)

end Search

namespace Call

/-- A text that holds the placeholder of a parameter behind it is not put in as it stands, so the path
depends on the order of the parameters. -/
theorem not_filled_at_once : ∃ r r',
    Search.requestUnder "/\x7ba\x7d" [("a", "\x7bb\x7d"), ("b", "x")] = .ok r ∧
    Search.requestUnder "/\x7ba\x7d" [("b", "x"), ("a", "\x7bb\x7d")] = .ok r' ∧
    r.url.path = "/x" ∧ r'.url.path = "/%7Bb%7D" ∧
    (Search.under "/\x7ba\x7d" [("a", "\x7bb\x7d"), ("b", "x")]).MergesTo Search.scope .path
      [("a", "\x7bb\x7d"), ("b", "x")] ∧
    ∀ path, IsFilled [("a", "\x7bb\x7d"), ("b", "x")] "/\x7ba\x7d".toList path ↔
      path = "/\x7bb\x7d".toList := by
  have hforward : (Search.requestUnder "/\x7ba\x7d" [("a", "\x7bb\x7d"), ("b", "x")]).toOption.map
      (fun r => r.url.path) = some "/x" := by decide +kernel
  have hbackward : (Search.requestUnder "/\x7ba\x7d" [("b", "x"), ("a", "\x7bb\x7d")]).toOption.map
      (fun r => r.url.path) = some "/%7Bb%7D" := by decide +kernel
  obtain ⟨r, hr, hpath⟩ := exists_ok_of_toOption hforward
  obtain ⟨r', hr', hpath'⟩ := exists_ok_of_toOption hbackward
  refine ⟨r, r', hr, hr', hpath, hpath', ?_, ?_⟩
  · refine .cons ⟨rfl, Search.parameter .path "a" "\x7bb\x7d", .text "\x7bb\x7d", ?_, ?_, ?_⟩
      (.cons ⟨rfl, Search.parameter .path "b" "x", .text "x", ?_, ?_, ?_⟩ .nil)
    all_goals rfl
  · have hfilled : IsFilled [("a", "\x7bb\x7d"), ("b", "x")] "/\x7ba\x7d".toList
        "/\x7bb\x7d".toList :=
      .other (fun p _ => not_placeholder_of_ne (by decide) _ _)
        (@IsFilled.named _ "a" "\x7bb\x7d" [] [] List.mem_cons_self .nil)
    exact hfilled.eq_iff (by decide +kernel) (by decide)

/-- Under a path with one placeholder in two places, a text with a placeholder that no parameter fills
is put in as it stands. -/
theorem request_fills_twice : ∃ r server path texts,
    Search.requestUnder Search.twice Search.filling = .ok r ∧
    (Search.under Search.twice Search.filling).operation.serverUrl default = .ok server ∧
    (Url.read (server.toList ++ path ++ queryTail texts)).bind Url.forRequest = .ok r.url ∧
    (∀ path', IsFilled Search.filling Search.twice.toList path' ↔ path' = path) ∧
    Operation.fillPath Search.twice.toList Search.filling.reverse = path ∧
    r.url.path = "/%7Bc%7D/x/%7Bc%7D" := by
  have hfilled : (Search.requestUnder Search.twice Search.filling).toOption.map
      (fun r => r.url.path) = some "/%7Bc%7D/x/%7Bc%7D" := by decide +kernel
  obtain ⟨r, hr, hpath⟩ := exists_ok_of_toOption hfilled
  have hnames : ∀ name ∈ (Search.under Search.twice Search.filling).names .path,
      IsName name.toList := by
    decide +kernel
  obtain ⟨server, path, fills, texts, hserver, hfills, -, hurl, -, hfree⟩ :=
    request_fills hr Search.isTemplate_twice hnames Search.isTemplate_filling
  obtain rfl := hfills.unique Search.mergesTo_filling fun _ _ h => h
  obtain ⟨hfilled, horder⟩ := hfree (by decide +kernel)
  exact ⟨r, server, path, texts, hr, hserver, hurl, hfilled,
    horder _ (List.reverse_perm Search.filling), hpath⟩

end Call
end Arazzo
