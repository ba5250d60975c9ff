import Arazzo.Proofs.Http.Origin
import Arazzo.Proofs.Text.Trim
import Arazzo.Proofs.Workflow.Placeholder

/-!
# The reach of path parameters

The texts of path parameters are put into the text of a URL as they stand. Behind a server with an
authority none of them gets into the scheme, the host or the port. A question mark or a number sign in
one of them starts a query or a fragment, though, which the query parameters only follow.
-/

namespace Arazzo

open Text

/-- The URL of a server ends in no slash. -/
theorem Operation.getLast?_serverUrl {operation : Operation} {site : Site} {server : String}
    (h : operation.serverUrl site = .ok server) : server.toList.getLast? ≠ some '/' := by
  have htrimmed (url : String) : (trimRight (· = '/') url.toList).getLast? ≠ some '/' :=
    fun hslash => absurd (getLast?_trimRight _ _ _ hslash) (by decide)
  unfold serverUrl at h
  dsimp only at h
  split at h
  · cases h
  split_ifs at h
  repeat' split at h
  all_goals first
    | cases h; done
    | obtain rfl := Except.ok.inj h
      rw [String.toList_ofList]
      exact htrimmed _

namespace Call

variable {call : Call} {scope scope' : Scope} {site : Site} {client : Client} {session : Session}
  {r r' : Request}

theorem slash_of_append {path : List Char} {texts : Named String}
    (h : ['/'] <+: path ++ queryTail texts) : ['/'] <+: path := by
  cases path with
  | nil =>
    obtain ⟨rest, hrest⟩ := h
    unfold queryTail at hrest
    split_ifs at hrest <;> simp at hrest
  | cons c path =>
    obtain ⟨rest, hrest⟩ := h
    exact ⟨path, by rw [(List.cons.inj hrest).1]; rfl⟩

/-- URLs that differ in the filled path have one origin, as long as behind a server that is a scheme no
path starts with two slashes. -/
theorem origin_of_paths {server : String} {fills fills' texts : Named String} {url url' : Url}
    (hok : call.operation.serverUrl site = .ok server) (hslash : ['/'] <+: call.template)
    (hscheme : Url.IsBareScheme server.toList →
      ∀ more ∈ [fills, fills'], ¬ ['/', '/'] <+: Operation.fillPath call.template more)
    (hurl : (Url.read (server.toList ++ Operation.fillPath call.template fills ++
      queryTail texts)).bind Url.forRequest = .ok url)
    (hurl' : (Url.read (server.toList ++ Operation.fillPath call.template fills' ++
      queryTail texts)).bind Url.forRequest = .ok url') : url.origin = url'.origin := by
  obtain ⟨template, htemplate⟩ := hslash
  have hpath (more : Named String) : Operation.fillPath call.template more =
      '/' :: Operation.fillPath template more := by
    rw [← htemplate]
    exact Operation.fillPath_of_ne (by decide) template more
  have hsingle (more : Named String) (hmem : more ∈ [fills, fills'])
      (hbare : Url.IsBareScheme server.toList) :
      ¬ ['/'] <+: Operation.fillPath template more ++ queryTail texts := by
    intro hprefix
    refine hscheme hbare more hmem ?_
    rw [hpath]
    exact List.prefix_cons_inj _ |>.mpr (slash_of_append hprefix)
  rw [hpath, List.append_assoc, List.cons_append] at hurl hurl'
  exact Url.origin_of_text (Operation.getLast?_serverUrl hok)
    (fun h => ⟨hsingle fills (by simp) h, hsingle fills' (by simp) h⟩) hurl hurl'

/-- Requests of one call in scopes that differ in the texts of the path parameters have one origin, as
long as behind a server that is a scheme no path starts with two slashes. They have one query and no
fragment, as long as no such text holds a question mark or a number sign. Under an absolute URL the
query is that of the query parameters, without a fragment, only if the filled path holds neither. -/
theorem request_confined (built : call.request scope site client session = .ok r)
    (built' : call.request scope' site client session = .ok r')
    (hslash : ['/'] <+: call.template) (hbare : Url.IsBare call.template)
    (hserver : ∀ server, call.operation.serverUrl site = .ok server → Url.IsBare server.toList)
    (hquery : ∀ name text, call.HasText scope' .query name text →
      call.HasText scope .query name text) :
    ∃ server fills fills' texts, call.operation.serverUrl site = .ok server ∧
      call.MergesTo scope .path fills ∧ call.MergesTo scope' .path fills' ∧
      call.MergesTo scope .query texts ∧
      ((Url.IsBareScheme server.toList →
          ∀ more ∈ [fills, fills'], ¬ ['/', '/'] <+: Operation.fillPath call.template more) →
        r.url.origin = r'.url.origin) ∧
      ((∀ p ∈ fills ++ fills', Url.IsBare p.2.toList) →
        r.url.query = r'.url.query ∧ r.url.fragment = r'.url.fragment) ∧
      (r.url.isAbsolute = true → (r.url.query = queryOf texts ∧ r.url.fragment = none ↔
        Url.IsBare (Operation.fillPath call.template fills))) := by
  obtain ⟨server, fills, texts, hok, hfills, htexts, hurl⟩ := exists_urlText built
  obtain ⟨server', fills', texts', hok', hfills', htexts', hurl'⟩ := exists_urlText built'
  obtain rfl := Except.ok.inj (hok.symm.trans hok')
  obtain rfl := htexts.unique htexts' hquery
  have hfront {more : Named String}
      (hmore : Url.IsBare (Operation.fillPath call.template more)) :
      Url.IsBare (server.toList ++ Operation.fillPath call.template more) :=
    (hserver server hok).append hmore
  refine ⟨server, fills, fills', texts, hok, hfills, hfills', htexts, fun hscheme => ?_,
    fun hplain => ?_, fun habsolute => ⟨?_, fun hplain => ?_⟩⟩
  · exact origin_of_paths hok hslash hscheme hurl hurl'
  · obtain ⟨hplain, hplain'⟩ := List.forall_mem_append.mp hplain
    have hbase := hfront (Operation.isBare_fillPath hbare hplain)
    have hbase' := hfront (Operation.isBare_fillPath hbare hplain')
    refine ⟨(query_of_bare hbase hurl).trans (query_of_bare hbase' hurl').symm, ?_⟩
    rw [Url.fragment_of_text hbase (isQuery_queryTail texts) hurl,
      Url.fragment_of_text hbase' (isQuery_queryTail texts) hurl']
  · rintro ⟨hquery, hfragment⟩
    have hparts : (queryOf texts) = ((queryOf texts).map String.toList).map String.ofList := by
      simp [Function.comp_def]
    exact (Url.isBare_append.mp (Url.isBare_of_text (isQuery_queryTail texts) hurl habsolute
      (hquery.trans hparts) hfragment)).2
  · exact ⟨query_of_bare (hfront hplain) hurl,
      Url.fragment_of_text (hfront hplain) (isQuery_queryTail texts) hurl⟩

end Call

namespace Search

/-- A search whose path is a text of the document that references are looked up in. -/
def reaching : Call :=
  { under "/\x7ba\x7d" [("a", "$a")] with
    shared := [.given (parameter .query "q" "&b")] }

def holding (text : String) : Scope := ⟨⟨.map [(.text "a", .text text)], []⟩, default⟩

/-- The request of the search for a text. -/
def requestReaching (text : String) : Except Fault Request :=
  reaching.request (holding text) default ⟨Client.defaultHeaders, true, true, .still default⟩ .start

theorem hasText_query_reaching {text text' : String} {name found : String}
    (h : reaching.HasText (holding text') .query name found) :
    reaching.HasText (holding text) .query name found := by
  obtain ⟨p, v, hdecisive, hvalue, hwire⟩ := h
  obtain rfl : p = parameter .query "q" "&b" :=
    List.mem_singleton.mp (Call.mem_of_decisive? hdecisive)
  exact ⟨_, v, hdecisive, hvalue, hwire⟩

theorem mergesTo_reaching (text : String) :
    reaching.MergesTo (holding text) .path [("a", text)] :=
  .cons ⟨rfl, parameter .path "a" "$a", .text text, rfl, rfl, rfl⟩ .nil

end Search

namespace Call

/-- A question mark in the text of a path parameter starts the query. -/
theorem not_confined : ∃ r r',
    Search.requestReaching "x" = .ok r ∧ Search.requestReaching "x?b" = .ok r' ∧
    Search.reaching.operation.serverUrl default = .ok "http://h" ∧
    Search.reaching.template = "/\x7ba\x7d".toList ∧
    (∀ name text, Search.reaching.HasText (Search.holding "x?b") .query name text ↔
      Search.reaching.HasText (Search.holding "x") .query name text) ∧
    r.url.query = some "q=%26b" ∧ r'.url.query = some "b?q=%26b" := by
  have hplain : (Search.requestReaching "x").toOption.map (fun r => r.url.query) =
      some (some "q=%26b") := by decide +kernel
  have hmarked : (Search.requestReaching "x?b").toOption.map (fun r => r.url.query) =
      some (some "b?q=%26b") := by decide +kernel
  obtain ⟨r, hr, hquery⟩ := exists_ok_of_toOption hplain
  obtain ⟨r', hr', hquery'⟩ := exists_ok_of_toOption hmarked
  exact ⟨r, r', hr, hr', by decide +kernel, rfl, fun name text =>
    ⟨Search.hasText_query_reaching, Search.hasText_query_reaching⟩, hquery, hquery'⟩

/-- A text that starts with two slashes stays in the path. -/
theorem request_confined_slashes : ∃ r r',
    Search.requestReaching "x" = .ok r ∧ Search.requestReaching "//y" = .ok r' ∧
    r.url.origin = r'.url.origin ∧ r.url.query = r'.url.query ∧
    r.url.fragment = r'.url.fragment ∧ r.url.host = "h" ∧ r.url.query = some "q=%26b" := by
  have hplain : (Search.requestReaching "x").toOption.map (fun r => (r.url.host, r.url.query)) =
      some ("h", some "q=%26b") := by decide +kernel
  have hslashes : (Search.requestReaching "//y").toOption.map (fun r => r.url.host) =
      some "h" := by decide +kernel
  obtain ⟨r, hr, hfound⟩ := exists_ok_of_toOption hplain
  obtain ⟨hhost, hquery⟩ := Prod.mk.inj hfound
  obtain ⟨r', hr', -⟩ := exists_ok_of_toOption hslashes
  have hok : Search.reaching.operation.serverUrl default = .ok "http://h" := by decide +kernel
  have hserver : ∀ server, Search.reaching.operation.serverUrl default = .ok server →
      Url.IsBare server.toList := by
    intro server h
    obtain rfl := Except.ok.inj (hok.symm.trans h)
    decide
  obtain ⟨server, fills, fills', texts, h, hfills, hfills', -, horigin, hparts, -⟩ :=
    request_confined hr hr' ⟨_, rfl⟩ (by decide) hserver fun _ _ =>
      Search.hasText_query_reaching
  obtain rfl := Except.ok.inj (hok.symm.trans h)
  obtain rfl := hfills.unique (Search.mergesTo_reaching "x") fun _ _ h => h
  obtain rfl := hfills'.unique (Search.mergesTo_reaching "//y") fun _ _ h => h
  obtain ⟨hsame, hfragment⟩ := hparts (by decide)
  exact ⟨r, r', hr, hr', horigin fun hscheme => absurd hscheme (by decide), hsame, hfragment,
    hhost, hquery⟩

end Call
end Arazzo
