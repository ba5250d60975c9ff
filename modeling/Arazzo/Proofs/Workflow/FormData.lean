import Arazzo.Proofs.Document.Entries
import Arazzo.Proofs.Http.Url
import Arazzo.Proofs.Text.Trim
import Arazzo.Proofs.Workflow.Parameters

/-!
# Queries and forms of requests

The query of a request holds one pair for each name of a query parameter, and the body of a form one
for each key. Decoding them gives back the names and the texts of their values, whatever characters
they consist of.
-/

namespace Arazzo

open Text

/-- The last parameter of a name. -/
def Parameters.last? (parameters : List Parameter) (name : String) : Option Parameter :=
  (parameters.filter fun p => p.name = name).getLast?

theorem Parameters.last?_append (first second : List Parameter) (name : String) :
    last? (first ++ second) name = (last? second name).or (last? first name) := by
  rw [last?, List.filter_append, List.getLast?_append]
  rfl

namespace Call

/-- The names of the parameters in a location, those of the workflow first, each where it comes
first. -/
def names (call : Call) (location : Location) : List String :=
  ((call.shared.inLocation location ++ call.parameters.inLocation location).map
    Parameter.name).eraseDups

/-- The parameter that decides about a name in a location: the last one of the step, or else the last
one of the workflow. -/
def decisive? (call : Call) (location : Location) (name : String) : Option Parameter :=
  (Parameters.last? (call.parameters.inLocation location) name).or
    (Parameters.last? (call.shared.inLocation location) name)

/-- The text that stands for a name in a location. -/
def HasText (call : Call) (scope : Scope) (location : Location) (name text : String) : Prop :=
  ∃ p v, call.decisive? location name = some p ∧ scope.value p.value = .ok v ∧
    v.wireText = .ok text

/-- The texts that the parameters in a location merge to: one for each name, that of the parameter that
decides about it. -/
def MergesTo (call : Call) (scope : Scope) (location : Location) (merged : Named String) : Prop :=
  List.Forall₂ (fun name text => text.1 = name ∧ call.HasText scope location name text.2)
    (call.names location) merged

variable {call : Call} {scope : Scope} {site : Site} {own given : ParameterValues}

/-- Each name in a location has the value of the parameter that decides about it. -/
theorem forall₂_names (hown : ParameterValues.ofParameters scope site call.parameters = .ok own)
    (hgiven : ParameterValues.ofParameters scope site call.shared = .ok given)
    (location : Location) :
    List.Forall₂ (fun name entry => entry.1 = name ∧ ∃ p,
      call.decisive? location name = some p ∧ scope.value p.value = .ok entry.2)
      (call.names location) ((ParameterValues.merge given own).inLocation location) := by
  obtain ⟨ownSet, hownSet, hownAll⟩ := ParameterValues.exists_set_of_ofParameters hown location
  obtain ⟨set, hset, hall⟩ := ParameterValues.exists_set_of_ofParameters hgiven location
  have hvalues : (ParameterValues.merge given own).inLocation location =
      Named.overlay [] (set ++ ownSet) := by
    rw [ParameterValues.inLocation_merge, hset, hownSet, Named.overlay_overlay,
      Named.overlay_append]
  have hboth := List.rel_append hall hownAll
  have hnames : (call.shared.inLocation location ++ call.parameters.inLocation location).map
      Parameter.name = (set ++ ownSet).map Prod.fst := by
    rw [← List.forall₂_eq_eq_eq, List.forall₂_map_left_iff, List.forall₂_map_right_iff]
    exact hboth.imp fun p entry h => h.1.symm
  rw [names, hnames, ← Named.map_fst_overlay, hvalues, List.forall₂_map_left_iff,
    List.forall₂_same]
  intro entry hentry
  have hfilter : List.Forall₂ _ _ _ := List.rel_filter
    (p := fun p : Parameter => decide (p.name = entry.1))
    (q := fun e : String × Value => decide (e.1 = entry.1))
    (fun p e h => by simp [h.1]) hboth
  obtain ⟨p, hlast, -, hvalue⟩ :=
    exists_getLast?_of_forall₂ hfilter (Named.getLast?_of_mem_overlay hentry)
  exact ⟨rfl, p, by rw [decisive?, ← Parameters.last?_append]; exact hlast, hvalue⟩

end Call

/-! ## Texts -/

theorem Value.wireTexts_ok_iff {values : Named Value} {texts : Named String} :
    wireTexts values = .ok texts ↔
      List.Forall₂ (fun entry text => text.1 = entry.1 ∧ entry.2.wireText = .ok text.2)
        values texts := by
  refine traverse_keyed_ok_iff (R := fun v text => wireText v = .ok text) ?_
    fun entry rest texts => ?_
  · rfl
  · rw [wireTexts]
    simp only [bind_ok_iff, Except.ok.injEq]

namespace Call

variable {call : Call} {scope scope' : Scope} {site : Site} {own given : ParameterValues}
  {location : Location} {merged merged' : Named String}

theorem mergesTo_of_wireTexts
    (hown : ParameterValues.ofParameters scope site call.parameters = .ok own)
    (hgiven : ParameterValues.ofParameters scope site call.shared = .ok given)
    (h : Value.wireTexts ((ParameterValues.merge given own).inLocation location) = .ok merged) :
    call.MergesTo scope location merged := by
  refine forall₂_trans (forall₂_names hown hgiven location) (Value.wireTexts_ok_iff.mp h) ?_
  rintro name entry text ⟨hentry, p, hdecisive, hvalue⟩ ⟨htext, hwire⟩
  exact ⟨htext.trans hentry, p, entry.2, hdecisive, hvalue, hwire⟩

theorem MergesTo.map_fst (h : call.MergesTo scope location merged) :
    merged.map Prod.fst = call.names location := by
  rw [← List.forall₂_eq_eq_eq, List.forall₂_map_left_iff]
  exact h.flip.imp fun text name htext => htext.1

theorem MergesTo.nodup (h : call.MergesTo scope location merged) :
    (merged.map Prod.fst).Nodup :=
  h.map_fst ▸ nodup_eraseDups _

theorem MergesTo.hasText (h : call.MergesTo scope location merged) {text : String × String}
    (htext : text ∈ merged) :
    text.1 ∈ call.names location ∧ call.HasText scope location text.1 text.2 := by
  obtain ⟨name, hname, rfl, hhas⟩ := exists_mem_of_forall₂ h htext
  exact ⟨hname, hhas⟩

theorem HasText.unique {name text text' : String} (h : call.HasText scope location name text)
    (h' : call.HasText scope location name text') : text = text' := by
  obtain ⟨p, v, hp, hv, htext⟩ := h
  obtain ⟨p', v', hp', hv', htext'⟩ := h'
  obtain rfl := Option.some.inj (hp.symm.trans hp')
  obtain rfl := Except.ok.inj (hv.symm.trans hv')
  exact Except.ok.inj (htext.symm.trans htext')

/-- Where names have the same texts, parameters merge to the same. -/
theorem MergesTo.unique (h : call.MergesTo scope location merged)
    (h' : call.MergesTo scope' location merged')
    (hsame : ∀ name text, call.HasText scope' location name text →
      call.HasText scope location name text) : merged = merged' := by
  rw [← List.forall₂_eq_eq_eq]
  refine forall₂_trans h.flip h' ?_
  rintro text name text' ⟨hname, hhas⟩ ⟨hname', hhas'⟩
  exact Prod.ext (hname.trans hname'.symm) (hhas.unique (hsame _ _ hhas'))

end Call

theorem RequestBody.encoded_ok {texts : Named String} {s : String}
    (h : encoded texts = .ok s) : s = Form.encodeStrings texts := by
  unfold encoded at h
  split_ifs at h
  exact (Except.ok.inj h).symm

/-! ## Forms -/

namespace RequestBody

variable {scope : Scope}

theorem formValues_ok_iff {entries values : Entries} :
    formValues scope entries = .ok values ↔
      List.Forall₂ (fun entry value => value.1 = entry.1 ∧ scope.value entry.2 = .ok value.2)
        entries values := by
  refine traverse_keyed_ok_iff (R := fun v value => scope.value v = .ok value) ?_
    fun entry rest values => ?_
  · rfl
  · rw [formValues]
    simp only [bind_ok_iff, Except.ok.injEq]

theorem formTexts_ok_iff {pairs : List (Scalar × String)} {texts : Named String} :
    formTexts pairs = .ok texts ↔
      List.Forall₂ (fun pair text => Value.plainText (.scalar pair.1) = .ok text.1 ∧
        text.2 = pair.2) pairs texts := by
  refine traverse_ok_iff ?_ fun pair rest texts => ?_
  · rfl
  · rw [formTexts]
    simp only [bind_ok_iff, Except.ok.injEq]
    constructor
    · rintro ⟨name, hname, rest', hrest, rfl⟩
      exact ⟨(name, pair.2), ⟨hname, rfl⟩, rest', hrest, rfl⟩
    · rintro ⟨⟨name, text⟩, ⟨hname, rfl⟩, rest', hrest, rfl⟩
      exact ⟨name, hname, rest', hrest, rfl⟩

/-- The key and the text of its value, for each entry of the payload. -/
def IsPair (scope : Scope) (entry : Scalar × Value) (pair : String × String) : Prop :=
  entry.1 = .text pair.1 ∧ ∃ v, scope.value entry.2 = .ok v ∧ v.wireText = .ok pair.2

/-- A form with text keys is read back entry by entry. -/
theorem forall₂_of_formText {entries : Entries} {text : String} (hkeys : entries.HasTextKeys)
    (h : formText scope entries = .ok text) :
    List.Forall₂ (IsPair scope) entries (Form.decodeStrings text) := by
  obtain ⟨values, hvalues, h⟩ := bind_eq_ok h
  obtain ⟨written, hwritten, h⟩ := bind_eq_ok h
  obtain ⟨texts, htexts, h⟩ := bind_eq_ok h
  have hpairs : List.Forall₂ (IsPair scope) entries texts := by
    have hwire : List.Forall₂ (fun value text => Value.plainText (.scalar value.1) = .ok text.1 ∧
        value.2.wireText = .ok text.2) values texts := by
      refine forall₂_trans (forall₂_zip (mapM_ok_iff.mp hwritten) Prod.fst)
        (formTexts_ok_iff.mp htexts) ?_
      rintro value pair text ⟨hkey, htext⟩ ⟨hname, hsame⟩
      exact ⟨hkey ▸ hname, hsame.symm ▸ htext⟩
    have htextual : List.Forall₂ (fun entry value => (∃ s, entry.1 = .text s) ∧
        value.1 = entry.1 ∧ scope.value entry.2 = .ok value.2) entries values :=
      (List.forall₂_and_left _ _).mpr ⟨hkeys.isText, formValues_ok_iff.mp hvalues⟩
    refine forall₂_trans htextual hwire ?_
    rintro entry value text ⟨⟨s, hs⟩, hkey, hvalue⟩ ⟨hname, htext⟩
    rw [hkey, hs] at hname
    exact ⟨hs.trans (congrArg Scalar.text (Except.ok.inj hname)), value.2, hvalue, htext⟩
  have hdistinct : (texts.map Prod.fst).Nodup := by
    refine List.Nodup.of_map Scalar.text ?_
    have hkeys' : entries.map Prod.fst = (texts.map Prod.fst).map .text := by
      rw [List.map_map, ← List.forall₂_eq_eq_eq, List.forall₂_map_left_iff,
        List.forall₂_map_right_iff]
      exact hpairs.imp fun entry pair hpair => hpair.1
    exact hkeys' ▸ hkeys.nodup
  rw [Named.overlay_eq_self hdistinct] at h
  rw [encoded_ok h, Form.decodeStrings_encodeStrings]
  exact hpairs

theorem formText_of_text {site : Site} {body : RequestBody} {entries : Entries} {text : String}
    (h : body.text scope site = .ok text) (htype : body.contentType = formType)
    (hpayload : body.payload = .map entries) : formText scope entries = .ok text := by
  obtain ⟨-, hwritten⟩ := written_of_text h
  cases hwritten with
  | form _ hpayload' htext => rwa [Value.map.inj (hpayload.symm.trans hpayload')]
  | jsonMap htype' => exact absurd (htype.symm.trans htype') formType_ne_jsonType
  | jsonList htype' => exact absurd (htype.symm.trans htype') formType_ne_jsonType

end RequestBody

/-! ## Paths -/

/-- Filling the placeholders of a path brings no other characters in than those of the texts. -/
theorem Operation.isBare_fillPath {path : List Char} {texts : Named String}
    (hpath : Url.IsBare path) (htexts : ∀ text ∈ texts, Url.IsBare text.2.toList) :
    Url.IsBare (fillPath path texts) := by
  unfold fillPath
  induction texts generalizing path with
  | nil => exact hpath
  | cons text rest ih =>
    obtain ⟨htext, hrest⟩ := List.forall_mem_cons.mp htexts
    exact ih ⟨fun hmem => (mem_replace hmem).elim htext.1 hpath.1,
      fun hmem => (mem_replace hmem).elim htext.2 hpath.2⟩ hrest

/-- A path that is filled is a text, in which the texts of the values have been put. -/
theorem Operation.filledPath_ok {operation : Operation} {values : Named Value} {s : String}
    (h : operation.filledPath values = .ok s) :
    ∃ texts, Value.wireTexts values = .ok texts ∧
      s.toList = fillPath (Value.plain (.scalar operation.path)).toList texts := by
  unfold filledPath at h
  split at h
  · next path hscalar =>
    obtain ⟨texts, htexts, h⟩ := bind_eq_ok h
    rw [← Except.ok.inj h, hscalar, String.toList_ofList]
    exact ⟨texts, htexts, rfl⟩
  · unfold Value.plainText at h
    split_ifs at h
    rw [← Except.ok.inj h]
    exact ⟨[], rfl, rfl⟩
  iterate 4
    · obtain ⟨-, -, h⟩ := bind_eq_ok h
      cases h
  · cases h

/-! ## The query -/

namespace Call

variable {call : Call} {scope : Scope} {site : Site} {client : Client} {session : Session}
  {r : Request}

/-- The text of the path of an operation. -/
def template (call : Call) : List Char := (Value.plain (.scalar call.operation.path)).toList

/-- The query that named texts make, if there are any. -/
def queryOf (texts : Named String) : Option String :=
  if texts = [] then none else some (Form.encodeStrings texts)

/-- The end of the text of a URL: nothing, or a question mark and the query. -/
def queryTail (texts : Named String) : List Char :=
  if texts = [] then [] else '?' :: (Form.encodeStrings texts).toList

theorem isQuery_queryTail (texts : Named String) :
    Url.IsQuery (queryTail texts) ((queryOf texts).map String.toList) := by
  unfold queryTail queryOf
  split_ifs
  · exact .none
  · have hquery := Url.isQuery_encodeStrings texts
    rwa [String.toList_append] at hquery

/-- A request that is built has the URL that a text denotes: the URL of the server, the path filled
with the texts that the path parameters merge to, and the query of the query parameters. -/
theorem exists_urlText (built : call.request scope site client session = .ok r) :
    ∃ server fills texts, call.operation.serverUrl site = .ok server ∧
      call.MergesTo scope .path fills ∧ call.MergesTo scope .query texts ∧
      (Url.read (server.toList ++ Operation.fillPath call.template fills ++ queryTail texts)).bind
        Url.forRequest = .ok r.url := by
  rw [request_eq] at built
  obtain ⟨own, hown, built⟩ := bind_eq_ok built
  obtain ⟨given, hgiven, built⟩ := bind_eq_ok built
  obtain ⟨bytes, -, built⟩ := bind_eq_ok built
  obtain ⟨server, s, hserver, htext, hurl, -⟩ := exists_url_of_assemble built
  obtain ⟨path, hfilled, htext⟩ := bind_eq_ok htext
  obtain ⟨texts, htexts, htext⟩ := bind_eq_ok htext
  obtain ⟨query, hquery, htext⟩ := bind_eq_ok htext
  obtain rfl := RequestBody.encoded_ok hquery
  obtain rfl := Except.ok.inj htext
  obtain ⟨fills, hwire, hpath⟩ := Operation.filledPath_ok hfilled
  refine ⟨server, fills, texts, hserver, mergesTo_of_wireTexts hown hgiven hwire,
    mergesTo_of_wireTexts hown hgiven htexts, ?_⟩
  have htail : (if Form.encodeStrings texts = "" then ""
      else "?" ++ Form.encodeStrings texts).toList = queryTail texts := by
    unfold queryTail
    by_cases hnone : texts = []
    · rw [if_pos (Form.encodeStrings_eq_empty.mpr hnone), if_pos hnone]
      rfl
    · rw [if_neg fun h => hnone (Form.encodeStrings_eq_empty.mp h), if_neg hnone,
        String.toList_append]
      rfl
  rw [template, ← hpath, ← htail, ← String.toList_append, ← String.toList_append]
  exact hurl

/-- Behind what is bare the query of a URL starts. -/
theorem query_of_bare {front : List Char} {texts : Named String} {url : Url}
    (hfront : Url.IsBare front)
    (hurl : (Url.read (front ++ queryTail texts)).bind Url.forRequest = .ok url) :
    url.query = queryOf texts := by
  rw [Url.query_of_text hfront (isQuery_queryTail texts) hurl, Option.map_map]
  simp [Function.comp_def]

/-- Decoding the query of a request gives one pair for each name of a query parameter, with the text
of the parameter that decides about it, and without query parameters there is no query. Decoding the
body of a form with text keys gives the pairs of keys and texts of its entries. -/
theorem request_decodes
    (h : call.request scope site client session = .ok r) :
    (∀ server, call.operation.serverUrl site = .ok server → Url.IsBare server.toList →
      Url.IsBare (Value.plain (.scalar call.operation.path)).toList →
      (∀ name text, call.HasText scope .path name text → Url.IsBare text.toList) →
        (r.url.query = none ↔ call.names .query = []) ∧
        List.Forall₂ (fun name pair => pair.1 = name ∧ call.HasText scope .query name pair.2)
          (call.names .query) (Form.decodeStrings (r.url.query.getD ""))) ∧
    ∀ body (entries : Entries), call.body = some body → body.contentType = RequestBody.formType →
      body.payload = .map entries → entries.HasTextKeys →
        List.Forall₂ (RequestBody.IsPair scope) entries
          (Form.decodeStrings (String.ofList (readUtf8 r.body))) := by
  constructor
  · intro server hserver hbare hpath hfills
    obtain ⟨server', fills, texts, hserver', hpathTexts, htexts, hurl⟩ := exists_urlText h
    obtain rfl := Except.ok.inj (hserver'.symm.trans hserver)
    have hfilled : Url.IsBare (Operation.fillPath call.template fills) :=
      Operation.isBare_fillPath hpath fun text htext => hfills _ _ (hpathTexts.hasText htext).2
    have hquery := query_of_bare (hbare.append hfilled) hurl
    unfold queryOf at hquery
    have hnil : texts = [] ↔ call.names .query = [] := by
      rw [← List.length_eq_zero_iff, ← htexts.length_eq, List.length_eq_zero_iff]
    split_ifs at hquery with hnone
    · rw [hnone] at htexts
      rw [hquery]
      exact ⟨iff_of_true rfl (hnil.mp hnone), htexts⟩
    · rw [hquery, Option.getD_some, Form.decodeStrings_encodeStrings]
      exact ⟨iff_of_false (by simp) fun hnames => hnone (hnil.mpr hnames), htexts⟩
  · intro body entries hsome htype hpayload hkeys
    rw [request_eq] at h
    obtain ⟨own, -, h⟩ := bind_eq_ok h
    obtain ⟨given, -, h⟩ := bind_eq_ok h
    obtain ⟨bytes', hbytes, h⟩ := bind_eq_ok h
    obtain ⟨server, s, -, -, -, hbody⟩ := exists_url_of_assemble h
    rw [bytes, hsome] at hbytes
    obtain ⟨text, hwritten, rfl⟩ := map_ok_iff.mp hbytes
    rw [hbody, utf8String, readUtf8_utf8, String.ofList_toList]
    exact RequestBody.forall₂_of_formText hkeys
      (RequestBody.formText_of_text hwritten htype hpayload)

theorem mem_of_decisive? {location : Location} {name : String} {p : Parameter}
    (h : call.decisive? location name = some p) :
    p ∈ call.parameters.inLocation location ++ call.shared.inLocation location := by
  have hlast : ∀ parameters : List Parameter, Parameters.last? parameters name = some p →
      p ∈ parameters := fun parameters hp =>
    (List.mem_filter.mp (List.mem_of_getLast? hp)).1
  rcases Option.or_eq_some_iff.mp h with hown | ⟨-, hshared⟩
  · exact List.mem_append_left _ (hlast _ hown)
  · exact List.mem_append_right _ (hlast _ hshared)

end Call

namespace Search

def parameter (location : Location) (name text : String) : Parameter :=
  ⟨name, location, .text text, []⟩

/-- A form whose keys and values hold what form data is made of. -/
def form : RequestBody :=
  ⟨RequestBody.formType, .map [(.text "a=", .text "'+'"), (.text "", .text "\u00FC")], none, []⟩

/-- The workflow sets a name twice and a nameless value, the step sets the name once more. -/
def call : Call where
  operation := ⟨"post", .text "/\x7bid\x7d", [],
    [(.text "servers", .list [.map [(.text "url", .text "http://h/")]])], ""⟩
  parameters := [.given (parameter .query "q" "&b"), .given (parameter .path "id" "7")]
  shared := [.given (parameter .query "q" "a"), .given (parameter .query "" "null"),
    .given (parameter .query "q" "c")]
  body := some form

def scope : Scope := ⟨⟨.null, []⟩, default⟩

/-- The request of the call. -/
def request : Except Fault Request :=
  call.request scope default ⟨Client.defaultHeaders, true, true, .still default⟩ .start

theorem isBare_path : ∀ name text, call.HasText scope .path name text →
    Url.IsBare text.toList := by
  rintro name text ⟨p, v, hdecisive, hvalue, hwire⟩
  obtain rfl : p = parameter .path "id" "7" := List.mem_singleton.mp (Call.mem_of_decisive? hdecisive)
  have hseven : scope.value (.text "7") = .ok (.int 7) := rfl
  obtain rfl := Except.ok.inj (hseven.symm.trans hvalue)
  have htext : Value.wireText (.int 7) = .ok "7" := by decide +kernel
  obtain rfl := Except.ok.inj (htext.symm.trans hwire)
  exact ⟨by decide, by decide⟩

end Search

namespace Call

theorem request_decodes_reserved : ∃ r, Search.request = .ok r ∧
    (r.url.query = none ↔ Search.call.names .query = []) ∧
    List.Forall₂ (fun name pair =>
        pair.1 = name ∧ Search.call.HasText Search.scope .query name pair.2)
      (Search.call.names .query) (Form.decodeStrings (r.url.query.getD "")) ∧
    List.Forall₂ (RequestBody.IsPair Search.scope)
      [(.text "a=", .text "'+'"), (.text "", .text "\u00FC")]
      (Form.decodeStrings (String.ofList (readUtf8 r.body))) ∧
    r.url.query = some "q=%26b&=" ∧ Search.call.names .query = ["q", ""] := by
  have hquery : (Search.request.map fun r => r.url.query).toOption = some (some "q=%26b&=") := by
    decide +kernel
  cases hrequest : Search.request with
  | error f => simp [hrequest, Except.map, Except.toOption] at hquery
  | ok r =>
    obtain ⟨hdecodes, hform⟩ := request_decodes hrequest
    obtain ⟨hnone, hpairs⟩ := hdecodes "http://h" (by decide +kernel) ⟨by decide, by decide⟩
      ⟨by decide, by decide⟩ Search.isBare_path
    refine ⟨r, rfl, hnone, hpairs, hform Search.form _ rfl rfl rfl ⟨?_, ?_⟩, ?_, by decide⟩
    · simp
    · simp
    · simpa [hrequest, Except.map, Except.toOption] using hquery

end Call
end Arazzo
