import Arazzo.Loading.Sources
import Arazzo.Proofs.Document.Dereference
import Arazzo.Proofs.Document.Named
import Arazzo.Proofs.Http.Client
import Arazzo.Proofs.Json.RoundTrip
import Arazzo.Proofs.Workflow.Lookup

/-!
# Loading API documents in order

The sources of a workflow document are loaded one after the other up to the first that fails. What is
got and read on the way is noted down by surroundings that keep a log and answer like the real ones, so
that the log of a run is about the run without one. If nothing fails then an identifier names an
operation of the first source, in the order of their declarations, whose document declares one.
-/

namespace Arazzo
namespace Sources

open Reference (dereference Holds IsGood)

/-- What the surroundings are asked for: the document at a URL, or the one in a file. -/
inductive Access where
  | get (url : String)
  | read (path : FilePath)
deriving DecidableEq

/-- The URL of a document that is fetched. -/
def Access.url? : Access → Option String
  | .get url => some url
  | .read _ => none

/-- What loading a source of the right type asks for. -/
def access (base : Option FilePath) (source : Source) : Access :=
  if isUrl source.url then .get source.url else .read (pathOf base source)

/-- What loading a source asks for; a source of another type is refused at once. -/
def accesses (base : Option FilePath) (source : Source) : List Access :=
  if source.type = .openapi then [access base source] else []

namespace Surroundings

variable {σ : Type}

/-- The same surroundings with a log of what they are asked for. -/
def logged (surroundings : Surroundings σ) : Surroundings (σ × List Access) where
  get url state :=
    ((surroundings.get url state.1).1, (surroundings.get url state.1).2, state.2 ++ [.get url])
  read path state :=
    ((surroundings.read path state.1).1, (surroundings.read path state.1).2, state.2 ++ [.read path])

/-- Sources that are loaded one after the other, with their documents and the state behind them. -/
inductive LoadsInTurn (surroundings : Surroundings σ) (base : Option FilePath) :
    List Source → σ → List Value → σ → Prop
  | nil (state : σ) : LoadsInTurn surroundings base [] state [] state
  | cons {source : Source} {rest : List Source} {v : Value} {vs : List Value}
      {state next closing : σ} : surroundings.load base source state = (.ok v, next) →
      LoadsInTurn surroundings base rest next vs closing →
      LoadsInTurn surroundings base (source :: rest) state (v :: vs) closing

variable {surroundings : Surroundings σ} {base : Option FilePath}

theorem LoadsInTurn.cons_of_ok {source : Source} {rest : List Source} {v : Value} {vs : List Value}
    {state closing : σ}
    (h : surroundings.LoadsInTurn base rest (surroundings.load base source state).2 vs closing)
    (hload : (surroundings.load base source state).1 = .ok v) :
    surroundings.LoadsInTurn base (source :: rest) state (v :: vs) closing :=
  .cons (Prod.ext hload rfl) h

theorem load_of_ne {source : Source} (h : source.type ≠ .openapi) (state : σ) :
    surroundings.load base source state = (.error (.failure
      (.unsupported (.sourceType source.name source.type.name) ⟨none, none⟩)), state) :=
  if_neg h

/-- A source of the right type is loaded if its document is a mapping. -/
theorem load_eq {source : Source} (h : source.type = .openapi) (state : σ) :
    surroundings.load base source state =
      ((surroundings.document base source state).1.bind fun
        | .map entries => .ok (.map entries)
        | _ => .error (Format.loading .notAnApiDocument (some source.url)),
        (surroundings.document base source state).2) := by
  rw [load, if_pos h]
  rcases surroundings.document base source state with ⟨_ | v, next⟩
  · rfl
  · cases v <;> rfl

theorem document_logged (source : Source) (state : σ) (log : List Access) :
    surroundings.logged.document base source (state, log) =
      ((surroundings.document base source state).1, (surroundings.document base source state).2,
        log ++ [access base source]) := by
  unfold document access
  by_cases hurl : isUrl source.url = true
  · simp only [hurl, if_true]
    rfl
  · simp only [hurl, Bool.false_eq_true, if_false]
    rfl

/-- The log changes neither the document nor the state. -/
theorem load_logged (surroundings : Surroundings σ) (base : Option FilePath) (source : Source)
    (state : σ) (log : List Access) :
    surroundings.logged.load base source (state, log) =
      ((surroundings.load base source state).1, (surroundings.load base source state).2,
        log ++ accesses base source) := by
  by_cases htype : source.type = .openapi
  · rw [load_eq htype, load_eq htype, document_logged, accesses, if_pos htype]
  · rw [load_of_ne htype, load_of_ne htype, accesses, if_neg htype, List.append_nil]

theorem LoadsInTurn.logged {front : List Source} {state closing : σ} {vs : List Value}
    (h : surroundings.LoadsInTurn base front state vs closing) (log : List Access) :
    surroundings.logged.LoadsInTurn base front (state, log) vs
      (closing, log ++ front.flatMap (accesses base)) := by
  induction h generalizing log with
  | nil state =>
    rw [List.flatMap_nil, List.append_nil]
    exact .nil _
  | cons hload _ ih =>
    rw [List.flatMap_cons, ← List.append_assoc]
    exact .cons (by rw [load_logged, hload]) (ih _)

/-- Loading goes on behind the sources that have been loaded. -/
theorem LoadsInTurn.loadAll_append {front : List Source} {state closing : σ} {vs : List Value}
    (h : surroundings.LoadsInTurn base front state vs closing) (rest : List Source)
    (documents : ApiDocuments) :
    surroundings.loadAll base (front ++ rest) documents state =
      surroundings.loadAll base rest
        (Named.overlay documents ((front.map Source.name).zip vs)) closing := by
  induction h generalizing documents with
  | nil state => rfl
  | cons hload _ ih =>
    rw [List.cons_append, loadAll, hload]
    exact ih _

theorem loadAll_cons_of_error {failing : Source} {state final : σ} {f : Fault}
    (h : surroundings.load base failing state = (.error f, final)) (later : List Source)
    (documents : ApiDocuments) :
    surroundings.loadAll base (failing :: later) documents state = (.error f, final) := by
  rw [loadAll, h]

/-- Either all sources are loaded, or those in front of the first that fails. -/
theorem exists_loadsInTurn (surroundings : Surroundings σ) (base : Option FilePath)
    (sources : List Source) (state : σ) :
    ∃ front vs closing, surroundings.LoadsInTurn base front state vs closing ∧
      (front = sources ∨ ∃ failing later f final, sources = front ++ failing :: later ∧
        surroundings.load base failing closing = (.error f, final)) := by
  induction sources generalizing state with
  | nil => exact ⟨[], [], state, .nil state, .inl rfl⟩
  | cons source rest ih =>
    rcases hload : surroundings.load base source state with ⟨f | v, next⟩
    · exact ⟨[], [], state, .nil state, .inr ⟨source, rest, f, next, rfl, hload⟩⟩
    · obtain ⟨front, vs, closing, hfront, hrest⟩ := ih next
      refine ⟨source :: front, v :: vs, closing, .cons hload hfront, hrest.imp ?_ ?_⟩
      · rintro rfl
        rfl
      · rintro ⟨failing, later, f, final, rfl, hfails⟩
        exact ⟨failing, later, f, final, rfl, hfails⟩

theorem LoadsInTurn.length_eq {front : List Source} {state closing : σ} {vs : List Value}
    (h : surroundings.LoadsInTurn base front state vs closing) : vs.length = front.length := by
  induction h with
  | nil state => rfl
  | cons _ _ ih => rw [List.length_cons, List.length_cons, ih]

end Surroundings

/-! ## What a source needs to be loaded -/

section
variable (server : Server) (client : Client) (files : Files) (base : Option FilePath)

/-- The text of a source, fetched or read, and the format that it is in if that is known. -/
inductive HasText (source : Source) (session : Session) : Option Format → List Char → Prop
  | fetched {format : Option Format} {cs : List Char} : isUrl source.url = true →
      (fetchText server client source.url session).1 = .ok (format, cs) → HasText source session format cs
  | read {cs : List Char} : isUrl source.url = false → files.text (pathOf base source) = .ok cs →
      HasText source session (Format.ofName? (pathOf base source).name) cs

/-- A source of API descriptions whose text can be read, denotes a document with good references only,
and is a mapping once these have been replaced. -/
inductive Provides (source : Source) (session : Session) : Value → Prop
  | intro {format : Option Format} {cs : List Char} {root : Value} {entries : Entries} :
      source.type = .openapi → HasText server client files base source session format cs →
      Format.read format none cs = .ok root → dereference root = .ok (.map entries) →
      Provides source session (.map entries)

/-- Why a source cannot be loaded. -/
inductive Fails (source : Source) (session : Session) : Prop
  | type : source.type ≠ .openapi → Fails source session
  | unfetchable : isUrl source.url = true →
      (∀ found, (fetchText server client source.url session).1 ≠ .ok found) → Fails source session
  | unreadable : isUrl source.url = false → (∀ cs, files.text (pathOf base source) ≠ .ok cs) →
      Fails source session
  | unparsable {format : Option Format} {cs : List Char} :
      HasText server client files base source session format cs →
      (∀ root, Format.read format none cs ≠ .ok root) → Fails source session
  | reference {format : Option Format} {cs : List Char} {root : Value} {reference : String} :
      HasText server client files base source session format cs →
      Format.read format none cs = .ok root → Holds reference root → ¬ IsGood root reference →
      Fails source session
  | notMapping {format : Option Format} {cs : List Char} {root v : Value} :
      HasText server client files base source session format cs →
      Format.read format none cs = .ok root → dereference root = .ok v →
      (∀ entries, v ≠ .map entries) → Fails source session

end

section
variable {server : Server} {client : Client} {files : Files} {base : Option FilePath}
  {source : Source} {session : Session}

/-- Only errors depend on what a text is named after. -/
theorem read_ok_iff (name : Option String) {format : Option Format} {cs : List Char} {v : Value} :
    Format.read format name cs = .ok v ↔ Format.read format none cs = .ok v := by
  have hyaml : ∀ name : Option String,
      Format.readYaml name cs = .ok v ↔ Yaml.read cs = .ok v := by
    intro name
    unfold Format.readYaml
    split <;> simp_all
  unfold Format.read
  cases format with
  | none => cases Json.read? cs <;> simp [hyaml]
  | some format =>
    cases format with
    | json => cases Json.read? cs <;> simp
    | yaml => simp [hyaml]

theorem HasText.unique {format format' : Option Format} {cs cs' : List Char}
    (h : HasText server client files base source session format cs)
    (h' : HasText server client files base source session format' cs') :
    format = format' ∧ cs = cs' := by
  cases h with
  | fetched hurl hfetch =>
    cases h' with
    | fetched _ hfetch' =>
      have heq := hfetch.symm.trans hfetch'
      simpa using heq
    | read hurl' => exact absurd (hurl.symm.trans hurl') (by decide)
  | read hurl hread =>
    cases h' with
    | fetched hurl' => exact absurd (hurl'.symm.trans hurl) (by decide)
    | read _ hread' => exact ⟨rfl, Except.ok.inj (hread.symm.trans hread')⟩

/-- A source without a text cannot be got at. -/
theorem exists_hasText_or_fails (server : Server) (client : Client) (files : Files)
    (base : Option FilePath) (source : Source) (session : Session) : (∃ format cs,
    HasText server client files base source session format cs) ∨
      Fails server client files base source session := by
  by_cases hurl : isUrl source.url = true
  · cases hfetch : (fetchText server client source.url session).1 with
    | ok found => exact .inl ⟨found.1, found.2, .fetched hurl hfetch⟩
    | error f => exact .inr (.unfetchable hurl (by simp [hfetch]))
  · rw [Bool.not_eq_true] at hurl
    cases hread : files.text (pathOf base source) with
    | ok cs => exact .inl ⟨_, cs, .read hurl hread⟩
    | error f => exact .inr (.unreadable hurl (by simp [hread]))

/-- The document of a source is that of its text, with the references replaced. -/
theorem document_ok_iff {v : Value} :
    ((surroundings server client files).document base source session).1 = .ok v ↔
      ∃ format cs root, HasText server client files base source session format cs ∧
        Format.read format none cs = .ok root ∧ dereference root = .ok v := by
  unfold Surroundings.document surroundings
  by_cases hurl : isUrl source.url = true
  · simp only [hurl, if_true]
    have hiff : (fetch server client source.url session).1 = .ok v ↔ ∃ format cs root,
        (fetchText server client source.url session).1 = .ok (format, cs) ∧
          Format.read format none cs = .ok root ∧ dereference root = .ok v := by
      unfold fetch
      rcases fetchText server client source.url session with ⟨f | ⟨format, cs⟩, closing⟩
      · simp
      · simp only [Except.ok.injEq, Prod.mk.injEq]
        rw [show ∀ x : Except Fault Value, x.bind dereference = x >>= dereference from fun _ => rfl,
          bind_ok_iff]
        simp only [read_ok_iff (some source.url)]
        constructor
        · rintro ⟨root, hread, hroot⟩
          exact ⟨format, cs, root, ⟨rfl, rfl⟩, hread, hroot⟩
        · rintro ⟨_, _, root, ⟨rfl, rfl⟩, hread, hroot⟩
          exact ⟨root, hread, hroot⟩
    rw [hiff]
    constructor
    · rintro ⟨format, cs, root, hfetch, hrest⟩
      exact ⟨format, cs, root, .fetched hurl hfetch, hrest⟩
    · rintro ⟨format, cs, root, htext, hrest⟩
      cases htext with
      | fetched _ hfetch => exact ⟨format, cs, root, hfetch, hrest⟩
      | read hurl' => exact absurd (hurl.symm.trans hurl') (by decide)
  · rw [Bool.not_eq_true] at hurl
    simp only [hurl, Bool.false_eq_true, if_false]
    unfold Files.document
    constructor
    · intro h
      split at h
      · next cs hcs =>
        obtain ⟨root, hread, hroot⟩ := bind_ok_iff.mp h
        exact ⟨_, cs, root, .read hurl hcs, (read_ok_iff _).mp hread, hroot⟩
      · cases h
      · cases h
    · rintro ⟨format, cs, root, htext, hread, hroot⟩
      cases htext with
      | fetched hurl' => exact absurd (hurl'.symm.trans hurl) (by decide)
      | read _ hcs =>
        rw [hcs]
        exact bind_ok_iff.mpr ⟨root, (read_ok_iff _).mpr hread, hroot⟩

theorem load_ok_iff {v : Value} :
    ((surroundings server client files).load base source session).1 = .ok v ↔
      Provides server client files base source session v := by
  by_cases htype : source.type = .openapi
  · rw [Surroundings.load_eq htype]
    constructor
    · intro h
      obtain ⟨w, hw, hv⟩ := bind_ok_iff.mp h
      obtain ⟨format, cs, root, htext, hread, hroot⟩ := document_ok_iff.mp hw
      split at hv
      · obtain rfl := Except.ok.inj hv
        exact .intro htype htext hread hroot
      · cases hv
    · rintro ⟨-, htext, hread, hroot⟩
      exact bind_ok_iff.mpr ⟨_, document_ok_iff.mpr ⟨_, _, _, htext, hread, hroot⟩, rfl⟩
  · rw [Surroundings.load_of_ne htype]
    constructor
    · rintro ⟨⟩
    · rintro ⟨htype', -⟩
      exact absurd htype' htype

/-- A source is loaded, or there is a reason why it cannot be. -/
theorem fails_iff : Fails server client files base source session ↔
    ∀ v, ¬ Provides server client files base source session v := by
  constructor
  · rintro hfails v ⟨htype, htext, hread, hroot⟩
    cases hfails with
    | type hne => exact hne htype
    | unfetchable hurl hnone =>
      cases htext with
      | fetched _ hfetch => exact hnone _ hfetch
      | read hurl' => exact absurd (hurl.symm.trans hurl') (by decide)
    | unreadable hurl hnone =>
      cases htext with
      | fetched hurl' => exact absurd (hurl'.symm.trans hurl) (by decide)
      | read _ hcs => exact hnone _ hcs
    | unparsable htext' hnone =>
      obtain ⟨rfl, rfl⟩ := htext.unique htext'
      exact hnone _ hread
    | reference htext' hread' hholds hbad =>
      obtain ⟨rfl, rfl⟩ := htext.unique htext'
      obtain rfl := Except.ok.inj (hread.symm.trans hread')
      exact hbad (hholds.isGood_of_visit hroot)
    | notMapping htext' hread' hroot' hne =>
      obtain ⟨rfl, rfl⟩ := htext.unique htext'
      obtain rfl := Except.ok.inj (hread.symm.trans hread')
      exact hne _ (Except.ok.inj (hroot'.symm.trans hroot))
  · intro hnone
    by_cases htype : source.type = .openapi
    · obtain ⟨format, cs, htext⟩ | hfails :=
        exists_hasText_or_fails server client files base source session
      · cases hread : Format.read format none cs with
        | error f => exact .unparsable htext (by simp [hread])
        | ok root =>
          by_cases hgood : ∀ reference, Holds reference root → IsGood root reference
          · obtain ⟨v, hv⟩ := (Reference.entered_root root).exists_ok ((Reference.all root).length + 1) hgood
            refine .notMapping htext hread hv ?_
            rintro entries rfl
            exact hnone _ (.intro htype htext hread hv)
          · simp only [not_forall] at hgood
            obtain ⟨reference, hholds, hbad⟩ := hgood
            exact .reference htext hread hholds hbad
      · exact hfails
    · exact .type htype

end

/-! ## Requests -/

section
variable (server : Server) (client : Client)

/-- A request for the document at a URL. -/
inductive AsksFor (text : String) (request : Request) : Prop
  | intro {url : Url} : Url.read text.toList = .ok url → url.forRequest = .ok request.url →
      request.method = "GET" → AsksFor text request

theorem request_eq {client : Client} {session : Session} {method : String} {url : Url} {headers : Headers}
    {body : List UInt8} {request : Request}
    (h : client.request session method url headers body = .ok request) :
    request.method = method ∧ request.url = url := by
  unfold Client.request Request.complete at h
  obtain ⟨host, -, h⟩ := bind_ok_iff.mp h
  obtain rfl := Except.ok.inj h
  exact ⟨rfl, rfl⟩

/-- A document that is fetched takes one request, and one that is not at most one. -/
theorem fetchText_calls (text : String) (session : Session) :
    (∃ request, AsksFor text request ∧
      (fetchText server client text session).2.calls = session.calls ++ [request]) ∨
    (fetchText server client text session).2.calls = session.calls ∧
      ∃ f, (fetchText server client text session).1 = .error f := by
  unfold fetchText
  split
  · exact .inr ⟨rfl, _, rfl⟩
  · exact .inr ⟨rfl, _, rfl⟩
  · next url hurl =>
    split
    · exact .inr ⟨rfl, _, rfl⟩
    · next target htarget =>
      split
      · exact .inr ⟨rfl, _, rfl⟩
      · next request hrequest =>
        obtain ⟨hmethod, hto⟩ := request_eq hrequest
        have hcalls := Client.send_calls server client request session
        refine .inl ⟨request, .intro hurl (hto ▸ htarget) hmethod, ?_⟩
        split
        · next hsend => exact (hsend ▸ hcalls :)
        · next hsend => exact (hsend ▸ hcalls :)
        · next hsend =>
          dsimp only
          split
          · split <;> exact (hsend ▸ hcalls :)
          · exact (hsend ▸ hcalls :)

theorem fetch_session (text : String) (session : Session) :
    (fetch server client text session).2 = (fetchText server client text session).2 := by
  unfold fetch
  split <;> next h => rw [h]

variable (files : Files) (base : Option FilePath)

/-- Only what is fetched changes the session. -/
theorem load_session (source : Source) (session : Session) :
    ((surroundings server client files).load base source session).2 =
      if source.type = .openapi ∧ isUrl source.url then
        (fetchText server client source.url session).2 else session := by
  by_cases htype : source.type = .openapi
  · rw [Surroundings.load_eq htype]
    unfold Surroundings.document surroundings
    by_cases hurl : isUrl source.url = true
    · simp [htype, hurl, fetch_session]
    · simp [htype, hurl]
  · rw [Surroundings.load_of_ne htype, if_neg fun h => htype h.1]

/-- The URLs among the things asked for. -/
def urls (log : List Access) : List String := log.filterMap Access.url?

theorem urls_append (log more : List Access) : urls (log ++ more) = urls log ++ urls more :=
  List.filterMap_append

theorem urls_accesses (base : Option FilePath) (source : Source) :
    urls (accesses base source) =
      if source.type = .openapi ∧ isUrl source.url then [source.url] else [] := by
  unfold urls accesses access
  by_cases htype : source.type = .openapi <;> by_cases hurl : isUrl source.url = true <;>
    simp [htype, hurl, Access.url?]

theorem urls_map_access (base : Option FilePath) (sources : List Source) :
    urls (sources.map (access base)) =
      (sources.filter fun source => isUrl source.url).map Source.url := by
  induction sources with
  | nil => rfl
  | cons source rest ih =>
    unfold urls at ih ⊢
    by_cases hurl : isUrl source.url = true
    · simp [access, hurl, Access.url?, ih]
    · simp [access, hurl, List.filterMap_cons, Access.url?, ih]

/-- A source that is loaded takes one request if it is fetched. -/
theorem load_calls_of_ok {source : Source} {v : Value} {session next : Session}
    (h : (surroundings server client files).load base source session = (.ok v, next)) :
    ∃ requests, next.calls = session.calls ++ requests ∧
      List.Forall₂ AsksFor (urls [access base source]) requests := by
  have hprovides : Provides server client files base source session v := load_ok_iff.mp (by rw [h])
  have hnext : next = _ := h ▸ load_session server client files base source session
  obtain ⟨htype, htext, -, -⟩ := hprovides
  cases htext with
  | fetched hurl hfetch =>
    have hurls : urls [access base source] = [source.url] := by simp [urls, access, hurl, Access.url?]
    rw [if_pos ⟨htype, hurl⟩] at hnext
    rw [hnext, hurls]
    obtain ⟨request, hrequest, hcalls⟩ | ⟨-, f, hfails⟩ :=
      fetchText_calls server client source.url session
    · exact ⟨[request], hcalls, .cons hrequest .nil⟩
    · cases hfails.symm.trans hfetch
  | read hurl =>
    have hurls : urls [access base source] = [] := by simp [urls, access, hurl, Access.url?]
    rw [if_neg (by simp [hurl])] at hnext
    rw [hnext, hurls]
    exact ⟨[], (List.append_nil _).symm, .nil⟩

/-- A source that is not loaded takes a request only if it is fetched. -/
theorem load_calls (source : Source) (session : Session) : ∃ requests,
    ((surroundings server client files).load base source session).2.calls =
      session.calls ++ requests ∧
    (requests = [] ∨ List.Forall₂ AsksFor (urls (accesses base source)) requests) := by
  rw [load_session, urls_accesses]
  split_ifs with hfetched
  · obtain ⟨request, hrequest, hcalls⟩ | ⟨hcalls, -⟩ :=
      fetchText_calls server client source.url session
    · exact ⟨[request], hcalls, .inr (.cons hrequest .nil)⟩
    · exact ⟨[], by rw [hcalls, List.append_nil], .inl rfl⟩
  · exact ⟨[], (List.append_nil _).symm, .inl rfl⟩

variable {server client files base}

/-- Sources that are loaded provide their documents, and each is asked for once. -/
theorem Surroundings.LoadsInTurn.spec {front : List Source} {vs : List Value}
    {session closing : Session}
    (h : (surroundings server client files).LoadsInTurn base front session vs closing) :
    List.Forall₂ (fun source v => ∃ session, Provides server client files base source session v)
      front vs ∧
    front.flatMap (accesses base) = front.map (access base) ∧
    ∃ requests, closing.calls = session.calls ++ requests ∧
      List.Forall₂ AsksFor (urls (front.map (access base))) requests := by
  induction h with
  | nil session => exact ⟨.nil, rfl, [], (List.append_nil _).symm, .nil⟩
  | @cons source rest v vs session next closing hload _ ih =>
    obtain ⟨hprovides, haccesses, requests, hcalls, hasked⟩ := ih
    obtain ⟨first, hnext, hfirst⟩ := load_calls_of_ok server client files base hload
    have hv : Provides server client files base source session v := load_ok_iff.mp (by rw [hload])
    refine ⟨.cons ⟨session, hv⟩ hprovides, ?_, first ++ requests, ?_, ?_⟩
    · obtain ⟨htype, -⟩ := hv
      rw [List.flatMap_cons, haccesses, accesses, if_pos htype]
      rfl
    · rw [hcalls, hnext, List.append_assoc]
    · rw [List.map_cons, ← List.singleton_append, urls_append]
      exact List.rel_append hfirst hasked

end

/-! ## The earliest declaration -/

section
open Operation (StandsInDocument HasPaths)

/-- A document with an operation that carries an identifier. -/
def Declares (id : String) (v : Value) : Prop :=
  ∃ source p operation, StandsInDocument id source v p operation

/-- An operation with an identifier from the earliest source whose document declares one. -/
inductive IsEarliest (id : String) (sources : List Source) (vs : List Value) : Operation → Prop
  | intro {i : ℕ} {source : Source} {v : Value} {p : ℕ ×ₗ ℕ} {operation : Operation} :
      sources[i]? = some source → vs[i]? = some v → StandsInDocument id source.name v p operation →
      (∀ j earlier, j < i → vs[j]? = some earlier → ¬ Declares id earlier) →
      IsEarliest id sources vs operation

theorem Declares.exists_standsInDocument {id : String} {v : Value} (h : Declares id v)
    (source : String) : ∃ p operation, StandsInDocument id source v p operation := by
  obtain ⟨_, _, _, hpaths, hentry, hmethod, hget, hid⟩ := h
  exact ⟨_, _, .intro hpaths hentry (.intro hmethod hget hid)⟩

/-- Behind sources in order an identifier names the operation of the earliest that declares it. -/
theorem named_zip {sources : List Source} {vs : List Value} (hlength : vs.length = sources.length)
    (hpaths : ∀ entry ∈ (sources.map Source.name).zip vs, HasPaths entry.2) (id : String)
    (site : Site) :
    (∃ operation, Operation.named ((sources.map Source.name).zip vs) id site = .ok operation ∧
      IsEarliest id sources vs operation) ∨
    Operation.named ((sources.map Source.name).zip vs) id site =
        .error (.failure (.unknownOperation id site)) ∧ ∀ v ∈ vs, ¬ Declares id v := by
  have hentry : ∀ (i : ℕ) v, vs[i]? = some v → ∃ source, sources[i]? = some source ∧
      ((sources.map Source.name).zip vs)[i]? = some (source.name, v) := by
    intro i v hv
    obtain ⟨hi, rfl⟩ := List.getElem?_eq_some_iff.mp hv
    have hi' : i < sources.length := hlength ▸ hi
    exact ⟨sources[i], List.getElem?_eq_getElem hi', by simp [hi, hi']⟩
  obtain ⟨found, hfind, hfirst⟩ := Operation.exists_find?_first hpaths id
  unfold Operation.named
  rw [hfind]
  cases found with
  | none =>
    refine .inr ⟨rfl, fun v hv hdeclares => ?_⟩
    obtain ⟨i, hi⟩ := List.mem_iff_getElem?.mp hv
    obtain ⟨source, -, hat⟩ := hentry i v hi
    obtain ⟨p, operation, hstands⟩ := hdeclares.exists_standsInDocument source.name
    exact hfirst.absent rfl _ operation (.intro hat hstands)
  | some operation =>
    obtain ⟨q, ⟨hat, hstands⟩, hleast⟩ := hfirst.least operation rfl
    rename_i i p source v
    obtain ⟨hname, hv⟩ := List.getElem?_zip_eq_some.mp hat
    rw [List.getElem?_map] at hname
    obtain ⟨source, hsource, rfl⟩ := Option.map_eq_some_iff.mp hname
    refine .inl ⟨operation, rfl, .intro hsource hv hstands ?_⟩
    intro j earlier hlt hj hdeclares
    obtain ⟨other, -, hat'⟩ := hentry j earlier hj
    obtain ⟨p', operation', hstands'⟩ := hdeclares.exists_standsInDocument other.name
    rcases Prod.Lex.le_iff.mp (hleast _ _ (.intro hat' hstands')) with hlt' | ⟨heq, -⟩
    · exact absurd hlt' (Nat.lt_asymm hlt)
    · exact absurd heq (Nat.ne_of_gt hlt)

end

/-! ## Loading all of them -/

section
variable (server : Server) (client : Client) (files : Files) (base : Option FilePath)

/-- Loading with a log of what is asked for. -/
def loadAllLogged (sources : List Source) (session : Session) :
    Except Fault ApiDocuments × Session × List Access :=
  (surroundings server client files).logged.loadAll base sources [] (session, [])

variable {server client files base}

theorem loadAll_of_loaded {sources : List Source} {vs : List Value} {session closing : Session}
    (h : (surroundings server client files).LoadsInTurn base sources session vs closing) :
    loadAll server client files base sources [] session =
      (.ok (Named.overlay [] ((sources.map Source.name).zip vs)), closing) ∧
    loadAllLogged server client files base sources session =
      (.ok (Named.overlay [] ((sources.map Source.name).zip vs)), closing,
        sources.map (access base)) := by
  have hrun := h.loadAll_append [] []
  have hlogged := (h.logged []).loadAll_append [] []
  rw [List.append_nil] at hrun hlogged
  rw [List.nil_append, h.spec.2.1] at hlogged
  exact ⟨hrun, hlogged⟩

theorem loadAll_of_fails {front : List Source} {failing : Source} {vs : List Value}
    {session closing final : Session} {f : Fault}
    (h : (surroundings server client files).LoadsInTurn base front session vs closing)
    (hfails : (surroundings server client files).load base failing closing = (.error f, final))
    (later : List Source) :
    loadAll server client files base (front ++ failing :: later) [] session = (.error f, final) ∧
    loadAllLogged server client files base (front ++ failing :: later) session =
      (.error f, final, front.map (access base) ++ accesses base failing) := by
  have hrun := h.loadAll_append (failing :: later) []
  have hlogged := (h.logged []).loadAll_append (failing :: later) []
  rw [Surroundings.loadAll_cons_of_error hfails] at hrun
  rw [List.nil_append, h.spec.2.1] at hlogged
  have hfails' := Surroundings.load_logged (surroundings server client files) base failing closing
    (front.map (access base))
  rw [hfails] at hfails'
  rw [Surroundings.loadAll_cons_of_error hfails'] at hlogged
  exact ⟨hrun, hlogged⟩

theorem fails_of_error {source : Source} {session final : Session} {f : Fault}
    (h : (surroundings server client files).load base source session = (.error f, final)) :
    Fails server client files base source session := by
  refine fails_iff.mpr fun v hv => ?_
  have hok := load_ok_iff.mpr hv
  rw [h] at hok
  cases hok

variable (server client files base)

/-- Sources are loaded in order, up to the first for which there is a reason that it cannot be. Those in
front of it are asked for once each, it itself only if its type is right, and none behind it; a request
is handed over for what is fetched only. If all are loaded and their names are distinct then each has
its document, and an identifier names an operation of the earliest that declares one. -/
theorem loadAll_in_order (sources : List Source) (session : Session) : ∃ front vs asked requests,
    loadAllLogged server client files base sources session =
      ((loadAll server client files base sources [] session).1,
        (loadAll server client files base sources [] session).2, asked) ∧
    (loadAll server client files base sources [] session).2.calls = session.calls ++ requests ∧
    List.Forall₂ (fun source v => ∃ session, Provides server client files base source session v)
      front vs ∧
    ((front = sources ∧ asked = front.map (access base) ∧
      (∃ documents, (loadAll server client files base sources [] session).1 = .ok documents) ∧
      urls asked = (front.filter fun source => isUrl source.url).map Source.url ∧
      List.Forall₂ AsksFor (urls asked) requests) ∨
    ∃ failing later closing f, sources = front ++ failing :: later ∧
      (surroundings server client files).LoadsInTurn base front session vs closing ∧
      Fails server client files base failing closing ∧
      (loadAll server client files base sources [] session).1 = .error f ∧
      asked = front.map (access base) ++ accesses base failing ∧
      urls asked = (front.filter fun source => isUrl source.url).map Source.url ++
        (if failing.type = .openapi ∧ isUrl failing.url then [failing.url] else []) ∧
      (List.Forall₂ AsksFor (urls (front.map (access base))) requests ∨
        List.Forall₂ AsksFor (urls asked) requests)) ∧
    ((sources.map Source.name).Nodup → ∀ documents,
      (loadAll server client files base sources [] session).1 = .ok documents →
      documents = (sources.map Source.name).zip vs ∧ vs.length = sources.length ∧
      ((∀ entry ∈ documents, Operation.HasPaths entry.2) → ∀ id site,
        (∃ operation, Operation.named documents id site = .ok operation ∧
          IsEarliest id sources vs operation) ∨
        Operation.named documents id site = .error (.failure (.unknownOperation id site)) ∧
          ∀ v ∈ vs, ¬ Declares id v)) := by
  obtain ⟨front, vs, closing, hfront, hrest⟩ :=
    (surroundings server client files).exists_loadsInTurn base sources session
  obtain ⟨hprovides, -, requests, hcalls, hasked⟩ := hfront.spec
  rcases hrest with rfl | ⟨failing, later, f, final, rfl, hfails⟩
  · obtain ⟨hrun, hlogged⟩ := loadAll_of_loaded hfront
    rw [hrun, hlogged]
    refine ⟨front, vs, front.map (access base), requests, rfl, hcalls, hprovides,
      .inl ⟨rfl, rfl, ⟨_, rfl⟩, urls_map_access base front, hasked⟩, fun hdistinct documents h => ?_⟩
    have hlength := hfront.length_eq
    obtain rfl : documents = (front.map Source.name).zip vs := by
      rw [← Except.ok.inj h]
      refine Named.overlay_eq_self ?_
      rwa [List.map_fst_zip (by simp [hlength])]
    exact ⟨rfl, hlength, fun hpaths => named_zip hlength hpaths⟩
  · obtain ⟨hrun, hlogged⟩ := loadAll_of_fails hfront hfails later
    obtain ⟨last, hlast, hkinds⟩ := load_calls server client files base failing closing
    rw [hfails] at hlast
    rw [hrun, hlogged]
    refine ⟨front, vs, front.map (access base) ++ accesses base failing, requests ++ last, rfl, ?_,
      hprovides, .inr ⟨failing, later, closing, f, rfl, hfront, fails_of_error hfails, rfl, rfl, ?_, ?_⟩,
      fun _ documents h => ?_⟩
    · rw [hlast, hcalls, List.append_assoc]
    · rw [urls_append, urls_map_access, urls_accesses]
    · refine hkinds.imp ?_ fun hkinds => ?_
      · rintro rfl
        rwa [List.append_nil]
      · rw [urls_append]
        exact List.rel_append hasked hkinds
    · cases h

end

namespace Twice

/-- An API document that declares one operation. -/
def text : List Char :=
  "\x7b\"paths\": \x7b\"/x\": \x7b\"get\": \x7b\"operationId\": \"ask\"\x7d\x7d\x7d\x7d".toList

def declared : Entries :=
  [(.text "paths", .map [(.text "/x", .map [(.text "get",
    .map [(.text "operationId", .text "ask")])])])]

def empty : Source := ⟨"none", "none.json", .openapi, []⟩

def far : Source := ⟨"far", "http://h/far.json", .openapi, []⟩

def near : Source := ⟨"near", "near.json", .openapi, []⟩

def server : Server := fun _ _ => .response ⟨200, [], Text.utf8 text⟩

def client : Client := ⟨[], true, true, .still default⟩

def files : Files := fun path =>
  if path.name = "none.json" then some [0x7b, 0x7d] else some (Text.utf8 text)

theorem read_text : Format.read (some .json) none text = .ok (.map declared) := by
  have hdata : (Value.map declared).IsData :=
    .entry (by decide) (.entry (by decide) (.entry (by decide) (.entry (by decide)
      (.text (by decide)))))
  have hwrite : (Json.write .spaced (.map declared)).toOption = some (String.ofList text) := by
    decide +kernel
  have hread := Json.read?_write hdata (ok_of_toOption hwrite)
  rw [String.toList_ofList] at hread
  rw [Format.read, hread]

theorem provides_empty : Provides server client files none empty .start (.map []) :=
  .intro rfl (.read rfl rfl) rfl rfl

theorem provides_far :
    Provides server client files none far .start (.map declared) := by
  have hfetch : (fetchText server client far.url .start).1.toOption = some (some .json, text) := by
    decide +kernel
  exact .intro rfl (.fetched rfl (ok_of_toOption hfetch)) read_text rfl

theorem provides_near (session : Session) :
    Provides server client files none near session (.map declared) := by
  have hfile : (files.text (pathOf none near)).toOption = some text := by decide +kernel
  exact .intro rfl (.read rfl (ok_of_toOption hfile)) read_text rfl

theorem loadAll_sources : (loadAll server client files none [empty, far, near] [] .start).1 =
    .ok [("none", .map []), ("far", .map declared), ("near", .map declared)] := by
  have hturn := ((((.nil _ : (surroundings server client files).LoadsInTurn none [] _ [] _).cons_of_ok
    (load_ok_iff.mpr (provides_near _))).cons_of_ok (load_ok_iff.mpr provides_far)).cons_of_ok
      (load_ok_iff.mpr provides_empty))
  rw [(loadAll_of_loaded hturn).1]
  rfl

end Twice

/-- The operation that two sources declare is that of the one that is declared first. -/
theorem loadAll_in_order_twice : ∃ documents operation,
    (loadAll Twice.server Twice.client Twice.files none [Twice.empty, Twice.far, Twice.near] []
      .start).1 = .ok documents ∧
    (∀ entry ∈ documents, Operation.HasPaths entry.2) ∧
    Operation.named documents "ask" default = .ok operation ∧ operation.source = "far" := by
  have hpaths : ∀ entry ∈ ([("none", .map []), ("far", .map Twice.declared),
      ("near", .map Twice.declared)] : ApiDocuments), Operation.HasPaths entry.2 := by
    simp only [List.forall_mem_cons, List.not_mem_nil, false_implies, implies_true, and_true]
    exact ⟨.absent rfl, .mapping rfl, .mapping rfl⟩
  obtain ⟨front, vs, asked, requests, -, -, -, -, hnames⟩ := loadAll_in_order Twice.server
    Twice.client Twice.files none [Twice.empty, Twice.far, Twice.near] .start
  obtain ⟨-, -, hnamed⟩ := hnames (by decide) _ Twice.loadAll_sources
  obtain ⟨operation, hok, -⟩ | ⟨herror, -⟩ := hnamed hpaths "ask" default
  · refine ⟨_, operation, Twice.loadAll_sources, hpaths, hok, ?_⟩
    obtain rfl := Except.ok.inj hok
    rfl
  · cases herror

end Sources
end Arazzo
