import Arazzo.Proofs.Http.Header
import Arazzo.Proofs.Workflow.FormData

/-!
# Header lines of two levels

Parameters of the step override those of the workflow by the name as it is spelled, but header names
are read without regard to case. So a header that is spelled in two ways comes in two lines, and only
one that all parameters spell alike is overridden. A request carries the lines that the parameters
merge to and none of the client's own with these names, and the type of a body takes the place of all
lines that declare one.
-/

namespace Arazzo

theorem Headers.checked_ok {headers lines : Headers} (h : checked headers = .ok lines) :
    lines = headers := by
  unfold checked at h
  split_ifs at h
  exact (Except.ok.inj h).symm

namespace Call

/-- The parameters that declare a header, those of the workflow first. -/
def declarations (call : Call) (name : String) : List Parameter :=
  (call.shared.inLocation .header ++ call.parameters.inLocation .header).filter fun p =>
    Headers.sameName p.name name

/-- The ways in which a header is spelled. -/
def spellings (call : Call) (name : String) : List String :=
  (call.names .header).filter fun spelling => Headers.sameName spelling name

/-- A request carries a header in one line, with the value of the last parameter of the step that
declares it. -/
def Overrides (call : Call) (scope : Scope) (name : String) (r : Request) : Prop :=
  ∃ p v text, ((call.parameters.inLocation .header).filter fun p =>
      Headers.sameName p.name name).getLast? = some p ∧
    scope.value p.value = .ok v ∧ v.wireText = .ok text ∧ r.headers.values name = [text]

variable {call : Call} {scope : Scope} {site : Site} {client : Client} {session : Session}
  {name : String} {r : Request} {merged : Headers}

theorem mem_spellings {spelling : String} :
    spelling ∈ call.spellings name ↔ ∃ p ∈ call.declarations name, p.name = spelling := by
  simp only [spellings, declarations, names, List.mem_filter, List.mem_eraseDups, List.mem_map]
  constructor
  · rintro ⟨⟨p, hp, rfl⟩, hname⟩
    exact ⟨p, ⟨hp, hname⟩, rfl⟩
  · rintro ⟨p, ⟨hp, hname⟩, rfl⟩
    exact ⟨⟨p, hp, rfl⟩, hname⟩

theorem nodup_spellings (call : Call) (name : String) : (call.spellings name).Nodup :=
  (nodup_eraseDups _).filter _

/-- A header has one spelling exactly if all declarations agree on it. -/
theorem spellings_eq_singleton_iff {p : Parameter} (hp : p ∈ call.declarations name) :
    call.spellings name = [p.name] ↔ ∀ q ∈ call.declarations name, q.name = p.name := by
  have hmem : p.name ∈ call.spellings name := mem_spellings.mpr ⟨p, hp, rfl⟩
  constructor
  · intro h q hq
    have hspelled : q.name ∈ call.spellings name := mem_spellings.mpr ⟨q, hq, rfl⟩
    rw [h] at hspelled
    exact List.mem_singleton.mp hspelled
  · intro h
    have hall : ∀ spelling ∈ call.spellings name, spelling = p.name := by
      intro spelling hspelling
      obtain ⟨q, hq, rfl⟩ := mem_spellings.mp hspelling
      exact h q hq
    have hreplicate := List.eq_replicate_of_mem hall
    have hnodup := nodup_spellings call name
    rw [hreplicate, List.nodup_replicate] at hnodup
    have hpos : 0 < (call.spellings name).length := List.length_pos_of_mem hmem
    have hone : (call.spellings name).length = 1 := by omega
    rw [hreplicate, hone]
    rfl

/-- The lines of a call are those of its header values, among which the type of its body is set. -/
theorem exists_texts_of_headers {values : Named Value} {lines : Headers}
    (h : headers values call.body = .ok lines) :
    ∃ texts, Value.wireTexts values = .ok texts ∧
      lines = call.body.elim texts fun body => Headers.set "Content-Type" body.contentType texts := by
  obtain ⟨texts, htexts, h⟩ := bind_eq_ok h
  refine ⟨texts, htexts, ?_⟩
  cases hchecked : Headers.checked texts with
  | error d => simp [hchecked] at h
  | ok checked =>
    obtain rfl := Headers.checked_ok hchecked
    simp only [hchecked, Except.ok.injEq] at h
    subst h
    cases call.body <;> rfl

/-- A request that is built is handed the lines of the merged header parameters, one for each name as
it is spelled, among which the type of its body is set. -/
theorem exists_merged (built : call.request scope site client session = .ok r) :
    ∃ (merged : Headers) (method : String) (url : Url) (body : List UInt8),
      call.MergesTo scope .header merged ∧
      client.request session method url (call.body.elim merged fun body =>
        Headers.set "Content-Type" body.contentType merged) body = .ok r := by
  rw [request_eq] at built
  obtain ⟨own, hown, built⟩ := bind_eq_ok built
  obtain ⟨given, hgiven, built⟩ := bind_eq_ok built
  obtain ⟨body, -, built⟩ := bind_eq_ok built
  obtain ⟨-, -, lines, url, -, -, hlines, -, hrequest⟩ := exists_parts_of_assemble built
  obtain ⟨merged, hmerged, rfl⟩ := exists_texts_of_headers hlines
  exact ⟨merged, _, url, body, mergesTo_of_wireTexts hown hgiven hmerged,
    hrequest⟩

theorem MergesTo.contains (hmerged : call.MergesTo scope .header merged)
    (hdeclared : call.declarations name ≠ []) : merged.contains name = true := by
  obtain ⟨p, hp⟩ := List.exists_mem_of_ne_nil _ hdeclared
  obtain ⟨hspelled, hname⟩ := List.mem_filter.mp (mem_spellings.mpr ⟨p, hp, rfl⟩)
  obtain ⟨line, hline, hspelling, -⟩ := exists_mem_of_forall₂ (List.Forall₂.flip hmerged) hspelled
  exact Headers.contains_iff.mpr ⟨line, hline, hspelling ▸ hname⟩

/-- The type of a body is set among lines of other names. -/
theorem lines_typed (merged : Headers)
    (hbody : call.body = none ∨ Headers.sameName "Content-Type" name = false) :
    Headers.lines (call.body.elim merged fun body =>
      Headers.set "Content-Type" body.contentType merged) name = merged.lines name := by
  cases hcase : call.body with
  | none => rfl
  | some body =>
    have hne : Headers.sameName "Content-Type" name = false := by simpa [hcase] using hbody
    exact Headers.lines_set body.contentType hne merged

/-- A request carries the lines of a declared header as they are merged. -/
theorem lines_of_merged {method : String} {url : Url} {body : List UInt8}
    (hrequest : client.request session method url (call.body.elim merged fun body =>
      Headers.set "Content-Type" body.contentType merged) body = .ok r)
    (hcontains : merged.contains name = true)
    (hbody : call.body = none ∨ Headers.sameName "Content-Type" name = false) :
    r.headers.lines name = merged.lines name := by
  have htyped := lines_typed merged hbody
  have hdeclared : Headers.contains (call.body.elim merged fun body =>
      Headers.set "Content-Type" body.contentType merged) name = true := by
    rwa [← Headers.lines_ne_nil_iff, htyped, Headers.lines_ne_nil_iff]
  rw [Client.lines_request hdeclared hrequest, htyped]

/-- A request that is built carries one line of a declared header for each of its spellings. -/
theorem forall₂_spellings (built : call.request scope site client session = .ok r)
    (hdeclared : call.declarations name ≠ [])
    (hbody : call.body = none ∨ Headers.sameName "Content-Type" name = false) :
    List.Forall₂ (call.HasText scope .header) (call.spellings name) (r.headers.values name) := by
  obtain ⟨merged, method, url, body, hmerged, hrequest⟩ := exists_merged built
  have hspelled : List.Forall₂ (call.HasText scope .header) (call.spellings name)
      ((merged.lines name).map Prod.snd) := by
    have hfilter := List.rel_filter
      (p := fun spelling : String => Headers.sameName spelling name)
      (q := fun line : String × String => Headers.sameName line.1 name)
      (fun spelling line h => by simp [h.1]) hmerged
    rw [List.forall₂_map_right_iff]
    exact hfilter.imp fun spelling line h => h.2
  rw [Headers.values_eq_map, lines_of_merged hrequest (hmerged.contains hdeclared) hbody]
  exact hspelled

/-- The line of a header that all parameters spell alike has the value of the step. -/
theorem overrides_of_spelled {p : Parameter} (hp : p ∈ call.parameters.inLocation .header)
    (hname : Headers.sameName p.name name = true)
    (halike : ∀ q ∈ call.declarations name, q.name = p.name)
    (hlines : List.Forall₂ (call.HasText scope .header) [p.name] (r.headers.values name)) :
    call.Overrides scope name r := by
  obtain ⟨text, rest, ⟨d, v, hdecisive, hvalue, hwire⟩, hrest, hvalues⟩ :=
    List.forall₂_cons_left_iff.mp hlines
  rw [List.forall₂_nil_left_iff.mp hrest] at hvalues
  have hsame : ∀ q ∈ call.parameters.inLocation .header,
      decide (q.name = p.name) = Headers.sameName q.name name := by
    intro q hq
    cases hother : Headers.sameName q.name name with
    | true =>
      have hdeclared : q ∈ call.declarations name :=
        List.mem_filter.mpr ⟨List.mem_append_right _ hq, hother⟩
      simp [halike q hdeclared]
    | false =>
      rw [decide_eq_false_iff_not]
      intro heq
      rw [heq, hname] at hother
      cases hother
  have hsome : (call.parameters.inLocation .header).filter (fun q => q.name = p.name) ≠ [] :=
    List.ne_nil_of_mem (List.mem_filter.mpr ⟨hp, by simp⟩)
  have hlast : Parameters.last? (call.parameters.inLocation .header) p.name = some d := by
    have hown := List.getLast?_eq_some_getLast hsome
    rw [decisive?, Parameters.last?, hown, Option.some_or] at hdecisive
    rw [Parameters.last?, hown, hdecisive]
  rw [Parameters.last?, List.filter_congr hsame] at hlast
  exact ⟨d, v, text, hlast, hvalue, hwire, hvalues⟩

/-- A built request carries one line of a header for each way in which it is spelled, with the text of
the parameter that decides about that spelling. So the step overrides its workflow in a header exactly
if the header is spelled in one way. The type of a body is left out: the body decides it. -/
theorem request_overrides {p : Parameter} (built : call.request scope site client session = .ok r)
    (hp : p ∈ call.parameters.inLocation .header)
    (hname : Headers.sameName p.name name = true)
    (hbody : call.body = none ∨ Headers.sameName "Content-Type" name = false) :
    List.Forall₂ (call.HasText scope .header) (call.spellings name) (r.headers.values name) ∧
    (call.Overrides scope name r ↔ ∀ q ∈ call.declarations name, q.name = p.name) := by
  have hdeclared : p ∈ call.declarations name :=
    List.mem_filter.mpr ⟨List.mem_append_right _ hp, hname⟩
  have hlines := forall₂_spellings built (List.ne_nil_of_mem hdeclared) hbody
  refine ⟨hlines, ?_, ?_⟩
  · rintro ⟨d, v, text, -, -, -, hvalues⟩
    have hlength := hlines.length_eq
    rw [hvalues, List.length_singleton, List.length_eq_one_iff] at hlength
    obtain ⟨spelling, hspelling⟩ := hlength
    have hmem : p.name ∈ call.spellings name := mem_spellings.mpr ⟨p, hdeclared, rfl⟩
    rw [hspelling, List.mem_singleton] at hmem
    rw [← hmem] at hspelling
    exact (spellings_eq_singleton_iff hdeclared).mp hspelling
  · intro halike
    rw [(spellings_eq_singleton_iff hdeclared).mpr halike] at hlines
    exact overrides_of_spelled hp hname halike hlines

end Call

namespace Search

/-- A step that traces itself; the workflow traces its steps under the given spelling. -/
def traced (spelling : String) : Call where
  operation := call.operation
  parameters := [.given (parameter .path "id" "7"), .given (parameter .header "x-trace" "step")]
  shared := [.given (parameter .header spelling "workflow")]
  body := some form

/-- The request of the step. -/
def tracedRequest (spelling : String) : Except Fault Request :=
  (traced spelling).request scope default ⟨Client.defaultHeaders, true, true, .still default⟩ .start

/-- A form without entries, of which the workflow and the step declare types and the length. -/
def typed : Call where
  operation := call.operation
  parameters := [.given (parameter .header "content-type" "text/csv"),
    .given (parameter .header "X-TRACE" "step")]
  shared := [.given (parameter .header "Content-type" "text/plain"),
    .given (parameter .header "content-length" "0"),
    .given (parameter .header "x-trace" "workflow")]
  body := some ⟨RequestBody.formType, .map [], none, []⟩

/-- The request of a client that declares both headers once more. -/
def typedRequest : Except Fault Request :=
  typed.request scope default
    ⟨Client.defaultHeaders ++ [("CONTENT-TYPE", "text/html"), ("X-Trace", "client")], true, true,
      .still default⟩ .start

end Search

namespace Call

/-- Spelled in two ways, the header is sent in two lines, and the step does not override it. -/
theorem not_overrides_respelled : ∃ r, Search.tracedRequest "X-Trace" = .ok r ∧
    Search.parameter .header "x-trace" "step" ∈
      (Search.traced "X-Trace").parameters.inLocation .header ∧
    Search.parameter .header "X-Trace" "workflow" ∈
      (Search.traced "X-Trace").shared.inLocation .header ∧
    Headers.sameName "x-trace" "X-Trace" = true ∧
    r.headers.values "X-Trace" = ["workflow", "step"] ∧
    ¬ (Search.traced "X-Trace").Overrides Search.scope "X-Trace" r := by
  have hlines : (Search.tracedRequest "X-Trace").toOption.map
      (fun r => r.headers.values "X-Trace") = some ["workflow", "step"] := by decide +kernel
  obtain ⟨r, hrequest, hvalues⟩ := exists_ok_of_toOption hlines
  refine ⟨r, hrequest, ?_, ?_, by decide +kernel, hvalues, ?_⟩
  · exact List.mem_singleton.mpr rfl
  · exact List.mem_singleton.mpr rfl
  · rintro ⟨p, v, text, -, -, -, hone⟩
    rw [hvalues] at hone
    cases hone

/-- Spelled alike, the header is overridden. -/
theorem request_overrides_traced : ∃ r, Search.tracedRequest "x-trace" = .ok r ∧
    (Search.traced "x-trace").Overrides Search.scope "X-Trace" r := by
  have hlines : (Search.tracedRequest "x-trace").toOption.map
      (fun r => r.headers.values "X-Trace") = some ["step"] := by decide +kernel
  obtain ⟨r, hrequest, -⟩ := exists_ok_of_toOption hlines
  have hp : Search.parameter .header "x-trace" "step" ∈
      (Search.traced "x-trace").parameters.inLocation .header := List.mem_singleton.mpr rfl
  have hname : Headers.sameName (Search.parameter .header "x-trace" "step").name "X-Trace" = true := by
    decide +kernel
  obtain ⟨-, hoverrides⟩ := request_overrides hrequest hp hname (.inr (by decide +kernel))
  refine ⟨r, hrequest, hoverrides.mpr ?_⟩
  intro q hq
  obtain ⟨hmem, -⟩ := List.mem_filter.mp hq
  rcases List.mem_append.mp hmem with hshared | hown
  · rw [List.mem_singleton.mp hshared]
    rfl
  · rw [List.mem_singleton.mp hown]

variable {call : Call} {scope : Scope} {site : Site} {client : Client} {session : Session}
  {r : Request}

/-- A request with a body carries its type in one line, whatever lines the parameters and the client
declare. Of every other header that a parameter declares, in any spelling, it carries the lines that
the parameters merge to and no others. -/
theorem request_lines (built : call.request scope site client session = .ok r) :
    ∃ merged, call.MergesTo scope .header merged ∧
      (∀ body, call.body = some body →
        r.headers.lines "Content-Type" = [("Content-Type", body.contentType)]) ∧
      ∀ name, call.declarations name ≠ [] →
        (call.body = none ∨ Headers.sameName "Content-Type" name = false) →
          r.headers.lines name = Headers.lines merged name := by
  obtain ⟨merged, method, url, bytes, hmerged, hrequest⟩ := exists_merged built
  refine ⟨merged, hmerged, ?_, ?_⟩
  · intro body hbody
    rw [hbody, Option.elim_some] at hrequest
    have htyped := Headers.lines_set_self "Content-Type" body.contentType merged
    have hcontains : (Headers.set "Content-Type" body.contentType merged).contains
        "Content-Type" = true := by
      rw [← Headers.lines_ne_nil_iff, htyped]
      exact List.cons_ne_nil _ _
    rw [Client.lines_request hcontains hrequest, htyped]
  · intro name hdeclared hbody
    exact lines_of_merged hrequest (hmerged.contains hdeclared) hbody

theorem request_lines_typed : ∃ r merged, Search.typedRequest = .ok r ∧
    Search.typed.MergesTo Search.scope .header merged ∧
    r.headers.lines "Content-Type" = [("Content-Type", RequestBody.formType)] ∧
    r.headers.lines "X-Trace" = Headers.lines merged "X-Trace" ∧
    r.headers.lines "X-Trace" = [("x-trace", "workflow"), ("X-TRACE", "step")] := by
  have hlines : Search.typedRequest.toOption.map (fun r => r.headers.lines "X-Trace") =
      some [("x-trace", "workflow"), ("X-TRACE", "step")] := by decide +kernel
  obtain ⟨r, hrequest, hvalues⟩ := exists_ok_of_toOption hlines
  obtain ⟨merged, hmerged, htype, hothers⟩ := request_lines hrequest
  have hdeclared : Search.typed.declarations "X-Trace" ≠ [] :=
    fun hnone => absurd (congrArg List.length hnone) (by decide +kernel)
  exact ⟨r, merged, hrequest, hmerged, htype _ rfl, hothers "X-Trace" hdeclared
    (.inr (by decide +kernel)), hvalues⟩

end Call
end Arazzo
