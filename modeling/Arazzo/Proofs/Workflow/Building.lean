import Arazzo.Proofs.Expression.Payload
import Arazzo.Proofs.Workflow.Attempt

/-!
# What building a request takes

A request that is built shows everything that went into it: the operation of the step, every
parameter of the step and of the workflow, overridden or not, a body of a supported kind, a server
and a URL. So whatever is wrong with one of them keeps the request from being sent.
-/

namespace Arazzo

/-! ## Parameters -/

namespace ParameterValues

variable {scope : Scope} {site : Site}

/-- A parameter that is given, in a supported location, and has a value. -/
inductive Usable (scope : Scope) : OrReference Parameter → Prop
  | given {p : Parameter} {v : Value} : isSupported p.location = true →
      scope.value p.value = .ok v → Usable scope (.given p)

theorem usable_of_add {values result : ParameterValues} {item : OrReference Parameter}
    (h : add scope site values item = .ok result) : Usable scope item := by
  cases item with
  | reference r => cases h
  | given p =>
    simp only [add] at h
    split_ifs at h with hsupported
    obtain ⟨v, hv, -⟩ := bind_eq_ok h
    exact .given hsupported hv

theorem usable_of_ofParameters {parameters : Parameters} {values : ParameterValues}
    (h : ofParameters scope site parameters = .ok values) :
    ∀ item ∈ parameters, Usable scope item := by
  unfold ofParameters at h
  generalize empty = past at h
  induction parameters generalizing past with
  | nil => simp
  | cons first rest ih =>
    rw [List.foldlM_cons] at h
    obtain ⟨next, hfirst, hrest⟩ := bind_eq_ok h
    exact List.forall_mem_cons.mpr ⟨usable_of_add hfirst, ih next hrest⟩

end ParameterValues

/-! ## Bodies -/

namespace RequestBody

variable {scope : Scope} {site : Site} {body : RequestBody} {text : String}

inductive IsUnsupported (body : RequestBody) : Prop
  | replacements : body.replacements.getD [] ≠ [] → IsUnsupported body
  | contentType : body.contentType ≠ formType → body.contentType ≠ jsonType → IsUnsupported body
  | form : body.contentType = formType → body.payload.map? = none → IsUnsupported body
  | json : body.contentType = jsonType → body.payload.map? = none →
      (∀ items, body.payload ≠ .list items) → IsUnsupported body

/-- The texts of a body that are resolved: in a form the values, in JSON every text. -/
inductive Evaluates (body : RequestBody) (s : String) : Prop
  | form {entries : Entries} {k : Scalar} : body.contentType = formType →
      body.payload = .map entries → (k, .text s) ∈ entries → Evaluates body s
  | json : body.contentType = jsonType → body.payload.Mentions s → Evaluates body s

theorem exists_formValues_ok {entries : Entries} :
    (∃ values, formValues scope entries = .ok values) ↔
      ∀ entry ∈ entries, ∃ w, scope.value entry.2 = .ok w := by
  refine exists_traverse_ok ?_ (fun entry rest => ?_) entries
  · exact ⟨[], rfl⟩
  · rw [formValues]
    simp [exists_bind_ok]

/-- The bodies that have a text. -/
inductive Written (scope : Scope) (body : RequestBody) (text : String) : Prop
  | form {entries : Entries} : body.contentType = formType → body.payload = .map entries →
      formText scope entries = .ok text → Written scope body text
  | jsonMap {entries : Entries} : body.contentType = jsonType → body.payload = .map entries →
      jsonText scope body.payload = .ok text → Written scope body text
  | jsonList {items : List Value} : body.contentType = jsonType → body.payload = .list items →
      jsonText scope body.payload = .ok text → Written scope body text

theorem written_of_text (h : body.text scope site = .ok text) :
    body.replacements.getD [] = [] ∧ Written scope body text := by
  simp only [RequestBody.text, ne_eq, List.length_eq_zero_iff] at h
  split_ifs at h with hreplacements hxml hform hjson
  · cases hpayload : body.payload with
    | map entries =>
      rw [hpayload] at h
      exact ⟨hreplacements, .form hform hpayload h⟩
    | scalar s => cases s <;> simp [hpayload] at h
    | _ => simp [hpayload] at h
  · cases hpayload : body.payload with
    | map entries =>
      rw [hpayload] at h
      exact ⟨hreplacements, .jsonMap hjson hpayload (hpayload ▸ h)⟩
    | list items =>
      rw [hpayload] at h
      exact ⟨hreplacements, .jsonList hjson hpayload (hpayload ▸ h)⟩
    | scalar s => cases s <;> simp [hpayload] at h
    | _ => simp [hpayload] at h

theorem formType_ne_jsonType : formType ≠ jsonType := by decide

theorem Written.not_isUnsupported (h : Written scope body text)
    (hreplacements : body.replacements.getD [] = []) : ¬ body.IsUnsupported := by
  have hne := formType_ne_jsonType
  rintro (hsome | ⟨hform, hjson⟩ | ⟨htype, hmap⟩ | ⟨htype, hmap, hlist⟩)
  · exact hsome hreplacements
  · cases h with
    | form htype => exact hform htype
    | jsonMap htype => exact hjson htype
    | jsonList htype => exact hjson htype
  · cases h with
    | form _ hpayload => simp [hpayload, Value.map?] at hmap
    | jsonMap htype' => exact hne (htype.symm.trans htype')
    | jsonList htype' => exact hne (htype.symm.trans htype')
  · cases h with
    | form htype' => exact hne (htype'.symm.trans htype)
    | jsonMap _ hpayload => simp [hpayload, Value.map?] at hmap
    | jsonList _ hpayload => exact hlist _ hpayload

theorem Written.exists_operand_ok (h : Written scope body text) {s : String}
    (hs : body.Evaluates s) : ∃ u, scope.operand s = .ok u := by
  have hne := formType_ne_jsonType
  have hjson : jsonText scope body.payload = .ok text → body.payload.Mentions s →
      ∃ u, scope.operand s = .ok u := by
    intro htext hmentions
    obtain ⟨resolved, hresolved, -⟩ := bind_eq_ok htext
    exact Scope.exists_operand_ok_of_resolve hmentions hresolved
  rcases hs with ⟨htype, hpayload, hmem⟩ | ⟨htype, hmentions⟩
  · cases h with
    | form _ hpayload' htext =>
      obtain ⟨values, hvalues, -⟩ := bind_eq_ok htext
      obtain rfl := Value.map.inj (hpayload.symm.trans hpayload')
      exact exists_formValues_ok.mp ⟨values, hvalues⟩ _ hmem
    | jsonMap htype' => exact absurd (htype.symm.trans htype') hne
    | jsonList htype' => exact absurd (htype.symm.trans htype') hne
  · cases h with
    | form htype' => exact absurd (htype'.symm.trans htype) hne
    | jsonMap _ _ htext => exact hjson htext hmentions
    | jsonList _ _ htext => exact hjson htext hmentions

end RequestBody

/-! ## Requests -/

namespace Call

/-- The bytes of the body of a call. -/
def bytes (call : Call) (scope : Scope) (site : Site) : Except Fault (List UInt8) :=
  match call.body with
  | some body => (body.text scope site).map Text.utf8String
  | none => .ok []

/-- The request of a call whose parameters and body have their values. -/
def assemble (call : Call) (site : Site) (client : Client) (session : Session)
    (values : ParameterValues) (body : List UInt8) : Except Fault Request := do
  let server ← call.operation.serverUrl site
  let urlText ← urlText call.operation values server
  let headers ← headers values.header call.body
  match (Url.read urlText.toList).bind Url.forRequest with
  | .ok url =>
    let method := String.ofList (Text.upper call.operation.method.toList)
    match client.request session method url headers body with
    | .ok request => .ok request
    | .error fault => .error (.defect (.unreadableHost fault))
  | .error .unencodable => .error (.defect .unencodableText)
  | .error fault => .error (.failure (.execution (.invalidUrl urlText fault.message) site))

theorem request_eq (call : Call) (scope : Scope) (site : Site) (client : Client)
    (session : Session) :
    call.request scope site client session = (do
      let own ← ParameterValues.ofParameters scope site call.parameters
      let shared ← ParameterValues.ofParameters scope site call.shared
      let body ← call.bytes scope site
      call.assemble site client session (ParameterValues.merge shared own) body) := by
  obtain ⟨operation, parameters, shared, body⟩ := call
  cases body <;> rfl

theorem complete_ok {method : String} {url : Url} {headers : Headers} {body : List UInt8}
    {r : Request} (h : Request.complete method url headers body = .ok r) :
    r.url = url ∧ r.body = body := by
  obtain ⟨host, -, h⟩ := bind_eq_ok h
  obtain rfl := Except.ok.inj h
  exact ⟨rfl, rfl⟩

/-- A request is assembled from a URL and header lines, and handed to the client to be completed. -/
theorem exists_parts_of_assemble {call : Call} {site : Site} {client : Client} {session : Session}
    {values : ParameterValues} {body : List UInt8} {r : Request}
    (h : call.assemble site client session values body = .ok r) :
    ∃ server s lines url, call.operation.serverUrl site = .ok server ∧
      urlText call.operation values server = .ok s ∧
      headers values.header call.body = .ok lines ∧
      (Url.read s.toList).bind Url.forRequest = .ok url ∧
      client.request session (String.ofList (Text.upper call.operation.method.toList)) url lines
        body = .ok r := by
  obtain ⟨server, hserver, h⟩ := bind_eq_ok h
  obtain ⟨s, htext, h⟩ := bind_eq_ok h
  obtain ⟨lines, hlines, h⟩ := bind_eq_ok h
  cases hurl : (Url.read s.toList).bind Url.forRequest with
  | error fault => cases fault <;> simp [hurl] at h
  | ok url =>
    simp only [hurl] at h
    split at h
    · rename_i request hrequest
      cases h
      exact ⟨server, s, lines, url, hserver, htext, hlines, hurl, hrequest⟩
    · cases h

/-- A request that is assembled has the URL that its text denotes, and its body. -/
theorem exists_url_of_assemble {call : Call} {site : Site} {client : Client} {session : Session}
    {values : ParameterValues} {body : List UInt8} {r : Request}
    (h : call.assemble site client session values body = .ok r) :
    ∃ server s, call.operation.serverUrl site = .ok server ∧
      urlText call.operation values server = .ok s ∧
      (Url.read s.toList).bind Url.forRequest = .ok r.url ∧ r.body = body := by
  obtain ⟨server, s, lines, url, hserver, htext, -, hurl, hrequest⟩ := exists_parts_of_assemble h
  obtain ⟨rfl, hbody⟩ := complete_ok hrequest
  exact ⟨server, s, hserver, htext, hurl, hbody⟩

end Call

namespace Attempt

variable (around : Surroundings) (step : Step) (shared : Parameters) (context : Context)

/-- All that goes into the request of a step. -/
structure Preparation where
  id : String
  operation : Operation
  own : ParameterValues
  given : ParameterValues
  server : String
  text : String
  url : Url
  named : named? step.operationId = some id
  unnamed : named? step.operationPath = none ∧ named? step.workflowId = none
  declared : Operation.find? id around.documents = .ok (some operation)
  own_eq : ParameterValues.ofParameters (context.scope (siteOf around step)) (siteOf around step)
    (step.parameters.getD []) = .ok own
  given_eq : ParameterValues.ofParameters (context.scope (siteOf around step)) (siteOf around step)
    shared = .ok given
  body_eq : ∀ body, step.requestBody = some body →
    ∃ text, body.text (context.scope (siteOf around step)) (siteOf around step) = .ok text
  server_eq : operation.serverUrl (siteOf around step) = .ok server
  text_eq : Call.urlText operation (ParameterValues.merge given own) server = .ok text
  url_eq : (Url.read text.toList).bind Url.forRequest = .ok url

/-- What keeps the request of a step from being built. -/
inductive Unready : Prop
  | noOperationId : named? step.operationId = none → Unready
  | operationPath : named? step.operationPath ≠ none → Unready
  | workflowId : named? step.workflowId ≠ none → Unready
  | unknownOperation {id : String} : step.operationId = some id →
      (∀ operation, Operation.find? id around.documents ≠ .ok (some operation)) → Unready
  | reference {r : Reusable} : .reference r ∈ step.parameters.getD [] ++ shared → Unready
  | location {p : Parameter} : .given p ∈ step.parameters.getD [] ++ shared →
      p.location = .cookie ∨ p.location = .body → Unready
  | parameter {p : Parameter} {f : Fault} : .given p ∈ step.parameters.getD [] ++ shared →
      (context.scope (siteOf around step)).value p.value = .error f → Unready
  | body {body : RequestBody} : step.requestBody = some body → body.IsUnsupported → Unready
  | bodyExpression {body : RequestBody} {s : String} {f : Fault} :
      step.requestBody = some body → body.Evaluates s →
      (context.scope (siteOf around step)).operand s = .error f → Unready
  | server {id : String} {operation : Operation} {f : Fault} : step.operationId = some id →
      Operation.find? id around.documents = .ok (some operation) →
      operation.serverUrl (siteOf around step) = .error f → Unready
  | url {id server text : String} {operation : Operation} {own given : ParameterValues}
      {fault : UrlFault} :
      step.operationId = some id → Operation.find? id around.documents = .ok (some operation) →
      ParameterValues.ofParameters (context.scope (siteOf around step)) (siteOf around step)
        (step.parameters.getD []) = .ok own →
      ParameterValues.ofParameters (context.scope (siteOf around step)) (siteOf around step)
        shared = .ok given →
      operation.serverUrl (siteOf around step) = .ok server →
      Call.urlText operation (ParameterValues.merge given own) server = .ok text →
      (Url.read text.toList).bind Url.forRequest = .error fault → Unready

variable {around step shared context} {session : Session}

theorem find?_of_named {documents : ApiDocuments} {id : String} {site : Site}
    {operation : Operation} (h : Operation.named documents id site = .ok operation) :
    Operation.find? id documents = .ok (some operation) := by
  unfold Operation.named at h
  cases hfind : Operation.find? id documents with
  | error d => simp [hfind] at h
  | ok found =>
    cases found with
    | none => simp [hfind] at h
    | some other =>
      rw [hfind, Except.ok.injEq] at h
      rw [h]

/-- The call of a step is that of the operation it names, and of nothing else. -/
theorem exists_operation_of_callOf {call : Call} (h : callOf around step shared = .ok call) :
    ∃ id operation, named? step.operationId = some id ∧
      (named? step.operationPath = none ∧ named? step.workflowId = none) ∧
      Operation.find? id around.documents = .ok (some operation) ∧
      call = ⟨operation, step.parameters.getD [], shared, step.requestBody⟩ := by
  unfold callOf at h
  cases hid : named? step.operationId with
  | none => simp [hid] at h
  | some id =>
    simp only [hid] at h
    split_ifs at h with hother
    simp only [Bool.not_eq_true, Option.isSome_eq_false_iff, Option.isNone_iff_eq_none,
      not_or] at hother
    cases hnamed : Operation.named around.documents id (siteOf around step) with
    | error f => simp [hnamed, Except.map] at h
    | ok operation =>
      simp only [hnamed, Except.map, Except.ok.injEq] at h
      exact ⟨id, operation, rfl, hother, find?_of_named hnamed, h.symm⟩

theorem exists_preparation {r : Request}
    (h : request around step shared context session = .ok r) :
    Nonempty (Preparation around step shared context) := by
  obtain ⟨call, hcall, h⟩ := bind_eq_ok h
  obtain ⟨id, operation, hid, hother, hfind, rfl⟩ := exists_operation_of_callOf hcall
  rw [Call.request_eq] at h
  obtain ⟨own, hown, h⟩ := bind_eq_ok h
  obtain ⟨given, hgiven, h⟩ := bind_eq_ok h
  obtain ⟨bytes, hbytes, h⟩ := bind_eq_ok h
  obtain ⟨server, hserver, h⟩ := bind_eq_ok h
  obtain ⟨text, htext, h⟩ := bind_eq_ok h
  obtain ⟨lines, -, h⟩ := bind_eq_ok h
  have hbody : ∀ body, step.requestBody = some body →
      ∃ text, body.text (context.scope (siteOf around step)) (siteOf around step) = .ok text := by
    intro body hbody
    simp only [Call.bytes, hbody] at hbytes
    exact exists_map_ok.mp ⟨bytes, hbytes⟩
  cases hurl : (Url.read text.toList).bind Url.forRequest with
  | error fault => cases fault <;> simp [hurl] at h
  | ok url =>
    exact ⟨⟨id, operation, own, given, server, text, url, hid, hother, hfind, hown, hgiven, hbody,
      hserver, htext, hurl⟩⟩

namespace Preparation

variable (p : Preparation around step shared context)

include p

theorem usable {item : OrReference Parameter}
    (hitem : item ∈ step.parameters.getD [] ++ shared) :
    ParameterValues.Usable (context.scope (siteOf around step)) item := by
  rcases List.mem_append.mp hitem with hmem | hmem
  · exact ParameterValues.usable_of_ofParameters p.own_eq item hmem
  · exact ParameterValues.usable_of_ofParameters p.given_eq item hmem

theorem eq_of_find? {id : String} {operation : Operation} (hid : step.operationId = some id)
    (hfind : Operation.find? id around.documents = .ok (some operation)) :
    operation = p.operation := by
  have hsame : id = p.id := Option.some.inj (hid.symm.trans (named?_eq_some_iff.mp p.named).1)
  have hdeclared := p.declared
  rw [← hsame, hfind] at hdeclared
  exact Option.some.inj (Except.ok.inj hdeclared)

theorem not_unready : ¬ Unready around step shared context := by
  intro h
  cases h with
  | noOperationId h => simp [p.named] at h
  | operationPath h => exact h p.unnamed.1
  | workflowId h => exact h p.unnamed.2
  | unknownOperation hid h =>
    obtain rfl := Option.some.inj (hid.symm.trans (named?_eq_some_iff.mp p.named).1)
    exact h p.operation p.declared
  | reference hitem => cases p.usable hitem
  | location hitem hlocation =>
    cases p.usable hitem with
    | given hsupported =>
      rcases hlocation with hat | hat <;> simp [hat, ParameterValues.isSupported] at hsupported
  | parameter hitem hvalue =>
    cases p.usable hitem with
    | given _ hvalue' => simp [hvalue] at hvalue'
  | body hbody hunsupported =>
    obtain ⟨text, htext⟩ := p.body_eq _ hbody
    obtain ⟨hreplacements, hwritten⟩ := RequestBody.written_of_text htext
    exact hwritten.not_isUnsupported hreplacements hunsupported
  | bodyExpression hbody hevaluates hoperand =>
    obtain ⟨text, htext⟩ := p.body_eq _ hbody
    obtain ⟨-, hwritten⟩ := RequestBody.written_of_text htext
    obtain ⟨u, hu⟩ := hwritten.exists_operand_ok hevaluates
    simp [hoperand] at hu
  | server hid hfind hserver =>
    have hserver' := p.server_eq
    rw [← p.eq_of_find? hid hfind, hserver] at hserver'
    cases hserver'
  | url hid hfind hown hgiven hserver htext hurl =>
    obtain rfl := p.eq_of_find? hid hfind
    obtain rfl := Except.ok.inj (hown.symm.trans p.own_eq)
    obtain rfl := Except.ok.inj (hgiven.symm.trans p.given_eq)
    obtain rfl := Except.ok.inj (hserver.symm.trans p.server_eq)
    obtain rfl := Except.ok.inj (htext.symm.trans p.text_eq)
    have hurl' := p.url_eq
    rw [hurl] at hurl'
    cases hurl'

end Preparation

/-- A step whose request cannot be built raises an error and changes nothing. -/
theorem Unready.exists_execute_eq (h : Unready around step shared context) (session : Session) :
    ∃ f, execute around step shared context session = (.error f, session) := by
  cases hrequest : request around step shared context session with
  | error f => exact ⟨f, by rw [execute, hrequest]⟩
  | ok r =>
    obtain ⟨p⟩ := exists_preparation hrequest
    exact absurd h p.not_unready

end Attempt
end Arazzo
