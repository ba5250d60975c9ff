import Arazzo.Proofs.Expression.Dotted
import Arazzo.Proofs.Http.Session
import Arazzo.Proofs.Json.Bytes
import Arazzo.Proofs.Workflow.Building

/-!
# JSON bodies of requests

The body of a request is the resolved payload: read as JSON its bytes are the value that resolving the
payload gives, and so is the reference to the body once the request is answered.
-/

namespace Arazzo

open Text

/-! ## Resolved payloads -/

theorem Literal.unquote?_subset {cs inner : List Char} (h : unquote? cs = some inner) :
    inner ⊆ cs := by
  cases cs with
  | nil => cases h
  | cons q rest =>
    rw [unquote?] at h
    split_ifs at h
    obtain rfl := Option.some.inj h
    exact fun c hc => List.mem_cons_of_mem q (List.dropLast_subset rest hc)

/-- What an operand denotes by itself is data. -/
theorem Literal.isData_of_value {s : String} {v : Value} (hs : isEncodable s.toList = true)
    (h : value s = .ok v) : v.IsData := by
  unfold value at h
  split at h
  · next inner hinner =>
    obtain rfl := Except.ok.inj h
    refine .text ?_
    rw [String.toList_ofList]
    exact isEncodable_of_subset (unquote?_subset hinner) hs
  · split_ifs at h
    · exact Except.ok.inj h ▸ .bool true
    · exact Except.ok.inj h ▸ .bool false
    · exact Except.ok.inj h ▸ .null
    · obtain ⟨n, hn, rfl⟩ := map_ok_iff.mp h
      unfold number? at hn
      split at hn
      · obtain rfl := Except.ok.inj hn
        exact .text hs
      · split_ifs at hn
        obtain rfl := Except.ok.inj hn
        exact .int _
      · obtain rfl := Except.ok.inj hn
        exact .float (Binary64.isRounded_ofDecimal _ _ _)

namespace Scope

variable {scope : Scope}

/-- The values that a payload refers to are data. -/
def RefersToData (scope : Scope) (payload : Value) : Prop :=
  ∀ s v, payload.Mentions s → s.toList.head? = some '$' → scope.operand s = .ok v → v.IsData

/-- A payload of data with references to data resolves to data. -/
theorem isData_of_resolve {payload resolved : Value} (hdata : payload.IsData)
    (hrefers : scope.RefersToData payload) (h : scope.resolve payload = .ok resolved) :
    resolved.IsData := by
  induction hdata generalizing resolved with
  | null => exact Except.ok.inj h ▸ .null
  | bool b => exact Except.ok.inj h ▸ .bool b
  | int i => exact Except.ok.inj h ▸ .int i
  | float hx => exact Except.ok.inj h ▸ .float hx
  | @text s hs =>
    by_cases hdollar : s.toList.head? = some '$'
    · exact hrefers s resolved .text hdollar h
    · change scope.operand s = .ok resolved at h
      rw [operand, denoted, if_neg hdollar] at h
      split at h
      · next v hv =>
        obtain rfl := Except.ok.inj h
        exact Literal.isData_of_value hs hv
      · cases h
  | list _ ih =>
    obtain ⟨items, hitems, rfl⟩ := map_ok_iff.mp h
    refine .list fun w hw => ?_
    obtain ⟨v, hv, hresolve⟩ := exists_mem_of_forall₂ (resolveItems_ok_iff.mp hitems) hw
    exact ih v hv (fun s u hs => hrefers s u (.item hv hs)) hresolve
  | @map entries hkeys hencodable _ ih =>
    obtain ⟨found, hfound, rfl⟩ := map_ok_iff.mp h
    have hall := resolveEntries_ok_iff.mp hfound
    refine .map ⟨?_, keys_eq_of_resolveEntries hfound ▸ hkeys.nodup⟩ ?_ ?_
    · intro entry hentry
      obtain ⟨given, hgiven, hkey, -⟩ := exists_mem_of_forall₂ hall hentry
      exact hkey ▸ hkeys.isText given hgiven
    · intro s v hentry
      obtain ⟨⟨k, u⟩, hgiven, hkey, -⟩ := exists_mem_of_forall₂ hall hentry
      obtain rfl : .text s = k := hkey
      exact hencodable s u hgiven
    · intro entry hentry
      obtain ⟨given, hgiven, -, hresolve⟩ := exists_mem_of_forall₂ hall hentry
      exact ih given hgiven (fun s u hs => hrefers s u (.entry hgiven hs)) hresolve

end Scope

/-! ## Bodies -/

namespace RequestBody

variable {scope : Scope} {site : Site} {body : RequestBody}

theorem jsonText_of_text {text : String} (h : body.text scope site = .ok text)
    (htype : body.contentType = jsonType) : jsonText scope body.payload = .ok text := by
  obtain ⟨-, hwritten⟩ := written_of_text h
  cases hwritten with
  | form htype' => exact absurd (htype'.symm.trans htype) formType_ne_jsonType
  | jsonMap _ _ htext => exact htext
  | jsonList _ _ htext => exact htext

/-- The text of a body reads as the resolved payload. -/
theorem exists_resolve_of_text {text : String} (hdata : body.payload.IsData)
    (hrefers : scope.RefersToData body.payload) (htype : body.contentType = jsonType)
    (h : body.text scope site = .ok text) :
    ∃ resolved, scope.resolve body.payload = .ok resolved ∧
      Json.readBytes? (utf8String text) = some resolved := by
  obtain ⟨resolved, hresolve, h⟩ := bind_eq_ok (jsonText_of_text h htype)
  refine ⟨resolved, hresolve, ?_⟩
  refine Json.readBytes?_write (Scope.isData_of_resolve hdata hrefers hresolve) ?_
  exact mapError_ok_iff.mp h

end RequestBody

/-! ## References to the body -/

/-- A body that reads as JSON is the value that it reads as. -/
theorem Request.document_eq {request : Request} {v : Value}
    (h : Json.readBytes? request.body = some v) : request.document = v := by
  have hne : request.body ≠ [] := by
    intro hnil
    rw [hnil] at h
    cases h
  rw [document, h, List.isEmpty_eq_false_iff.mpr hne]
  rfl

theorem Value.IsData.isSettled {v : Value} (h : v.IsData) : v.IsSettled := by
  induction h with
  | list _ ih => exact isSettled_list ih
  | map _ _ _ ih => exact isSettled_map fun k v hv => ih (k, v) hv
  | _ => exact fun _ => rfl

/-- Behind an exchange the reference to the body is the document of its request. -/
theorem Context.operand_requestBody {context context' : Context} {exchange : Exchange}
    (h : context.withExchange exchange = .ok context')
    (hsettled : exchange.request.document.IsSettled) (site : Site) :
    (context'.scope site).operand "$request.body" = .ok exchange.request.document := by
  have hlookup : (context'.scope site).document.lookup? ["request", "body"] =
      some exchange.request.document := by
    obtain ⟨snapshot, hsnapshot, rfl⟩ := map_ok_iff.mp h
    obtain ⟨document, -, hsnapshot⟩ := bind_eq_ok hsnapshot
    obtain rfl := Except.ok.inj hsnapshot
    simp [Context.scope, Context.document, Document.lookup?, Value.lookup?, Value.field?,
      Entries.get?, Entries.find?, Entries.ofTexts]
  have hbody : ∀ s ∈ ["body"], Path.isIdentifier s = true := by decide
  rw [Scope.operand_dotted _ (by decide : Path.isIdentifier "request" = true) hbody (by decide),
    hlookup]
  exact congrArg Except.ok (hsettled _)

/-! ## Requests -/

namespace Call

variable {call : Call} {scope : Scope} {site : Site} {body : RequestBody}

theorem exists_text_of_request {client : Client} {session : Session} {r : Request}
    (hbody : call.body = some body) (h : call.request scope site client session = .ok r) :
    ∃ text, body.text scope site = .ok text ∧ r.body = utf8String text := by
  rw [request_eq] at h
  obtain ⟨own, -, h⟩ := bind_eq_ok h
  obtain ⟨given, -, h⟩ := bind_eq_ok h
  obtain ⟨bytes, hbytes, h⟩ := bind_eq_ok h
  obtain ⟨-, -, -, -, -, rfl⟩ := exists_url_of_assemble h
  rw [Call.bytes, hbody] at hbytes
  obtain ⟨text, htext, hr⟩ := map_ok_iff.mp hbytes
  exact ⟨text, htext, hr.symm⟩

/-- The body that is written for a payload of data with references to data reads as the resolved
payload, and so does the body of the request. If the request is answered without a redirect, its body
can be asked for and the reference to the body is that same value. -/
theorem request_body_reads (hdata : body.payload.IsData)
    (hrefers : scope.RefersToData body.payload) (htype : body.contentType = RequestBody.jsonType) :
    (∀ text, body.text scope site = .ok text → ∃ resolved,
      scope.resolve body.payload = .ok resolved ∧
        Json.readBytes? (utf8String text) = some resolved) ∧
    ∀ (call : Call) (client : Client) (session : Session) (r : Request), call.body = some body →
      call.request scope site client session = .ok r → ∃ resolved,
        scope.resolve body.payload = .ok resolved ∧ Json.readBytes? r.body = some resolved ∧
        ∀ (server : Server) (opening closing : Session) (answered : Exchange),
          client.send server r opening = (.ok answered, closing) →
          closing.sent.length = opening.sent.length + 1 → answered.isRead = true ∧
          ∀ (context context' : Context) (place : Site),
            context.withExchange answered = .ok context' →
            (context'.scope place).operand "$request.body" = .ok resolved := by
  have htext : ∀ text, body.text scope site = .ok text → ∃ resolved,
      scope.resolve body.payload = .ok resolved ∧
        Json.readBytes? (utf8String text) = some resolved := fun text =>
    RequestBody.exists_resolve_of_text hdata hrefers htype
  refine ⟨htext, fun call client session r hbody hrequest => ?_⟩
  obtain ⟨text, hwritten, hr⟩ := exists_text_of_request hbody hrequest
  obtain ⟨resolved, hresolve, hread⟩ := htext text hwritten
  rw [← hr] at hread
  refine ⟨resolved, hresolve, hread, fun server opening closing answered hsend hsent => ?_⟩
  refine ⟨Client.isRead_of_send hsend hsent, fun context context' place hcontext => ?_⟩
  have hanswered : Json.readBytes? answered.request.body = some resolved := by
    rw [Client.body_of_send hsend hsent]
    exact hread
  have hdocument := Request.document_eq hanswered
  have hsettled : answered.request.document.IsSettled := by
    rw [hdocument]
    exact (Scope.isData_of_resolve hdata hrefers hresolve).isSettled
  rw [Context.operand_requestBody hcontext hsettled, hdocument]

end Call

namespace Posting

def user : Value := .map [(.text "id", .int 7)]

/-- Texts with marks and characters beyond ASCII, one that denotes a number, and a reference. -/
def payload : Value :=
  .map [(.text "\"\\", .list [.null, .text "\u0001😀\n", .text "1.5", .text "$inputs.user"]),
    (.text "", .map [])]

/-- What is written for the payload: the number stands without marks. -/
def text : String :=
  "\x7b\"\\\"\\\\\": [null, \"\\u0001\\ud83d\\ude00\\n\", 1.5, \x7b\"id\": 7\x7d], \"\": \x7b\x7d\x7d"

def body : RequestBody := ⟨RequestBody.jsonType, payload, none, []⟩

def call : Call where
  operation := ⟨"post", .text "/notes", [],
    [(.text "servers", .list [.map [(.text "url", .text "http://h")]])], ""⟩
  parameters := []
  shared := []
  body := some body

def context : Context := .start [(.text "user", user)]

def scope : Scope := context.scope default

def client : Client := ⟨Client.defaultHeaders, true, true, .still default⟩

def request : Except Fault Request := call.request scope default client .start

def server : Server := fun _ _ => .response ⟨200, [], []⟩

/-- The context behind the answer to a request. -/
def contextAfter (r : Request) : Option Context :=
  (client.send server r .start).1.toOption.bind fun answered =>
    (context.withExchange answered).toOption

theorem isData_user : user.IsData := by
  refine .map ⟨?_, by decide⟩ ?_ ?_
  · simp
  · simp only [List.mem_singleton, Prod.mk.injEq, Scalar.text.injEq]
    rintro s v ⟨rfl, -⟩
    decide
  · simp only [List.mem_singleton]
    rintro entry rfl
    exact .int 7

theorem isData_payload : payload.IsData := by
  refine .map ⟨?_, by decide⟩ ?_ ?_
  · simp
  · simp only [List.mem_cons, List.not_mem_nil, or_false, Prod.mk.injEq, Scalar.text.injEq]
    rintro s v (⟨rfl, -⟩ | ⟨rfl, -⟩) <;> decide
  · simp only [List.mem_cons, List.not_mem_nil, or_false]
    rintro entry (rfl | rfl)
    · refine .list fun v hv => ?_
      simp only [List.mem_cons, List.not_mem_nil, or_false] at hv
      rcases hv with rfl | rfl | rfl | rfl
      · exact .null
      all_goals exact .text (by decide)
    · exact .map ⟨by simp, by simp⟩ (by simp) (by simp)

theorem operand_user : scope.operand "$inputs.user" = .ok user :=
  context.operand_input default (by decide : ∀ s ∈ ["user"], Path.isIdentifier s = true) (by decide)

theorem refersToData_payload : scope.RefersToData payload := by
  intro s v hs hdollar hv
  cases hs with
  | entry hentry hs =>
    simp only [List.mem_cons, List.not_mem_nil, or_false, Prod.mk.injEq] at hentry
    rcases hentry with ⟨-, rfl⟩ | ⟨-, rfl⟩
    · cases hs with
      | item hitem hs =>
        simp only [List.mem_cons, List.not_mem_nil, or_false] at hitem
        rcases hitem with rfl | rfl | rfl | rfl
        · cases hs
        · cases hs
          exact absurd hdollar (by decide)
        · cases hs
          exact absurd hdollar (by decide)
        · cases hs
          obtain rfl := Except.ok.inj (operand_user.symm.trans hv)
          exact isData_user
    · cases hs with
      | entry hentry => cases hentry

end Posting

namespace Call

theorem request_body_reads_nested : ∃ r resolved answered closing context',
    Posting.request = .ok r ∧ Posting.scope.resolve Posting.payload = .ok resolved ∧
    r.body = utf8String Posting.text ∧ Json.readBytes? r.body = some resolved ∧
    Posting.client.send Posting.server r .start = (.ok answered, closing) ∧
    closing.sent.length = Session.start.sent.length + 1 ∧
    Posting.context.withExchange answered = .ok context' ∧
    (context'.scope default).operand "$request.body" = .ok resolved := by
  have hdone : (Posting.request.toOption.map fun r => (r.body,
      (Posting.client.send Posting.server r .start).2.sent.length,
        (Posting.contextAfter r).isSome)) = some (utf8String Posting.text, 1, true) := by
    decide +kernel
  cases hrequest : Posting.request with
  | error f => simp [hrequest, Except.toOption] at hdone
  | ok r =>
    rw [hrequest] at hdone
    obtain ⟨hbody, hrest⟩ := Prod.mk.inj (Option.some.inj hdone)
    obtain ⟨hsent, hcontext⟩ := Prod.mk.inj hrest
    obtain ⟨resolved, hresolve, hread, hreference⟩ :=
      (request_body_reads Posting.isData_payload Posting.refersToData_payload rfl).2
        Posting.call Posting.client .start r rfl hrequest
    rw [Posting.contextAfter] at hcontext
    cases hsend : Posting.client.send Posting.server r .start with
    | mk outcome closing =>
      rw [hsend] at hsent hcontext
      cases outcome with
      | error fault => cases hcontext
      | ok answered =>
        change (Posting.context.withExchange answered).toOption.isSome = true at hcontext
        cases hafter : Posting.context.withExchange answered with
        | error d => simp [hafter, Except.toOption] at hcontext
        | ok context' =>
          exact ⟨r, resolved, answered, closing, context', rfl, hresolve, hbody, hread, hsend,
            hsent, hafter, (hreference Posting.server .start closing answered hsend hsent).2
              Posting.context context' default hafter⟩

end Call
end Arazzo
