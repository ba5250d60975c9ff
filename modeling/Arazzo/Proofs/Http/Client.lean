import Arazzo.Http.Client
import Arazzo.Proofs.Except
import Mathlib.Tactic.SplitIfs

/-!
# What a client does

A client hands over one request at a time and follows redirects inside one call. It ends in a defect
only over a URL: one that has no scheme, a host that cannot be read, or a redirect that leads to no URL.
Remembering an exchange ends in a defect only over the charset that the content type of its response
names, or over the body of a request that took over another and that the transport left unread.
-/

namespace Arazzo

/-- The defects that sending a request can end in. -/
inductive Defect.IsOfSending : Defect → Prop
  | urlWithoutScheme : IsOfSending .urlWithoutScheme
  | unreadableHost (fault : NameFault) : IsOfSending (.unreadableHost fault)
  | invalidUrl : IsOfSending .invalidUrl

/-- The defects that reading the bodies of an exchange can end in. -/
inductive Defect.IsOfReading : Defect → Prop
  | literalTooLong {digits : Nat} : Numeral.digitLimit < digits →
      IsOfReading (.literalTooLong digits)
  | wrongKind : IsOfReading .wrongKind
  | unreadableText (fault : Text.CharsetFault) : IsOfReading (.unreadableText fault)
  | unreadRequest : IsOfReading .unreadRequest

/-- A transport that gives up, or a defect of a kind. -/
def ClientFault.DefectIn (K : Defect → Prop) : ClientFault → Prop
  | .failed _ => True
  | .defect d => K d

open Defect (IsOfSending IsOfReading)

namespace Client

section
variable (server : Server) (client : Client)

theorem calls_of_exchange {request : Request} {session closing : Session}
    {outcome : Except ClientFault Response}
    (h : exchange server client request session = (outcome, closing)) :
    closing.calls = session.calls := by
  rw [← show (exchange server client request session).2 = closing from congrArg Prod.snd h]
  unfold exchange
  dsimp only
  split
  · rfl
  · split
    · rfl
    · rfl
    · split
      · rfl
      · split <;> rfl

/-- One exchange, and all that can follow it. -/
theorem follow_eq (remaining : Nat) (isRead : Bool) (request : Request) (session : Session) :
    follow server client remaining isRead request session =
      match exchange server client request session with
      | (.error fault, session) => (.error fault, session)
      | (.ok response, session) => match location? response with
        | none => (.ok ⟨request, isRead || client.readsRequests, response⟩, session)
        | some location =>
          match redirectRequest client session request response.status location with
          | .error fault => (.error fault, session)
          | .ok next =>
            if client.followsRedirects then match remaining with
              | 0 => (.error (.failed "Exceeded maximum allowed redirects."), session)
              | remaining + 1 =>
                follow server client remaining (dropsBody request next.method) next session
            else (.ok ⟨request, isRead || client.readsRequests, response⟩, session) := by
  -- The equation holds by computation, which the stuck match on the exchange keeps from starting.
  delta follow
  cases remaining <;> rfl

/-- Either the first exchange is all that happens, or a redirect is followed behind it. -/
theorem follow_cases (remaining : Nat) (isRead : Bool) (request : Request) (session : Session) :
    (∃ outcome, follow server client remaining isRead request session =
        (outcome, (exchange server client request session).2) ∧
      ∀ answered, outcome = .ok answered →
        answered.request = request ∧ (isRead = true → answered.isRead = true)) ∨
    ∃ n next, remaining = n + 1 ∧ follow server client remaining isRead request session =
      follow server client n (dropsBody request next.method) next
        (exchange server client request session).2 := by
  rw [follow_eq]
  cases exchange server client request session with
  | mk outcome closing =>
    cases outcome with
    | error fault => exact .inl ⟨.error fault, rfl, by simp⟩
    | ok response =>
      have hkept : ∀ answered : Exchange,
          (.ok ⟨request, isRead || client.readsRequests, response⟩ : Except ClientFault Exchange) =
            .ok answered →
          answered.request = request ∧ (isRead = true → answered.isRead = true) := by
        rintro answered ⟨⟩
        exact ⟨rfl, fun hread => by simp [hread]⟩
      dsimp only
      cases location? response with
      | none => exact .inl ⟨_, rfl, hkept⟩
      | some location =>
        dsimp only
        cases redirectRequest client closing request response.status location with
        | error fault => exact .inl ⟨.error fault, rfl, by simp⟩
        | ok next =>
          dsimp only
          split_ifs
          · cases remaining with
            | zero => exact .inl ⟨_, rfl, by simp⟩
            | succ remaining => exact .inr ⟨remaining, next, rfl, rfl⟩
          · exact .inl ⟨_, rfl, hkept⟩

theorem follow_calls (remaining : Nat) (isRead : Bool) (request : Request) (session : Session) :
    (follow server client remaining isRead request session).2.calls = session.calls := by
  have hcalls : (exchange server client request session).2.calls = session.calls :=
    calls_of_exchange server client rfl
  rcases follow_cases server client remaining isRead request session with
    ⟨outcome, hfollow, -⟩ | ⟨n, next, rfl, hfollow⟩
  · rw [hfollow, hcalls]
  · rw [hfollow, follow_calls n _ next, hcalls]

/-- Redirects are followed inside one call. -/
theorem send_calls (request : Request) (session : Session) :
    (send server client request session).2.calls = session.calls ++ [request] :=
  follow_calls server client redirectLimit true (authorise request) _

end

/-! ## Defects -/

variable {server : Server} (client : Client)

theorem checkHost_errors (url : Url) :
    ErrorsIn (ClientFault.DefectIn IsOfSending) (checkHost url) := by
  unfold checkHost
  split
  · exact .ok _
  · exact .error (.unreadableHost _)

theorem guarded_errors {α : Type} {c : Prop} [Decidable c] (url : Url) {rest : Except ClientFault α}
    (hrest : ErrorsIn (ClientFault.DefectIn IsOfSending) rest) :
    ErrorsIn (ClientFault.DefectIn IsOfSending)
      (if c then checkHost url >>= fun _ => rest else rest) := by
  split_ifs
  · exact (checkHost_errors url).bind fun _ => hrest
  · exact hrest

theorem redirectTarget_errors (source : Url) (location : String) :
    ErrorsIn (ClientFault.DefectIn IsOfSending) (redirectTarget source location) := by
  unfold redirectTarget
  split
  · exact .error trivial
  · next located hread =>
    have hchecked : ∀ target : Url, ErrorsIn (ClientFault.DefectIn IsOfSending)
        (if target.scheme = source.scheme then checkHost target >>= fun _ => (do
          checkHost source
          checkHost target
          .ok target)
        else do
          checkHost source
          checkHost target
          .ok target) := fun target =>
      guarded_errors target ((checkHost_errors source).bind fun _ =>
        (checkHost_errors target).bind fun _ => .ok target)
    refine guarded_errors located ?_
    split
    · exact hchecked _
    · exact .error (.unreadableHost _)
    · exact .error .invalidUrl

theorem redirectRequest_errors (session : Session) (request : Request) (status : Int)
    (location : String) :
    ErrorsIn (ClientFault.DefectIn IsOfSending)
      (client.redirectRequest session request status location) := by
  unfold redirectRequest
  refine (redirectTarget_errors request.url location).bind fun url => ?_
  dsimp only
  split_ifs
  · split
    · exact .ok _
    · exact .error (.unreadableHost _)
  · exact .ok _

/-- A server that does not break down over its own responses. -/
def IsSound (server : Server) : Prop := ∀ n r d, server n r ≠ .broken d

theorem exchange_errors (hserver : IsSound server) (request : Request) (session : Session) :
    ErrorsIn (ClientFault.DefectIn IsOfSending)
      (exchange server client request session).1 := by
  unfold exchange
  dsimp only
  split_ifs with hscheme
  · exact .error .urlWithoutScheme
  all_goals
    split
    · exact .error trivial
    · next d hreply => exact absurd hreply (hserver _ _ d)
    · split
      · exact .error trivial
      · first | exact .error .urlWithoutScheme | exact .ok _

theorem follow_errors (hserver : IsSound server) (remaining : Nat) (isRead : Bool)
    (request : Request) (session : Session) :
    ErrorsIn (ClientFault.DefectIn IsOfSending)
      (follow server client remaining isRead request session).1 := by
  have hexchange := exchange_errors client hserver request session
  rw [follow_eq]
  cases houtcome : exchange server client request session with
  | mk outcome closing =>
    rw [houtcome] at hexchange
    cases outcome with
    | error fault => exact .error (hexchange fault rfl)
    | ok response =>
      dsimp only
      cases location? response with
      | none => exact .ok _
      | some location =>
        dsimp only
        have hredirect :=
          redirectRequest_errors client closing request response.status location
        cases hnext : redirectRequest client closing request response.status location with
        | error fault => exact .error (hredirect fault hnext)
        | ok next =>
          dsimp only
          split_ifs
          · cases remaining with
            | zero => exact .error trivial
            | succ remaining => exact follow_errors hserver remaining _ next closing
          · exact .ok _

theorem send_errors (hserver : IsSound server) (request : Request) (session : Session) :
    ErrorsIn (ClientFault.DefectIn IsOfSending) (send server client request session).1 :=
  follow_errors client hserver redirectLimit true (authorise request) _

end Client

/-! ## Reading a response -/

namespace ContentType

theorem part?_errors {entry : List Char × List Char} {part : Except Defect (List Char × Part)}
    (h : part? entry = some part) : ErrorsIn IsOfReading part := by
  unfold part? at h
  obtain ⟨⟨whole, number, isEscaped⟩, -, rfl⟩ := Option.map_eq_some_iff.mp h
  dsimp only
  split_ifs with hlong
  · exact .error (.literalTooLong hlong)
  · exact .ok _
  · exact .ok _

theorem ofParts_errors (parts : List Part) : ErrorsIn IsOfReading (Value.ofParts parts) := by
  unfold Value.ofParts
  dsimp only
  split_ifs
  · exact .error .wrongKind
  · split <;> exact .ok _
  · exact .ok _

theorem parameters_errors (contentType : List Char) :
    ErrorsIn IsOfReading (parameters contentType) := by
  unfold parameters
  refine (ErrorsIn.mapM fun part hpart => ?_).bind fun parts =>
    (ErrorsIn.mapM fun name _ => (ofParts_errors _).bind fun value => .ok _).bind fun joined => .ok _
  obtain ⟨entry, -, hentry⟩ := List.mem_filterMap.mp hpart
  exact part?_errors hentry

theorem named_errors (name : List Char) : ErrorsIn IsOfReading (named name) := by
  unfold named
  split_ifs
  · exact .error (.unreadableText _)
  · exact .ok _

theorem text_errors (value : Value) : ErrorsIn IsOfReading value.text := by
  unfold Value.text
  split
  · exact .ok _
  · refine (named_errors _).bind fun charset? => ?_
    dsimp only
    split
    · exact .ok _
    · split
      · exact .ok _
      · exact .error (.unreadableText _)

theorem charset_errors (contentType : Option String) :
    ErrorsIn IsOfReading (charset contentType) := by
  unfold charset
  split
  · exact .ok _
  · refine (parameters_errors _).bind fun parameters => ?_
    split
    · exact .ok _
    · refine (text_errors _).bind fun name => ?_
      split_ifs
      · exact (named_errors _).bind fun charset? => .ok _
      · exact .ok _

end ContentType

theorem Response.text_errors (response : Response) : ErrorsIn IsOfReading response.text := by
  unfold Response.text
  split_ifs
  · exact .ok _
  · refine (ContentType.charset_errors _).bind fun charset => ?_
    split
    · exact .ok _
    · exact .error (.unreadableText _)

/-! ## Remembering an exchange -/

theorem Exchange.document_errors (exchange : Exchange) :
    ErrorsIn IsOfReading exchange.document := by
  unfold Exchange.document
  split_ifs
  · exact exchange.response.text_errors.bind fun text => .ok _
  · exact .error .unreadRequest
  · exact exchange.response.text_errors.bind fun text => .error .unreadRequest

/-- Of an exchange only the bodies may be unreadable. -/
theorem Snapshot.ofExchange_error_iff {exchange : Exchange} {d : Defect} :
    ofExchange exchange = .error d ↔ exchange.document = .error d := by
  unfold ofExchange
  rw [bind_error_iff]
  simp

end Arazzo
