import Arazzo.Proofs.Http.Client
import Mathlib.Data.List.Infix

/-!
# What a client sees of its session

Of all that a client has done before it sees nothing but the cookies: what it does behind another
session is what it would do on its own if the server and the clock went on counting. Of a server it
sees only the replies to what it sends, and of a clock the times until then.
-/

namespace Arazzo

/-- The server as it answers from a request on. -/
def Server.since (server : Server) (n : Nat) : Server := fun k => server (n + k)

/-- The clock as it goes from a request on. -/
def Clock.since (clock : Clock) (n : Nat) : Clock := fun moment k => clock moment (n + k)

/-- The client as it goes on from a request. -/
def Client.since (client : Client) (n : Nat) : Client :=
  { client with clock := client.clock.since n }

/-- A session that has taken place behind another one, whose cookies are gone. -/
def Session.behind (session past : Session) : Session :=
  ⟨session.jar, past.calls ++ session.calls, past.sent ++ session.sent⟩

/-- The client with another clock. -/
def Client.clockedBy (client : Client) (clock : Clock) : Client := { client with clock := clock }

/-- Two servers reply alike to requests that are sent one after the other, and two clocks show the same
times when cookies are chosen for them and when their answers come and are judged. -/
structure Alike (server server' : Server) (clock clock' : Clock) (sent : List Request) : Prop where
  replies : ∀ (k : Nat) (r : Request), sent[k]? = some r → server k r = server' k r
  asking : ∀ k ≤ sent.length, clock .asking k = clock' .asking k
  answered : ∀ k ≤ sent.length, 0 < k → clock .answered k = clock' .answered k
  judged : ∀ k ≤ sent.length, 0 < k → clock .judged k = clock' .judged k

theorem Alike.of_prefix {server server' : Server} {clock clock' : Clock}
    {sent more : List Request} (h : Alike server server' clock clock' more)
    (hsent : sent <+: more) : Alike server server' clock clock' sent where
  replies := by
    obtain ⟨rest, rfl⟩ := hsent
    intro k r hk
    refine h.replies k r ?_
    rw [List.getElem?_append_left (List.getElem?_eq_some_iff.mp hk).1]
    exact hk
  asking := fun k hk => h.asking k (hk.trans hsent.length_le)
  answered := fun k hk => h.answered k (hk.trans hsent.length_le)
  judged := fun k hk => h.judged k (hk.trans hsent.length_le)

/-- A server that never sets a cookie. -/
def Server.SetsNoCookies (server : Server) : Prop :=
  ∀ n request r, server n request = .response r → r.headers.values "Set-Cookie" = []

namespace Client

/-- What comes of a reply in a session that counts its request. -/
def received (client : Client) (request : Request) (session : Session) :
    Reply → Except ClientFault Response × Session
  | .failed message => (.error (.failed message), session)
  | .broken d => (.error (.defect d), session)
  | .response r => match r.decoded with
    | .error flaw => (.error (.failed (Coding.complaint flaw)), session)
    | .ok r =>
      if !hasScheme request.url then (.error (.defect .urlWithoutScheme), session) else
      let now := client.clock.seconds .answered session.sent.length
      (.ok r, { session with jar := Jar.addResponse now request.url r.headers session.jar })

theorem exchange_eq (server : Server) (client : Client) (request : Request) (session : Session) :
    exchange server client request session =
      if !hasScheme request.url && !Jar.isEmpty session.jar then
        (.error (.defect .urlWithoutScheme), session)
      else received client request { session with sent := session.sent ++ [request] }
        (server session.sent.length request) := by
  unfold exchange
  by_cases hstopped : (!hasScheme request.url && !Jar.isEmpty session.jar) = true
  · rw [if_pos hstopped, if_pos hstopped]
  · rw [if_neg hstopped, if_neg hstopped]
    cases server session.sent.length request <;> rfl

theorem sent_received (client : Client) (request : Request) (session : Session) (reply : Reply) :
    (received client request session reply).2.sent = session.sent := by
  cases reply with
  | failed message => rfl
  | broken d => rfl
  | response r =>
    simp only [received]
    cases r.decoded with
    | error flaw => rfl
    | ok r => split_ifs <;> rfl

section
variable (server : Server) (client : Client) (past : Session)

theorem seconds_behind (moment : Moment) (session : Session) :
    client.clock.seconds moment (session.behind past).sent.length =
      (client.since past.sent.length).clock.seconds moment session.sent.length := by
  rw [Session.behind, List.length_append]
  rfl

theorem withCookies_behind (session : Session) (url : Url) (headers : Headers) :
    client.withCookies (session.behind past) url headers =
      (client.since past.sent.length).withCookies session url headers := by
  rw [withCookies, withCookies, seconds_behind]
  rfl

theorem request_behind (session : Session) (method : String) (url : Url) (headers : Headers)
    (body : List UInt8) :
    client.request (session.behind past) method url headers body =
      (client.since past.sent.length).request session method url headers body := by
  rw [Client.request, Client.request, withCookies_behind]
  rfl

theorem redirectRequest_behind (session : Session) (request : Request) (status : Int)
    (location : String) :
    client.redirectRequest (session.behind past) request status location =
      (client.since past.sent.length).redirectRequest session request status location := by
  simp only [redirectRequest, withCookies_behind]

theorem received_behind (request : Request) (session : Session) (reply : Reply) :
    received client request (session.behind past) reply =
      (received (client.since past.sent.length) request session reply).map id
        (·.behind past) := by
  cases reply with
  | failed message => rfl
  | broken d => rfl
  | response r =>
    simp only [received, seconds_behind]
    cases r.decoded with
    | error flaw => rfl
    | ok r => split_ifs <;> rfl

theorem exchange_behind (request : Request) (session : Session) :
    exchange server client request (session.behind past) =
      (exchange (server.since past.sent.length) (client.since past.sent.length) request
        session).map id (·.behind past) := by
  have hreply : server (session.behind past).sent.length request =
      server.since past.sent.length session.sent.length request := by
    rw [Server.since, Session.behind, List.length_append]
  have hsent : { session.behind past with sent := (session.behind past).sent ++ [request] } =
      ({ session with sent := session.sent ++ [request] } : Session).behind past := by
    simp [Session.behind]
  rw [exchange_eq, exchange_eq, hreply, hsent, received_behind]
  show (if !hasScheme request.url && !Jar.isEmpty session.jar then _ else _) = _
  split_ifs <;> rfl

theorem follow_behind (remaining : Nat) (isRead : Bool) (request : Request) (session : Session) :
    follow server client remaining isRead request (session.behind past) =
      (follow (server.since past.sent.length) (client.since past.sent.length) remaining isRead
        request session).map id (·.behind past) := by
  rw [follow_eq, follow_eq, exchange_behind]
  cases exchange (server.since past.sent.length) (client.since past.sent.length) request session with
  | mk outcome closing =>
    cases outcome with
    | error fault => rfl
    | ok response =>
      simp only [Prod.map_apply, id_eq]
      cases location? response with
      | none => rfl
      | some location =>
        dsimp only
        rw [redirectRequest_behind]
        cases (client.since past.sent.length).redirectRequest closing request response.status
            location with
        | error fault => rfl
        | ok next =>
          dsimp only
          have hfollows : (client.since past.sent.length).followsRedirects =
              client.followsRedirects := rfl
          rw [hfollows]
          split_ifs
          · cases remaining with
            | zero => rfl
            | succ remaining => exact follow_behind remaining _ next closing
          · rfl

theorem send_behind (request : Request) (session : Session) :
    send server client request (session.behind past) =
      (send (server.since past.sent.length) (client.since past.sent.length) request session).map id
        (·.behind past) := by
  rw [send, send, ← follow_behind]
  congr 1
  simp [Session.behind]

end

/-! ## What is seen of a server and a clock -/

section
variable {server server' : Server} {client : Client} {clock : Clock}

/-- A request reaches the server once, or not at all if it is stopped before. -/
theorem sent_exchange (server : Server) (client : Client) (request : Request) (session : Session) :
    (exchange server client request session).2.sent =
      if !hasScheme request.url && !Jar.isEmpty session.jar then session.sent
      else session.sent ++ [request] := by
  rw [exchange_eq]
  split_ifs
  · rfl
  · exact sent_received client request _ _

theorem sent_prefix_exchange (server : Server) (client : Client) (request : Request)
    (session : Session) :
    session.sent <+: (exchange server client request session).2.sent := by
  rw [sent_exchange]
  split_ifs
  · exact List.prefix_refl _
  · exact List.prefix_append _ _

theorem sent_prefix_follow (server : Server) (client : Client) (remaining : Nat) (isRead : Bool)
    (request : Request) (session : Session) :
    (exchange server client request session).2.sent <+:
      (follow server client remaining isRead request session).2.sent := by
  rcases follow_cases server client remaining isRead request session with
    ⟨outcome, hfollow, -⟩ | ⟨n, next, rfl, hfollow⟩
  · rw [hfollow]
  · rw [hfollow]
    exact (sent_prefix_exchange server client next _).trans
      (sent_prefix_follow server client n _ next _)

theorem sent_prefix_send (server : Server) (client : Client) (request : Request)
    (session : Session) :
    session.sent <+: (send server client request session).2.sent := by
  have hcalled : session.sent <+: (exchange server client (authorise request)
      { session with calls := session.calls ++ [request] }).2.sent :=
    sent_prefix_exchange server client (authorise request)
      { session with calls := session.calls ++ [request] }
  exact hcalled.trans (sent_prefix_follow server client redirectLimit true _ _)

theorem withCookies_congr {session : Session}
    (h : Alike server server' client.clock clock session.sent) (url : Url) (headers : Headers) :
    (client.clockedBy clock).withCookies session url headers =
      client.withCookies session url headers := by
  rw [withCookies, withCookies, Clock.seconds, Clock.seconds, h.asking _ le_rfl]
  rfl

theorem request_congr {session : Session}
    (h : Alike server server' client.clock clock session.sent) (method : String) (url : Url)
    (headers : Headers) (body : List UInt8) :
    (client.clockedBy clock).request session method url headers body =
      client.request session method url headers body := by
  rw [Client.request, Client.request, withCookies_congr h]
  rfl

theorem redirectRequest_congr {session : Session}
    (h : Alike server server' client.clock clock session.sent) (request : Request)
    (status : Int) (location : String) :
    (client.clockedBy clock).redirectRequest session request status location =
      client.redirectRequest session request status location := by
  simp only [redirectRequest, withCookies_congr h]

theorem received_congr {session : Session}
    (h : Alike server server' client.clock clock session.sent) (hsent : 0 < session.sent.length)
    (request : Request) (reply : Reply) :
    received (client.clockedBy clock) request session reply =
      received client request session reply := by
  cases reply with
  | failed message => rfl
  | broken d => rfl
  | response r =>
    simp only [received, Clock.seconds, h.answered _ le_rfl hsent]
    rfl

theorem exchange_congr {request : Request} {session : Session}
    (h : Alike server server' client.clock clock
      (exchange server client request session).2.sent) :
    exchange server' (client.clockedBy clock) request session =
      exchange server client request session := by
  rw [sent_exchange] at h
  rw [exchange_eq, exchange_eq]
  split_ifs at h ⊢
  · rfl
  · have hcounted : Alike server server' client.clock clock
        ({ session with sent := session.sent ++ [request] } : Session).sent := h
    rw [h.replies session.sent.length request (by simp), received_congr hcounted (by simp)]

theorem follow_congr {remaining : Nat} {isRead : Bool} {request : Request} {session : Session}
    (h : Alike server server' client.clock clock
      (follow server client remaining isRead request session).2.sent) :
    follow server' (client.clockedBy clock) remaining isRead request session =
      follow server client remaining isRead request session := by
  have hfirst := h.of_prefix (sent_prefix_follow server client remaining isRead request session)
  rw [follow_eq] at h
  rw [follow_eq, follow_eq server, exchange_congr hfirst]
  cases hexchange : exchange server client request session with
  | mk outcome closing =>
    rw [hexchange] at h hfirst
    cases outcome with
    | error fault => rfl
    | ok response =>
      dsimp only at h hfirst ⊢
      cases hlocation : location? response with
      | none => rfl
      | some location =>
        rw [hlocation] at h
        dsimp only at h ⊢
        rw [redirectRequest_congr hfirst]
        cases hnext : redirectRequest client closing request response.status location with
        | error fault => rfl
        | ok next =>
          rw [hnext] at h
          have hfollows : (client.clockedBy clock).followsRedirects = client.followsRedirects := rfl
          dsimp only at h ⊢
          rw [hfollows]
          split_ifs at h ⊢
          · cases remaining with
            | zero => rfl
            | succ remaining => exact follow_congr h
          · rfl

theorem send_congr {request : Request} {session : Session}
    (h : Alike server server' client.clock clock (send server client request session).2.sent) :
    send server' (client.clockedBy clock) request session = send server client request session :=
  follow_congr h

end

/-! ## Answers without a redirect -/

section
variable {server : Server} {client : Client} {request : Request} {session closing : Session}
  {remaining : Nat} {isRead : Bool} {answered : Exchange}

theorem sent_of_exchange_ok {response : Response}
    (h : (exchange server client request session).1 = .ok response) :
    (exchange server client request session).2.sent = session.sent ++ [request] := by
  rw [sent_exchange]
  by_cases hstopped : (!hasScheme request.url && !Jar.isEmpty session.jar) = true
  · rw [exchange_eq, if_pos hstopped] at h
    cases h
  · rw [if_neg hstopped]

/-- Nothing is answered without an answer to the request itself. -/
theorem exists_ok_of_follow
    (h : follow server client remaining isRead request session = (.ok answered, closing)) :
    ∃ response, (exchange server client request session).1 = .ok response := by
  rw [follow_eq] at h
  cases hexchange : exchange server client request session with
  | mk outcome first =>
    rw [hexchange] at h
    cases outcome with
    | error fault => cases h
    | ok response => exact ⟨response, rfl⟩

/-- What has an answer has reached the server. -/
theorem length_sent_of_follow
    (h : follow server client remaining isRead request session = (.ok answered, closing)) :
    session.sent.length < closing.sent.length := by
  obtain ⟨response, hresponse⟩ := exists_ok_of_follow h
  have hprefix := sent_prefix_follow server client remaining isRead request session
  rw [h, sent_of_exchange_ok hresponse] at hprefix
  have hle : (session.sent ++ [request]).length ≤ closing.sent.length := hprefix.length_le
  rw [List.length_append, List.length_singleton] at hle
  omega

/-- If nothing but one request is sent, this request is the answered one, and what was read of it
stays read. -/
theorem request_of_follow
    (h : follow server client remaining isRead request session = (.ok answered, closing))
    (hsent : closing.sent.length = session.sent.length + 1) :
    answered.request = request ∧ (isRead = true → answered.isRead = true) := by
  obtain ⟨response, hresponse⟩ := exists_ok_of_follow h
  rcases follow_cases server client remaining isRead request session with
    ⟨outcome, hfollow, hanswered⟩ | ⟨n, next, rfl, hfollow⟩
  · rw [h] at hfollow
    exact hanswered answered (congrArg Prod.fst hfollow).symm
  · -- The redirect would be one request more.
    have hmore := length_sent_of_follow (hfollow.symm.trans h)
    rw [sent_of_exchange_ok hresponse, List.length_append, List.length_singleton] at hmore
    omega

theorem body_authorise (request : Request) : (authorise request).body = request.body := by
  unfold authorise
  split <;> rfl

/-- A request that is answered without a redirect is answered with its body. -/
theorem body_of_send (h : send server client request session = (.ok answered, closing))
    (hsent : closing.sent.length = session.sent.length + 1) :
    answered.request.body = request.body := by
  rw [(request_of_follow h hsent).1, body_authorise]

/-- The body of such a request can be asked for. -/
theorem isRead_of_send (h : send server client request session = (.ok answered, closing))
    (hsent : closing.sent.length = session.sent.length + 1) : answered.isRead = true :=
  (request_of_follow h hsent).2 rfl

end

/-! ## Servers without cookies -/

section
variable {server : Server} (hcookies : server.SetsNoCookies) (client : Client)

theorem decoded_headers {r r' : Response} (h : r.decoded = .ok r') : r'.headers = r.headers := by
  unfold Response.decoded at h
  cases hbody : Coding.decodeAll (Coding.ofHeaders r.headers) r.body with
  | error flaw => simp [hbody, Except.map] at h
  | ok body =>
    simp only [hbody, Except.map, Except.ok.injEq] at h
    rw [← h]

theorem jar_received_response {r : Response} (hlines : r.headers.values "Set-Cookie" = [])
    (request : Request) (session : Session) :
    (received client request session (.response r)).2.jar = session.jar := by
  simp only [received]
  cases hdecoded : r.decoded with
  | error flaw => rfl
  | ok r' =>
    split_ifs
    · rfl
    · simp [Jar.addResponse, decoded_headers hdecoded, hlines]

include hcookies

theorem jar_exchange (request : Request) (session : Session) :
    (exchange server client request session).2.jar = session.jar := by
  rw [exchange_eq]
  split_ifs
  · rfl
  · cases hreply : server session.sent.length request with
    | failed message => rfl
    | broken d => rfl
    | response r => exact jar_received_response client (hcookies _ _ _ hreply) request _

theorem jar_follow (remaining : Nat) (isRead : Bool) (request : Request) (session : Session) :
    (follow server client remaining isRead request session).2.jar = session.jar := by
  rcases follow_cases server client remaining isRead request session with
    ⟨outcome, hfollow, -⟩ | ⟨n, next, rfl, hfollow⟩
  · rw [hfollow, jar_exchange hcookies]
  · rw [hfollow, jar_follow n _ next, jar_exchange hcookies]

theorem jar_send (request : Request) (session : Session) :
    (send server client request session).2.jar = session.jar :=
  jar_follow hcookies client redirectLimit true (authorise request)
    { session with calls := session.calls ++ [request] }

end

end Client
end Arazzo
