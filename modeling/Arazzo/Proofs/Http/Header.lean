import Arazzo.Http.Client
import Arazzo.Proofs.Except
import Mathlib.Tactic.SplitIfs

/-!
# Lines of requests

The lines about cookies change no other line of a request: whatever is added to the lines of a request
can be added before or after the lines of one other name are taken away. What a client adds leaves alone
the names that the lines already hold: its own lines give way to them, and host, length and cookies are
added only where they are missing.
-/

namespace Arazzo

/-! ## Requests without their cookies -/

namespace Headers

variable {headers : Headers} {name erased : String}

theorem erase_append (headers more : Headers) (erased : String) :
    (headers ++ more).erase erased = headers.erase erased ++ more.erase erased :=
  List.filter_append ..

theorem erase_singleton_self (name value : String) : erase [(name, value)] name = [] := by
  simp [erase, sameName]

theorem erase_singleton (value : String) (hne : sameName name erased = false) :
    erase [(name, value)] erased = [(name, value)] := by
  simp [erase, hne]

/-- Lines of another name are not missed. -/
theorem contains_erase (headers : Headers) (hne : sameName name erased = false) :
    (headers.erase erased).contains name = headers.contains name := by
  rw [contains, contains, erase, List.any_filter]
  congr 1
  funext line
  cases hname : sameName line.1 name with
  | false => rw [Bool.and_false]
  | true =>
    have herased : sameName line.1 erased = false := by
      simp only [sameName, beq_iff_eq] at hname hne ⊢
      rw [hname]
      exact hne
    simp [herased]

theorem erase_setDefault_self (headers : Headers) (name value : String) :
    (headers.setDefault name value).erase name = headers.erase name := by
  unfold setDefault
  split_ifs
  · rfl
  · rw [erase_append, erase_singleton_self, List.append_nil]

theorem erase_setDefault (headers : Headers) (value : String)
    (hne : sameName name erased = false) :
    (headers.setDefault name value).erase erased = (headers.erase erased).setDefault name value := by
  unfold setDefault
  rw [contains_erase headers hne]
  split_ifs
  · rfl
  · rw [erase_append, erase_singleton value hne]

end Headers

namespace Request

/-- A request without its cookies. -/
def cookieless (request : Request) : Request :=
  { request with headers := request.headers.erase "Cookie" }

theorem erase_addCookies (now : Int) (jar : Jar) (url : Url) (headers : Headers) :
    (addCookies now jar url headers).erase "Cookie" = headers.erase "Cookie" := by
  unfold addCookies
  cases Jar.line? now url jar with
  | none => rfl
  | some line => exact Headers.erase_setDefault_self headers "Cookie" line

theorem sameName_host : Headers.sameName "Host" "Cookie" = false := by decide +kernel

theorem sameName_contentLength : Headers.sameName "Content-Length" "Cookie" = false := by
  decide +kernel

theorem sameName_transferEncoding : Headers.sameName "Transfer-Encoding" "Cookie" = false := by
  decide +kernel

theorem hostLine_erase (url : Url) (headers : Headers) :
    hostLine url (headers.erase "Cookie") = hostLine url headers := by
  rw [hostLine, Headers.contains_erase headers sameName_host]
  rfl

theorem erase_hostLine {url : Url} {headers host : Headers} (h : hostLine url headers = .ok host) :
    host.erase "Cookie" = host := by
  unfold hostLine at h
  by_cases hcontains : headers.contains "Host" = true
  · rw [if_pos hcontains] at h
    cases h
    rfl
  · rw [if_neg hcontains] at h
    cases hreadable : url.readableHost with
    | error fault => simp [hreadable, Except.map] at h
    | ok name =>
      simp only [hreadable, Except.map, Except.ok.injEq] at h
      subst h
      split_ifs
      · rfl
      · exact Headers.erase_singleton _ sameName_host

/-- A request is completed in the same way with and without its cookies. -/
theorem complete_erase (method : String) (url : Url) (headers : Headers) (body : List UInt8) :
    (complete method url headers body).map cookieless =
      complete method url (headers.erase "Cookie") body := by
  have hmeasured : (if body.isEmpty then headers.erase "Cookie"
        else (headers.erase "Cookie").setDefault "Content-Length" (toString body.length)) =
      Headers.erase (if body.isEmpty then headers
        else headers.setDefault "Content-Length" (toString body.length)) "Cookie" := by
    split_ifs
    · rfl
    · rw [Headers.erase_setDefault _ _ sameName_contentLength]
  simp only [complete, hmeasured, hostLine_erase,
    Headers.contains_erase _ sameName_contentLength,
    Headers.contains_erase _ sameName_transferEncoding]
  generalize (if body.isEmpty then headers
    else headers.setDefault "Content-Length" (toString body.length)) = measured
  cases hhost : hostLine url measured with
  | error fault => rfl
  | ok host =>
    have hlength : ∀ b : Bool, Headers.erase (if b then [] else [("Content-Length", "0")]) "Cookie" =
        if b then [] else [("Content-Length", "0")] := by
      intro b
      cases b with
      | true => rfl
      | false => exact Headers.erase_singleton _ sameName_contentLength
    simp only [bind, Except.bind, Except.map, cookieless, Headers.erase_append, erase_hostLine hhost,
      hlength]

end Request

namespace Client

/-- What a client sends apart from cookies does not depend on its session. -/
theorem request_cookieless (client : Client) (session : Session) (method : String) (url : Url)
    (headers : Headers) (body : List UInt8) :
    (client.request session method url headers body).map Request.cookieless =
      Request.complete method url ((client.headers.update headers).erase "Cookie") body := by
  rw [request, Request.complete_erase, withCookies, Request.erase_addCookies]

end Client

/-! ## The lines of a header name -/

namespace Headers

variable {headers : Headers} {name other : String}

theorem sameName_congr {a b : String} (h : sameName a b = true) (c : String) :
    sameName a c = sameName b c := by
  simp only [sameName, beq_iff_eq] at *
  rw [h]

theorem sameName_comm (a b : String) : sameName a b = sameName b a := by
  simp only [sameName]
  exact Bool.beq_comm

theorem contains_iff : headers.contains name = true ↔ ∃ line ∈ headers, sameName line.1 name = true := by
  simp [contains]

theorem contains_congr (headers : Headers) (h : sameName name other = true) :
    headers.contains name = headers.contains other := by
  unfold contains
  congr 1
  funext line
  rw [sameName_comm line.1 name, sameName_congr h, sameName_comm]

/-- A name that is missing is none that the lines hold. -/
theorem sameName_eq_false (h : headers.contains name = true) (hmissing : headers.contains other = false) :
    sameName other name = false := by
  rw [Bool.eq_false_iff]
  intro hsame
  rw [contains_congr headers hsame, h] at hmissing
  cases hmissing

theorem contains_append (headers more : Headers) (name : String) :
    (headers ++ more).contains name = (headers.contains name || more.contains name) := by
  simp [contains]

/-- The lines of a name, in order. -/
def lines (headers : Headers) (name : String) : Headers :=
  headers.filter fun line => sameName line.1 name

theorem values_eq_map (headers : Headers) (name : String) :
    headers.values name = (headers.lines name).map Prod.snd :=
  rfl

theorem lines_append (headers more : Headers) (name : String) :
    (headers ++ more).lines name = headers.lines name ++ more.lines name :=
  List.filter_append ..

theorem lines_eq_nil_iff : headers.lines name = [] ↔ headers.contains name = false := by
  simp [lines, contains]

theorem lines_ne_nil_iff : headers.lines name ≠ [] ↔ headers.contains name = true := by
  rw [Ne, lines_eq_nil_iff, Bool.not_eq_false]

theorem lines_singleton (value : String) (hne : sameName other name = false) :
    lines [(other, value)] name = [] := by
  simp [lines, hne]

/-! ## Adding lines -/

theorem contains_setDefault (other value : String) (h : headers.contains name = true) :
    (headers.setDefault other value).contains name = true := by
  unfold setDefault
  split_ifs
  · exact h
  · rw [contains_append, h, Bool.true_or]

theorem lines_setDefault (other value : String) (h : headers.contains name = true) :
    (headers.setDefault other value).lines name = headers.lines name := by
  unfold setDefault
  split_ifs with hother
  · rfl
  · rw [Bool.not_eq_true] at hother
    rw [lines_append, lines_singleton value (sameName_eq_false h hother), List.append_nil]

theorem contains_update (headers : Headers) {changed : Headers}
    (h : changed.contains name = true) : (headers.update changed).contains name = true := by
  rw [update, contains_append, h, Bool.or_true]

/-- Lines give way to those that replace them. -/
theorem lines_update (headers : Headers) {changed : Headers} (h : changed.contains name = true) :
    (headers.update changed).lines name = changed.lines name := by
  have hgone : contains (headers.filter fun line => !changed.contains line.1) name = false := by
    rw [Bool.eq_false_iff, Ne, contains_iff]
    rintro ⟨line, hline, hname⟩
    simp [contains_congr changed hname, h] at hline
  rw [update, lines_append, lines_eq_nil_iff.mpr hgone, List.nil_append]

theorem lines_erase (headers : Headers) (hne : sameName other name = false) :
    (headers.erase other).lines name = headers.lines name := by
  have hkept : ∀ line ∈ headers, (sameName line.1 name && !sameName line.1 other) =
      sameName line.1 name := by
    intro line _
    cases hname : sameName line.1 name with
    | false => rfl
    | true => rw [sameName_congr hname, sameName_comm, hne]; rfl
  rw [lines, erase, List.filter_filter, List.filter_congr hkept, lines]

theorem lines_erase_self (headers : Headers) (name : String) :
    (headers.erase name).lines name = [] := by
  simp [lines, erase]

theorem lines_cons (line : String × String) (rest : Headers) (name : String) :
    lines (line :: rest) name =
      if sameName line.1 name then line :: rest.lines name else rest.lines name := by
  simp [lines, List.filter_cons]

/-- Setting a name leaves the others alone. -/
theorem lines_set (value : String) (hne : sameName other name = false) (headers : Headers) :
    (set other value headers).lines name = headers.lines name := by
  induction headers with
  | nil => exact lines_singleton value hne
  | cons line rest ih =>
    rw [set]
    split_ifs with hline
    · have hother : sameName line.1 name = false := (sameName_congr hline name).trans hne
      rw [lines_cons, lines_cons, lines_erase rest hne, if_neg (by simp [hne]),
        if_neg (by simp [hother])]
    · rw [lines_cons, lines_cons, ih]

/-- A name that is set has one line. -/
theorem lines_set_self (name value : String) (headers : Headers) :
    (set name value headers).lines name = [(name, value)] := by
  have hself : sameName name name = true := by simp [sameName]
  induction headers with
  | nil => simp [set, lines, hself]
  | cons line rest ih =>
    rw [set]
    split_ifs with hline
    · rw [lines_cons, lines_erase_self, if_pos hself]
    · rw [lines_cons, if_neg hline, ih]

end Headers

namespace Request

variable {headers : Headers} {name : String}

theorem contains_addCookies (now : Int) (jar : Jar) (url : Url) (h : headers.contains name = true) :
    (addCookies now jar url headers).contains name = true := by
  unfold addCookies
  split
  · exact Headers.contains_setDefault "Cookie" _ h
  · exact h

theorem lines_addCookies (now : Int) (jar : Jar) (url : Url) (h : headers.contains name = true) :
    (addCookies now jar url headers).lines name = headers.lines name := by
  unfold addCookies
  split
  · exact Headers.lines_setDefault "Cookie" _ h
  · rfl

theorem lines_hostLine {url : Url} {host : Headers} (h : headers.contains name = true)
    (hhost : hostLine url headers = .ok host) : host.lines name = [] := by
  unfold hostLine at hhost
  by_cases hmissing : headers.contains "Host" = true
  · rw [if_pos hmissing] at hhost
    cases hhost
    rfl
  · rw [if_neg hmissing] at hhost
    rw [Bool.not_eq_true] at hmissing
    obtain ⟨readable, -, rfl⟩ := map_ok_iff.mp hhost
    by_cases hempty : (url.host == "") = true
    · rw [if_pos hempty]
      rfl
    · rw [if_neg hempty]
      exact Headers.lines_singleton _ (Headers.sameName_eq_false h hmissing)

/-- A request is completed by lines of other names than those it holds. -/
theorem lines_complete {method : String} {url : Url} {body : List UInt8} {r : Request}
    (h : headers.contains name = true) (hr : complete method url headers body = .ok r) :
    r.headers.lines name = headers.lines name := by
  obtain ⟨host, hhost, hr⟩ := bind_eq_ok hr
  cases hr
  have hcontains : (if body.isEmpty then headers
      else headers.setDefault "Content-Length" (toString body.length)).contains name = true := by
    split_ifs
    · exact h
    · exact Headers.contains_setDefault _ _ h
  have hlines : (if body.isEmpty then headers
      else headers.setDefault "Content-Length" (toString body.length)).lines name =
      headers.lines name := by
    split_ifs
    · rfl
    · exact Headers.lines_setDefault _ _ h
  dsimp only
  generalize (if body.isEmpty then headers
    else headers.setDefault "Content-Length" (toString body.length)) = measured at *
  rw [Headers.lines_append, Headers.lines_append, lines_hostLine hcontains hhost, hlines]
  split_ifs with hlength
  · rfl
  · simp only [Bool.or_eq_true, not_or, Bool.not_eq_true] at hlength
    rw [Headers.lines_singleton _ (Headers.sameName_eq_false hcontains hlength.1.1)]
    rfl

end Request

namespace Client

/-- The lines of a name that a request declares are all that it carries of that name. -/
theorem lines_request {client : Client} {session : Session} {method name : String} {url : Url}
    {headers : Headers} {body : List UInt8} {r : Request} (h : headers.contains name = true)
    (hr : client.request session method url headers body = .ok r) :
    r.headers.lines name = headers.lines name := by
  have hupdated := Headers.contains_update client.headers h
  have hcookies := Request.contains_addCookies
    (client.clock.seconds .asking session.sent.length) session.jar url hupdated
  rw [Request.lines_complete hcookies hr, Request.lines_addCookies _ _ _ hupdated,
    Headers.lines_update _ h]

end Client

end Arazzo
