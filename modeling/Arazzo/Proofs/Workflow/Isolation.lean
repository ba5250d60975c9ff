import Arazzo.Proofs.Http.Session
import Arazzo.Proofs.Workflow.Visit
import Arazzo.Proofs.Workflow.Walk

/-!
# Runs that do not see each other

A run whose cookies do not outlive it does what it would do as the first one, if the server and the
clock went on counting; and it sees only the replies to what it sends and the times until then. So in a
series of runs each depends on the replies and the times that it is given itself and on nothing that
came before. If no cookie is ever set, it makes no difference whether cookies outlive a run.
-/

namespace Arazzo

/-- The same surroundings with another server and another clock. -/
def Surroundings.against (around : Surroundings) (server : Server) (clock : Clock) :
    Surroundings :=
  { around with server := server, client := around.client.clockedBy clock }

/-- The surroundings as they go on from a request. -/
def Surroundings.since (around : Surroundings) (n : Nat) : Surroundings :=
  { around with server := around.server.since n, client := around.client.since n }

namespace Attempt

variable (around : Surroundings) (step : Step) (shared : Parameters) (context : Context)

theorem request_behind (session past : Session) :
    request around step shared context (session.behind past) =
      request (around.since past.sent.length) step shared context session := by
  simp only [request, Call.request, Client.request_behind]
  rfl

theorem judgedAt_behind (session past : Session) :
    around.judgedAt (session.behind past) = (around.since past.sent.length).judgedAt session := by
  rw [Surroundings.judgedAt, Session.behind, List.length_append]
  rfl

theorem execute_behind (session past : Session) :
    execute around step shared context (session.behind past) =
      (execute (around.since past.sent.length) step shared context session).map id
        (·.behind past) := by
  unfold execute
  rw [request_behind]
  cases request (around.since past.sent.length) step shared context session with
  | error f => rfl
  | ok r =>
    dsimp only
    rw [Client.send_behind]
    simp only [Surroundings.since]
    cases (around.client.since past.sent.length).send (around.server.since past.sent.length) r
        session with
    | mk outcome closing =>
      cases outcome with
      | error fault => rfl
      | ok exchange =>
        simp only [Prod.map_apply, id_eq, judgedAt_behind]
        rfl

variable {around step shared context}

theorem sent_prefix_execute (around : Surroundings) (step : Step) (shared : Parameters)
    (context : Context) (session : Session) :
    session.sent <+: (execute around step shared context session).2.sent := by
  rcases session_execute around step shared context session with ⟨f, -, hsame⟩ | ⟨r, -, hsession⟩
  · rw [hsame]
  · rw [hsession]
    exact Client.sent_prefix_send around.server around.client r session

theorem request_congr {server server' : Server} {clock : Clock} {session : Session}
    (h : Alike server server' around.client.clock clock session.sent) :
    request (around.against server' clock) step shared context session =
      request around step shared context session := by
  simp only [request, Call.request, Surroundings.against, Client.request_congr h]
  rfl

/-- An attempt sees the replies to its own requests only, and the times until it is judged. -/
theorem execute_congr {server : Server} {clock : Clock} {session : Session}
    (h : Alike around.server server around.client.clock clock
      (execute around step shared context session).2.sent) :
    execute (around.against server clock) step shared context session =
      execute around step shared context session := by
  have hrequest : request (around.against server clock) step shared context session =
      request around step shared context session :=
    request_congr (h.of_prefix (sent_prefix_execute around step shared context session))
  unfold execute at h ⊢
  rw [hrequest]
  cases hr : request around step shared context session with
  | error f => rfl
  | ok r =>
    rw [hr] at h
    dsimp only at h ⊢
    cases hsend : around.client.send around.server r session with
    | mk outcome closing =>
      have hseen : Alike around.server server around.client.clock clock closing.sent := by
        rw [hsend] at h
        cases outcome <;> exact h
      have hsame : (around.client.clockedBy clock).send server r session = (outcome, closing) := by
        rw [← hsend]
        exact Client.send_congr (hsend ▸ hseen)
      simp only [Surroundings.against]
      rw [hsame]
      cases outcome with
      | error fault => rfl
      | ok exchange =>
        have hsent : 0 < closing.sent.length := (Client.length_sent_of_follow hsend).pos
        have hjudged : (around.against server clock).judgedAt closing = around.judgedAt closing :=
          (hseen.judged _ le_rfl hsent).symm
        simp only [Surroundings.against] at hjudged
        dsimp only
        rw [hjudged]
        rfl

theorem jar_execute (hcookies : around.server.SetsNoCookies) (session : Session) :
    (execute around step shared context session).2.jar = session.jar := by
  rcases session_execute around step shared context session with ⟨f, -, hsame⟩ | ⟨r, -, hsession⟩
  · rw [hsame]
  · rw [hsession]
    exact Client.jar_send hcookies around.client r session

end Attempt

/-- The state with its session behind another one. -/
def Progress.behind (p : Progress) (past : Session) : Progress :=
  { p with session := p.session.behind past }

namespace Run

variable {around : Surroundings} {workflow : Workflow}

theorem next_behind (sleep : Sleep) (p : Progress) (r : StepResult) (past : Session) :
    next sleep workflow (p.behind past) r = (next sleep workflow p r).map (·.behind past) id := by
  unfold next
  cases r.nextAction with
  | none =>
    dsimp only
    split_ifs <;> rfl
  | some kind =>
    cases kind with
    | finish => rfl
    | goto =>
      dsimp only
      cases workflow.stepIndex? (r.nextStepId.getD "") <;> rfl
    | retry =>
      have hretries : (p.behind past).retries = p.retries := rfl
      have hlimit : (p.behind past).retryLimit = p.retryLimit := rfl
      dsimp only
      rw [hretries, hlimit]
      by_cases hspent : p.retryLimit.getD (limitOf r.retryLimit) ≤ ((p.retries + 1 : Nat) : Int)
      · simp only [if_pos hspent, Sum.map_inr, id_eq]
      · simp only [if_neg hspent]
        cases sleep (delayOf r.retryAfter) <;> rfl

theorem advance_behind (around : Surroundings) (workflow : Workflow) (p : Progress)
    (past : Session) :
    advance around workflow (p.behind past) =
      (advance (around.since past.sent.length) workflow p).map (·.behind past) id := by
  have hindex : (p.behind past).index = p.index := rfl
  have hcontext : (p.behind past).context = p.context := rfl
  have hsession : (p.behind past).session = p.session.behind past := rfl
  have hsleep : (around.since past.sent.length).sleep = around.sleep := rfl
  unfold advance
  rw [hindex, hcontext, hsession, hsleep]
  cases workflow.steps[p.index]? with
  | none => rfl
  | some step =>
    dsimp only
    rw [Attempt.execute_behind]
    cases Attempt.execute (around.since past.sent.length) step (workflow.parameters.getD [])
        p.context p.session with
    | mk outcome closing =>
      cases outcome with
      | error f => rfl
      | ok attempt =>
        have hrecord : record (p.behind past) attempt (closing.behind past) =
            (record p attempt closing).behind past := rfl
        simp only [Prod.map_apply, id_eq, hrecord, next_behind]
        cases next around.sleep workflow (record p attempt closing) attempt.result <;> rfl

theorem loop_behind (around : Surroundings) (workflow : Workflow) (fuel : Nat) (p : Progress)
    (past : Session) :
    loop around workflow fuel (p.behind past) =
      (loop (around.since past.sent.length) workflow fuel p).map (·.behind past) id :=
  loop_lockstep (·.behind past) fun _ q _ _ => advance_behind around workflow q past

theorem session_of_next {sleep : Sleep} {p q : Progress} {r : StepResult}
    (h : next sleep workflow p r = .inl q) : q.session = p.session := by
  have hnext := next_spec sleep workflow p r
  rw [h] at hnext
  exact hnext.frame.2.1

/-- An advance leaves the session of the attempt that it makes, if it makes one. -/
theorem session_advance (around : Surroundings) (workflow : Workflow) (p : Progress) :
    (workflow.steps[p.index]? = none ∧ (advance around workflow p).1.session = p.session) ∨
      ∃ step, workflow.steps[p.index]? = some step ∧
        (advance around workflow p).1.session =
          (Attempt.execute around step (workflow.parameters.getD []) p.context p.session).2 := by
  unfold advance
  cases workflow.steps[p.index]? with
  | none => exact .inl ⟨rfl, rfl⟩
  | some step =>
    refine .inr ⟨step, rfl, ?_⟩
    dsimp only
    cases Attempt.execute around step (workflow.parameters.getD []) p.context p.session with
    | mk outcome closing =>
      cases outcome with
      | error f => rfl
      | ok attempt =>
        dsimp only
        cases hnext : next around.sleep workflow (record p attempt closing) attempt.result with
        | inl q => exact session_of_next hnext
        | inr stop => rfl

theorem sent_prefix_advance (around : Surroundings) (workflow : Workflow) (p : Progress) :
    p.session.sent <+: (advance around workflow p).1.session.sent := by
  rcases session_advance around workflow p with ⟨-, hsame⟩ | ⟨step, -, hsession⟩
  · rw [hsame]
  · rw [hsession]
    exact Attempt.sent_prefix_execute around step _ p.context p.session

theorem sent_prefix_loop (fuel : Nat) (p : Progress) :
    p.session.sent <+: (loop around workflow fuel p).1.session.sent := by
  induction fuel generalizing p with
  | zero => exact List.prefix_refl _
  | succ fuel ih =>
    have hadvance := sent_prefix_advance around workflow p
    rw [loop]
    cases hgo : advance around workflow p with
    | mk q stop =>
      rw [hgo] at hadvance
      cases stop with
      | some stop => exact hadvance
      | none => exact hadvance.trans (ih q)

theorem advance_congr {server : Server} {clock : Clock} {p : Progress}
    (h : Alike around.server server around.client.clock clock
      (advance around workflow p).1.session.sent) :
    advance (around.against server clock) workflow p = advance around workflow p := by
  rcases session_advance around workflow p with ⟨hnone, -⟩ | ⟨step, hstep, hsession⟩
  · simp [advance, hnone]
  · rw [hsession] at h
    unfold advance
    rw [hstep]
    dsimp only
    rw [Attempt.execute_congr h]
    rfl

theorem loop_congr {server : Server} {clock : Clock} {fuel : Nat} {p : Progress}
    (h : Alike around.server server around.client.clock clock
      (loop around workflow fuel p).1.session.sent) :
    loop (around.against server clock) workflow fuel p = loop around workflow fuel p := by
  induction fuel generalizing p with
  | zero => rfl
  | succ fuel ih =>
    rw [loop] at h
    rw [loop, loop]
    have hadvance : advance (around.against server clock) workflow p =
        advance around workflow p := by
      refine advance_congr ?_
      cases hgo : advance around workflow p with
      | mk q stop =>
        rw [hgo] at h
        cases stop with
        | some stop => exact h
        | none => exact h.of_prefix (sent_prefix_loop fuel q)
    rw [hadvance]
    cases hgo : advance around workflow p with
    | mk q stop =>
      rw [hgo] at h
      cases stop with
      | some stop => rfl
      | none => exact ih h

theorem jar_loop (hcookies : around.server.SetsNoCookies) (fuel : Nat) (p : Progress) :
    (loop around workflow fuel p).1.session.jar = p.session.jar := by
  induction fuel generalizing p with
  | zero => rfl
  | succ fuel ih =>
    have hadvance : (advance around workflow p).1.session.jar = p.session.jar := by
      rcases session_advance around workflow p with ⟨-, hsame⟩ | ⟨step, -, hsession⟩
      · rw [hsame]
      · rw [hsession]
        exact Attempt.jar_execute hcookies p.session
    rw [loop]
    cases hgo : advance around workflow p with
    | mk q stop =>
      rw [hgo] at hadvance
      cases stop with
      | some stop => exact hadvance
      | none => exact (ih q).trans hadvance

/-! ## Runs -/

/-- The same runs against another server and another clock. -/
def Environment.against (env : Environment) (server : Server) (clock : Clock) : Environment :=
  { env with server := server, client := env.client.clockedBy clock }

/-- The same runs as they go on from a request. -/
def Environment.since (env : Environment) (n : Nat) : Environment :=
  { env with server := env.server.since n, client := env.client.since n }

variable {env : Environment} {fuel : Nat}

theorem opening_of_forgetful (h : env.keepsCookies = false) (session : Session) :
    env.opening session = Session.start.behind session := by
  simp [Environment.opening, h, Session.withoutCookies, Session.behind, Session.start]

/-- A run whose cookies do not outlive it is a first run on a server and a clock that have gone on
counting. -/
theorem run_behind (env : Environment) (workflow : Workflow) (inputs : Entries)
    (session : Session) (fuel : Nat) (h : env.keepsCookies = false) :
    run env workflow inputs session fuel =
      let first := run (env.since session.sent.length) workflow inputs .start fuel
      ⟨first.result, first.delays, first.session.behind session⟩ := by
  have hfirst : (env.since session.sent.length).opening .start = .start := by
    simp [Environment.opening, Environment.since, h, Session.withoutCookies, Session.start]
  have haround : (env.since session.sent.length).around workflow =
      (env.around workflow).since session.sent.length := rfl
  have hwalk : walk (env.around workflow) workflow inputs (env.opening session) fuel =
      (walk ((env.around workflow).since session.sent.length) workflow inputs .start fuel).map
        (·.behind session) id := by
    rw [opening_of_forgetful h]
    unfold walk
    cases refusal? workflow with
    | some f => rfl
    | none => exact loop_behind (env.around workflow) workflow fuel (start inputs .start) session
  unfold run
  rw [hfirst, haround, hwalk]
  cases walk ((env.around workflow).since session.sent.length) workflow inputs .start fuel with
  | mk p stop =>
    have htime : ∀ moment,
        env.client.clock moment (p.session.behind session).sent.length =
          (env.since session.sent.length).client.clock moment p.session.sent.length := by
      intro moment
      rw [Session.behind, List.length_append]
      rfl
    simp only [Prod.map_apply, id_eq, Progress.behind, htime]
    rfl

/-- A run sees the replies to its own requests only, and the times until its result is made. -/
theorem run_congr (env : Environment) (workflow : Workflow) (inputs : Entries) (session : Session)
    (fuel : Nat) {server : Server} {clock : Clock}
    (h : Alike env.server server env.client.clock clock
      (run env workflow inputs session fuel).session.sent)
    (hresult : ∀ moment, moment = .made ∨ moment = .closed →
      env.client.clock moment (run env workflow inputs session fuel).session.sent.length =
        clock moment (run env workflow inputs session fuel).session.sent.length) :
    run (env.against server clock) workflow inputs session fuel =
      run env workflow inputs session fuel := by
  have hopening : (env.against server clock).opening session = env.opening session := rfl
  have haround : (env.against server clock).around workflow =
      (env.around workflow).against server clock := rfl
  have hwalk : walk ((env.around workflow).against server clock) workflow inputs
      (env.opening session) fuel =
      walk (env.around workflow) workflow inputs (env.opening session) fuel := by
    unfold run walk at h
    unfold walk
    cases hrefusal : refusal? workflow with
    | some f => rfl
    | none =>
      rw [hrefusal] at h
      exact loop_congr h
  have hclock : (env.against server clock).client.clock = clock := rfl
  have hmade := hresult .made (.inl rfl)
  have hclosed := hresult .closed (.inr rfl)
  unfold run at hmade hclosed ⊢
  rw [hopening, haround, hwalk, hclock]
  dsimp only at hmade hclosed ⊢
  rw [hmade, hclosed]

theorem jar_run (env : Environment) (workflow : Workflow) (inputs : Entries) (session : Session)
    (fuel : Nat) (hcookies : env.server.SetsNoCookies) :
    (run env workflow inputs session fuel).session.jar = (env.opening session).jar := by
  unfold run walk
  cases refusal? workflow with
  | some f => rfl
  | none => exact jar_loop hcookies fuel (start inputs (env.opening session))

/-! ## Series of runs -/

/-- What a runner is asked to do. -/
structure Job where
  workflow : Workflow
  inputs : Entries
  documents : ApiDocuments

def Job.outcome (job : Job) (env : Environment) (fuel : Nat) (session : Session) : Outcome :=
  run { env with documents := job.documents } job.workflow job.inputs session fuel

/-- What is seen of a run: the requests that it hands over, all that reach the server meanwhile, its
delays and its result. -/
structure Conduct where
  calls : List Request
  sent : List Request
  delays : List Binary64
  result : Option (Except Defect WorkflowResult)

/-- What is seen of a run that began in a session. -/
def Outcome.conduct (outcome : Outcome) (opening : Session) : Conduct :=
  ⟨outcome.session.calls.drop opening.calls.length, outcome.session.sent.drop opening.sent.length,
    outcome.delays, outcome.result⟩

/-- Runs one job after the other, whatever becomes of those before. -/
def conducts (env : Environment) (fuel : Nat) : List Job → Session → List Conduct
  | [], _ => []
  | job :: rest, session =>
    let outcome := job.outcome env fuel session
    outcome.conduct session :: conducts env fuel rest outcome.session

/-- The session that jobs leave. -/
def sessionBehind (env : Environment) (fuel : Nat) (jobs : List Job) (session : Session) : Session :=
  jobs.foldl (fun session job => (job.outcome env fuel session).session) session

theorem conducts_getElem? (env : Environment) (fuel : Nat) (before after : List Job) (job : Job)
    (session : Session) :
    (conducts env fuel (before ++ job :: after) session)[before.length]? =
      some ((job.outcome env fuel (sessionBehind env fuel before session)).conduct
        (sessionBehind env fuel before session)) := by
  induction before generalizing session with
  | nil => rfl
  | cons first before ih => exact ih (first.outcome env fuel session).session

/-- A job is done as if it were the first one on a server and a clock that have gone on counting. -/
theorem conduct_eq_first (env : Environment) (h : env.keepsCookies = false) (fuel : Nat) (job : Job)
    (session : Session) :
    (job.outcome env fuel session).conduct session =
      (job.outcome (env.since session.sent.length) fuel .start).conduct .start := by
  have hbehind := run_behind { env with documents := job.documents } job.workflow job.inputs
    session fuel h
  simp only [Job.outcome, hbehind, Outcome.conduct, Session.behind, List.drop_left, Session.start,
    List.length_nil, List.drop_zero]
  rfl

theorem conducts_keepsCookies (hcookies : env.server.SetsNoCookies) (jobs : List Job)
    {session : Session} (hjar : session.jar = []) :
    conducts { env with keepsCookies := true } fuel jobs session =
      conducts { env with keepsCookies := false } fuel jobs session := by
  induction jobs generalizing session with
  | nil => rfl
  | cons job rest ih =>
    have hopening : ∀ keeps, ({ env with keepsCookies := keeps, documents := job.documents } :
        Environment).opening session = session := by
      intro keeps
      cases keeps with
      | true => rfl
      | false =>
        obtain ⟨jar, calls, sent⟩ := session
        subst hjar
        rfl
    have hsame : job.outcome { env with keepsCookies := true } fuel session =
        job.outcome { env with keepsCookies := false } fuel session := by
      unfold Job.outcome run
      rw [hopening true, hopening false]
      rfl
    have hnext : (job.outcome { env with keepsCookies := false } fuel session).session.jar = [] := by
      have hkept := jar_run { env with keepsCookies := false, documents := job.documents }
        job.workflow job.inputs session fuel hcookies
      rw [hopening false, hjar] at hkept
      exact hkept
    rw [conducts, conducts, hsame]
    exact congrArg _ (ih hnext)

/-- Whether a run that sends a number of requests looks at the clock on an occasion, when some of them
have been sent: cookies are chosen before a request, its answer comes and is judged behind it, and the
result stands behind all of them. -/
def looksAt (sent : Nat) (moment : Moment) (k : Nat) : Bool :=
  match moment with
  | .asking => k ≤ sent
  | .answered => 0 < k && k ≤ sent
  | .judged => 0 < k && k ≤ sent
  | .made => k = sent
  | .closed => k = sent

/-- In a series of runs that each begin without cookies, what is seen of a run depends on its own job
and on the replies to its own requests and the times meanwhile: in the place of the jobs before it and
of their replies there may be any others. On a server that sets no cookies this is so whether cookies
are kept or not, for then nothing that is seen depends on it. -/
theorem conducts_isolated :
    (∀ (env : Environment) (server : Server) (clock : Clock) (fuel : Nat)
      (before after before' after' : List Job) (job : Job) (conduct : Conduct),
      env.keepsCookies = false →
      (conducts env fuel (before ++ job :: after) .start)[before.length]? = some conduct →
      (∀ (k : Nat) (r : Request), conduct.sent[k]? = some r →
        env.server ((sessionBehind env fuel before .start).sent.length + k) r =
          server ((sessionBehind (env.against server clock) fuel before' .start).sent.length + k)
            r) →
      (∀ (moment : Moment) (k : Nat), looksAt conduct.sent.length moment k = true →
        env.client.clock moment ((sessionBehind env fuel before .start).sent.length + k) =
          clock moment
            ((sessionBehind (env.against server clock) fuel before' .start).sent.length + k)) →
      (conducts (env.against server clock) fuel (before' ++ job :: after') .start)[before'.length]? =
        some conduct) ∧
    ∀ (env : Environment) (fuel : Nat) (jobs : List Job), env.server.SetsNoCookies →
      conducts { env with keepsCookies := true } fuel jobs .start =
        conducts { env with keepsCookies := false } fuel jobs .start := by
  refine ⟨?_, fun env fuel jobs hcookies => conducts_keepsCookies hcookies jobs rfl⟩
  intro env server clock fuel before after before' after' job conduct hforgets hconduct hreplies
    hreadings
  rw [conducts_getElem?, Option.some.injEq, conduct_eq_first env hforgets] at hconduct
  rw [conducts_getElem?, Option.some.injEq, conduct_eq_first (env.against server clock) hforgets]
  subst hconduct
  generalize (sessionBehind env fuel before .start).sent.length = n at hreplies hreadings ⊢
  generalize (sessionBehind (env.against server clock) fuel before' .start).sent.length = n'
    at hreplies hreadings ⊢
  have halike : Alike (env.server.since n) (server.since n') (env.client.clock.since n)
      (clock.since n') ((job.outcome (env.since n) fuel .start).conduct .start).sent :=
    ⟨hreplies, fun k hk => hreadings .asking k (decide_eq_true hk),
      fun k hk hpos => hreadings .answered k (by simp [looksAt, hk, hpos]),
      fun k hk hpos => hreadings .judged k (by simp [looksAt, hk, hpos])⟩
  have hseen := run_congr { env.since n with documents := job.documents } job.workflow job.inputs
    .start fuel halike fun moment hmoment =>
      hreadings moment _ (by rcases hmoment with rfl | rfl <;> exact decide_eq_true rfl)
  exact congrArg (Outcome.conduct · .start) hseen

end Run

namespace Polling

/-- A server that is busy for the first request and sets a cookie with it. -/
def tracking : Server := fun n _ =>
  .response ⟨if n = 0 then 503 else 200, if n = 0 then [("Set-Cookie", "a=1")] else [], []⟩

def untiring : Server := fun _ _ => .response ⟨200, [], []⟩

def job : Run.Job := ⟨twoSteps, [], documents⟩

def noon : DateTime := ⟨default, ⟨12, 0, 0, 0⟩, none⟩

/-- Runs on the tracking server while a clock moves on to noon at the fourth request. -/
def tracked : Run.Environment :=
  (environment fun _ => true).against tracking fun _ n => if n < 3 then default else noon

theorem setsNoCookies_untiring : untiring.SetsNoCookies := by
  intro n request r hr
  cases hr
  rfl

end Polling

namespace Run

/-- The first run is left with a cookie; the second one goes as if it were the first one at noon on a
server that is never busy. -/
theorem conducts_isolated_tracked :
    (sessionBehind Polling.tracked 9 [Polling.job] .start).jar.isEmpty = false ∧
    (∃ conduct,
      (conducts Polling.tracked 9 [Polling.job, Polling.job] .start)[1]? = some conduct ∧
      (∀ (k : Nat) (r : Request), conduct.sent[k]? = some r →
        Polling.tracking (3 + k) r = Polling.untiring (0 + k) r) ∧
      (∀ (moment : Moment) (k : Nat), looksAt conduct.sent.length moment k = true →
        Polling.tracked.client.clock moment (3 + k) = Clock.still Polling.noon moment (0 + k)) ∧
      (conducts (Polling.tracked.against Polling.untiring (.still Polling.noon)) 9
        [Polling.job] .start)[0]? = some conduct) ∧
    Polling.untiring.SetsNoCookies ∧
    conducts { Polling.environment (fun _ => true) with
        server := Polling.untiring, keepsCookies := true } 9 [Polling.job, Polling.job] .start =
      conducts { Polling.environment (fun _ => true) with
        server := Polling.untiring, keepsCookies := false } 9 [Polling.job, Polling.job] .start := by
  obtain ⟨hisolated, hkept⟩ := conducts_isolated
  have hsent : (sessionBehind Polling.tracked 9 [Polling.job] .start).sent.length = 3 := by
    decide +kernel
  have hreplies : ∀ (k : Nat) (r : Request),
      Polling.tracking (3 + k) r = Polling.untiring (0 + k) r := by
    intro k r
    simp [Polling.tracking, Polling.untiring]
  have hreadings : ∀ (moment : Moment) (k : Nat),
      Polling.tracked.client.clock moment (3 + k) = Clock.still Polling.noon moment (0 + k) :=
    fun moment k => if_neg (by omega)
  refine ⟨by decide +kernel, ⟨_, conducts_getElem? _ 9 [Polling.job] [] Polling.job .start,
    fun k r _ => hreplies k r, fun moment k _ => hreadings moment k, ?_⟩,
    Polling.setsNoCookies_untiring,
    hkept { Polling.environment (fun _ => true) with server := Polling.untiring } 9 _
      Polling.setsNoCookies_untiring⟩
  refine hisolated Polling.tracked Polling.untiring (.still Polling.noon) 9 [Polling.job] [] [] []
    Polling.job _ rfl (conducts_getElem? _ 9 [Polling.job] [] Polling.job .start)
    (fun k r _ => ?_) fun moment k _ => ?_
  · rw [hsent]
    exact hreplies k r
  · rw [hsent]
    exact hreadings moment k

end Run
end Arazzo
