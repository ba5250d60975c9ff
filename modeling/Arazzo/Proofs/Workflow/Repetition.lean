import Arazzo.Proofs.Http.Header
import Arazzo.Proofs.Workflow.Calls
import Arazzo.Proofs.Workflow.Memory

/-!
# Requests that repeat

A step that refers to nothing but inputs builds the same request whenever it is attempted, apart from
cookies: the inputs of a run never change, and the session has a say in the cookies only. So whatever
the server answers, a repetition and a later visit of the step ask for the same thing once more.
-/

namespace Arazzo

/-- A text whose value is settled by the inputs of a run: a literal, or a reference to an input. -/
inductive IsSteady (text : String) : Prop
  | literal : text.toList.head? ≠ some '$' → IsSteady text
  | input {names : List String} : (∀ name ∈ names, Path.isIdentifier name = true) →
      text.toList = '$' :: ("inputs".toList ++ Path.behindDots names) → IsSteady text

/-- A step that refers to nothing but inputs, given the parameters that it shares with others. -/
structure IsSelfContained (step : Step) (shared : Parameters) : Prop where
  parameter : ∀ p text, .given p ∈ step.parameters.getD [] ++ shared → p.value = .text text →
    IsSteady text
  body : ∀ body text, step.requestBody = some body → body.payload.Mentions text → IsSteady text

/-! ## Values -/

section
variable {context context' : Context} (hinputs : context.inputs = context'.inputs) (site : Site)

include hinputs

theorem IsSteady.operand_eq {text : String} (h : IsSteady text) :
    (context.scope site).operand text = (context'.scope site).operand text := by
  cases h with
  | literal hhead =>
    rw [Scope.operand, Scope.operand, Scope.denoted, Scope.denoted, if_neg hhead, if_neg hhead]
  | input hnames htext =>
    rw [context.operand_input site hnames htext, context'.operand_input site hnames htext, hinputs]

theorem value_eq_of_isSteady {v : Value} (h : ∀ text, v = .text text → IsSteady text) :
    (context.scope site).value v = (context'.scope site).value v := by
  cases v with
  | scalar s =>
    cases s with
    | text text => exact (h text rfl).operand_eq hinputs site
    | _ => rfl
  | _ => rfl

theorem resolve_eq_of_isSteady {v : Value} (h : ∀ text, v.Mentions text → IsSteady text) :
    (context.scope site).resolve v = (context'.scope site).resolve v := by
  induction v using Value.induction_members with
  | scalar s => exact value_eq_of_isSteady hinputs site fun text heq => h text (heq ▸ .text)
  | tuple items => rfl
  | set members => rfl
  | list items ih =>
    have hitems : (context.scope site).resolveItems items =
        (context'.scope site).resolveItems items := by
      refine traverse_congr ?_ (fun v rest hv hrest => ?_)
        fun v hv => ih v hv fun text ht => h text (.item hv ht)
      · rfl
      · rw [Scope.resolveItems, Scope.resolveItems, hv, hrest]
    rw [Scope.resolve, Scope.resolve, hitems]
  | map entries ih =>
    have hentries : (context.scope site).resolveEntries entries =
        (context'.scope site).resolveEntries entries := by
      have hentry : ∀ entry ∈ entries,
          (context.scope site).resolve entry.2 = (context'.scope site).resolve entry.2 := by
        rintro ⟨k, v⟩ hv
        exact ih k v hv fun text ht => h text (.entry hv ht)
      refine traverse_congr ?_ (fun entry rest hentry hrest => ?_) hentry
      · rfl
      · rw [Scope.resolveEntries, Scope.resolveEntries, hentry, hrest]
    rw [Scope.resolve, Scope.resolve, hentries]

theorem ofParameters_eq_of_isSteady {parameters : Parameters}
    (h : ∀ p text, .given p ∈ parameters → p.value = .text text → IsSteady text) :
    ParameterValues.ofParameters (context.scope site) site parameters =
      ParameterValues.ofParameters (context'.scope site) site parameters := by
  have hadd : ∀ item ∈ parameters, ∀ values,
      ParameterValues.add (context.scope site) site values item =
        ParameterValues.add (context'.scope site) site values item := by
    intro item hitem values
    cases item with
    | reference r => rfl
    | given p =>
      rw [ParameterValues.add, ParameterValues.add,
        value_eq_of_isSteady hinputs site fun text => h p text hitem]
  unfold ParameterValues.ofParameters
  generalize ParameterValues.empty = values
  induction parameters generalizing values with
  | nil => rfl
  | cons item rest ih =>
    rw [List.foldlM_cons, List.foldlM_cons, hadd item List.mem_cons_self]
    congr 1
    funext next
    exact ih (fun p text hp => h p text (List.mem_cons_of_mem _ hp))
      (fun item hitem => hadd item (List.mem_cons_of_mem _ hitem)) next

theorem text_eq_of_isSteady {body : RequestBody}
    (h : ∀ text, body.payload.Mentions text → IsSteady text) :
    body.text (context.scope site) site = body.text (context'.scope site) site := by
  have hjson : RequestBody.jsonText (context.scope site) body.payload =
      RequestBody.jsonText (context'.scope site) body.payload := by
    rw [RequestBody.jsonText, RequestBody.jsonText, resolve_eq_of_isSteady hinputs site h]
  have hform : ∀ entries, body.payload = .map entries →
      RequestBody.formText (context.scope site) entries =
        RequestBody.formText (context'.scope site) entries := by
    intro entries hpayload
    have hvalues : RequestBody.formValues (context.scope site) entries =
        RequestBody.formValues (context'.scope site) entries := by
      have hentry : ∀ entry ∈ entries,
          (context.scope site).value entry.2 = (context'.scope site).value entry.2 := by
        rintro ⟨k, v⟩ hv
        refine value_eq_of_isSteady hinputs site fun text heq => h text ?_
        have htext : v = .text text := heq
        exact hpayload ▸ .entry hv (htext ▸ .text)
      refine traverse_congr ?_ (fun entry rest hentry hrest => ?_) hentry
      · rfl
      · rw [RequestBody.formValues, RequestBody.formValues, hentry, hrest]
    rw [RequestBody.formText, RequestBody.formText, hvalues]
  unfold RequestBody.text
  cases hpayload : body.payload with
  | map entries =>
    rw [hpayload] at hjson
    simp only [hjson, hform entries hpayload]
  | list items =>
    rw [hpayload] at hjson
    simp only [hjson]
  | scalar s => cases s <;> rfl
  | _ => rfl

end

/-! ## Requests -/

/-- The session that a request is built in has a say in its cookies only. -/
theorem Call.assemble_cookieless (call : Call) (site : Site) (client : Client)
    (session session' : Session) (values : ParameterValues) (body : List UInt8) :
    (call.assemble site client session values body).map Request.cookieless =
      (call.assemble site client session' values body).map Request.cookieless := by
  refine map_bind_congr fun server => map_bind_congr fun text => map_bind_congr fun lines => ?_
  cases (Url.read text.toList).bind Url.forRequest with
  | error fault => cases fault <;> rfl
  | ok url =>
    have hsame := (client.request_cookieless session
      (String.ofList (Text.upper call.operation.method.toList)) url lines body).trans
      (client.request_cookieless session' _ url lines body).symm
    dsimp only
    cases hfirst : client.request session
        (String.ofList (Text.upper call.operation.method.toList)) url lines body with
    | error fault =>
      cases hsecond : client.request session'
          (String.ofList (Text.upper call.operation.method.toList)) url lines body with
      | error fault' =>
        simp only [hfirst, hsecond, Except.map, Except.error.injEq] at hsame
        rw [hsame]
      | ok request' => simp [hfirst, hsecond, Except.map] at hsame
    | ok request =>
      cases hsecond : client.request session'
          (String.ofList (Text.upper call.operation.method.toList)) url lines body with
      | error fault' => simp [hfirst, hsecond, Except.map] at hsame
      | ok request' => simpa [hfirst, hsecond, Except.map] using hsame

/-- A step that refers to nothing but inputs builds one request in all contexts that have the same
inputs, apart from its cookies. -/
theorem IsSelfContained.request_cookieless {around : Surroundings} {step : Step}
    {shared : Parameters} {context context' : Context} (h : IsSelfContained step shared)
    (hinputs : context.inputs = context'.inputs) (session session' : Session) :
    (Attempt.request around step shared context session).map Request.cookieless =
      (Attempt.request around step shared context' session').map Request.cookieless := by
  unfold Attempt.request
  cases hcall : Attempt.callOf around step shared with
  | error f => simp only [bind, Except.bind]
  | ok call =>
    obtain ⟨id, operation, -, -, -, rfl⟩ := Attempt.exists_operation_of_callOf hcall
    have hown : ∀ site, ParameterValues.ofParameters (context.scope site) site
        (step.parameters.getD []) =
        ParameterValues.ofParameters (context'.scope site) site (step.parameters.getD []) :=
      fun site => ofParameters_eq_of_isSteady hinputs site fun p text hp =>
        h.parameter p text (List.mem_append_left shared hp)
    have hshared : ∀ site, ParameterValues.ofParameters (context.scope site) site shared =
        ParameterValues.ofParameters (context'.scope site) site shared :=
      fun site => ofParameters_eq_of_isSteady hinputs site fun p text hp =>
        h.parameter p text (List.mem_append_right _ hp)
    have hbytes : ∀ site, Call.bytes ⟨operation, step.parameters.getD [], shared, step.requestBody⟩
        (context.scope site) site =
        Call.bytes ⟨operation, step.parameters.getD [], shared, step.requestBody⟩
        (context'.scope site) site := by
      intro site
      unfold Call.bytes
      cases hbody : step.requestBody with
      | none => rfl
      | some body =>
        simp only [text_eq_of_isSteady hinputs site fun text => h.body body text hbody]
    show (Call.request _ _ _ around.client session).map Request.cookieless =
      (Call.request _ _ _ around.client session').map Request.cookieless
    rw [Call.request_eq, Call.request_eq, hown, hshared, hbytes]
    exact map_bind_congr fun own => map_bind_congr fun given => map_bind_congr fun bytes =>
      Call.assemble_cookieless _ _ around.client session session' _ bytes

/-! ## Runs -/

section
variable {around : Surroundings} {workflow : Workflow} {inputs : Entries} {session : Session}
  {trail : List Stride}

/-- The step at a position builds a request behind a trail. -/
structure Asks (around : Surroundings) (workflow : Workflow) (inputs : Entries)
    (session : Session) (trail : List Stride) (i : Nat) (r : Request) : Prop where
  leadsTo : LeadsTo workflow trail i
  built : ∃ step, workflow.steps[i]? = some step ∧
    Attempt.request around step (workflow.parameters.getD []) (contextAfter inputs trail)
      (sessionAfter session trail) = .ok r

/-- The requests that a run hands over, with the positions of their steps. A last request may have led
to no result. -/
def handed (trail : List Stride) (extra : Option (Nat × Request)) : List (Nat × Request) :=
  trail.map (fun s => (s.position, s.request)) ++ extra.toList

theorem map_snd_handed (trail : List Stride) (extra : Option (Nat × Request)) :
    (handed trail extra).map Prod.snd =
      trail.map Stride.request ++ (extra.map Prod.snd).toList := by
  cases extra <;> simp [handed]

theorem IsTrail.before_inputs (h : IsTrail around workflow inputs session trail) {s : Stride}
    (hs : s ∈ trail) : s.before.inputs = inputs := by
  obtain ⟨past, rest, rfl⟩ := List.append_of_mem hs
  rw [h.before_eq]
  exact h.of_append.remembers.inputs_eq

/-- Every request is built by the step at its position, in a context that has the inputs of the run. -/
theorem IsTrail.exists_built (h : IsTrail around workflow inputs session trail)
    {extra : Option (Nat × Request)}
    (hextra : ∀ i r, extra = some (i, r) → Asks around workflow inputs session trail i r)
    {i : Nat} {r : Request} (hr : (i, r) ∈ handed trail extra) :
    ∃ step context opening, workflow.steps[i]? = some step ∧ context.inputs = inputs ∧
      Attempt.request around step (workflow.parameters.getD []) context opening = .ok r := by
  rcases List.mem_append.mp hr with hmem | hmem
  · obtain ⟨s, hs, heq⟩ := List.mem_map.mp hmem
    cases heq
    have hattempt := h.attempts s hs
    exact ⟨s.step, s.before, s.opening, hattempt.step_eq, h.before_inputs hs, hattempt.request_eq⟩
  · obtain ⟨-, step, hstep, hbuilt⟩ := hextra i r (Option.mem_toList.mp hmem)
    exact ⟨step, _, _, hstep, h.remembers.inputs_eq, hbuilt⟩

/-- What a self-contained step hands over is the request that it builds at the start, apart from
cookies. -/
theorem IsTrail.request_start (h : IsTrail around workflow inputs session trail)
    {extra : Option (Nat × Request)}
    (hextra : ∀ i r, extra = some (i, r) → Asks around workflow inputs session trail i r)
    {i : Nat} {step : Step} (hstep : workflow.steps[i]? = some step)
    (hcontained : IsSelfContained step (workflow.parameters.getD [])) {r : Request}
    (hr : (i, r) ∈ handed trail extra) :
    (Attempt.request around step (workflow.parameters.getD []) (.start inputs) .start).map
      Request.cookieless = .ok r.cookieless := by
  obtain ⟨step', context, opening, hstep', hinputs, hbuilt⟩ := h.exists_built hextra hr
  obtain rfl := Option.some.inj (hstep.symm.trans hstep')
  rw [hcontained.request_cookieless hinputs.symm .start opening, hbuilt]
  rfl

end

namespace Run

variable {around : Surroundings} {workflow : Workflow} {inputs : Entries} {session : Session}

/-- However a run stops, it has handed over the requests of its trail, and a last one if the step
behind the trail broke off with it. -/
theorem Halted.exists_handed {trail : List Stride} {p : Progress} {stop : Stop}
    (h : Halted around workflow (start inputs session) trail p stop) :
    ∃ extra, p.session.calls = session.calls ++ (handed trail extra).map Prod.snd ∧
      ∀ i r, extra = some (i, r) → Asks around workflow inputs session trail i r := by
  cases h with
  | past hwalked =>
    refine ⟨none, ?_, by simp⟩
    rw [hwalked.calls_eq, map_snd_handed]
    simp
  | @fault _ q step f closing hwalked hstep hexecute =>
    have hcalls := Attempt.execute_calls around step (workflow.parameters.getD []) q.context q.session
    rw [hexecute, hwalked.calls_eq] at hcalls
    have hcarries := hwalked.carries
    cases hrequest : Attempt.request around step (workflow.parameters.getD []) q.context
        q.session with
    | error f =>
      refine ⟨none, ?_, by simp⟩
      rw [map_snd_handed]
      simpa [hrequest, Except.toOption] using hcalls
    | ok r =>
      refine ⟨some (q.index, r), ?_, ?_⟩
      · rw [map_snd_handed]
        simpa [hrequest, Except.toOption] using hcalls
      · intro i r' heq
        cases heq
        rw [hcarries.context_eq, hcarries.session_eq] at hrequest
        exact ⟨hcarries.leadsTo, step, hstep, hrequest⟩
  | last hwalked hbegins =>
    refine ⟨none, ?_, by simp⟩
    rw [map_snd_handed, Option.map_none, Option.toList_none, List.append_nil]
    exact hbegins.calls_eq hwalked.calls_eq

theorem exists_handed_of_walk {p : Progress} {stop : Option Stop} {fuel : Nat}
    (h : walk around workflow inputs session fuel = (p, stop)) :
    ∃ trail extra, IsTrail around workflow inputs session trail ∧
      p.session.calls = session.calls ++ (handed trail extra).map Prod.snd ∧
      ∀ i r, extra = some (i, r) → Asks around workflow inputs session trail i r := by
  unfold walk at h
  cases hrefusal : refusal? workflow with
  | some f =>
    rw [hrefusal] at h
    cases h
    exact ⟨[], none, .nil, by simp [handed, start], by simp⟩
  | none =>
    rw [hrefusal] at h
    cases stop with
    | none =>
      obtain ⟨trail, hwalked, -⟩ := exists_walked_of_loop .nil h
      refine ⟨trail, none, hwalked.isTrail, ?_, by simp⟩
      rw [hwalked.calls_eq, map_snd_handed]
      simp
    | some stop =>
      obtain ⟨trail, hhalted⟩ := exists_halted_of_loop .nil h
      obtain ⟨extra, hcalls, hextra⟩ := hhalted.exists_handed
      exact ⟨trail, extra, hhalted.isTrail, hcalls, hextra⟩

/-- A step that refers to nothing but inputs asks for the same thing whenever a run attempts it,
whatever has been answered in between. -/
theorem run_repeats (env : Environment) (workflow : Workflow) (inputs : Entries) (session : Session)
    (fuel : Nat) :
    ∃ trail extra,
      IsTrail (env.around workflow) workflow inputs (env.opening session) trail ∧
      (run env workflow inputs session fuel).session.calls =
        session.calls ++ (handed trail extra).map Prod.snd ∧
      (∀ i r, extra = some (i, r) →
        Asks (env.around workflow) workflow inputs (env.opening session) trail i r) ∧
      ∀ i step, workflow.steps[i]? = some step →
        IsSelfContained step (workflow.parameters.getD []) →
        ∀ r r', (i, r) ∈ handed trail extra → (i, r') ∈ handed trail extra →
          r.method = r'.method ∧ r.url = r'.url ∧ r.body = r'.body ∧
          r.headers.erase "Cookie" = r'.headers.erase "Cookie" := by
  cases hwalk : walk (env.around workflow) workflow inputs (env.opening session) fuel with
  | mk p stop =>
    obtain ⟨trail, extra, htrail, hcalls, hextra⟩ := exists_handed_of_walk hwalk
    refine ⟨trail, extra, htrail, ?_, hextra, fun i step hstep hcontained r r' hr hr' => ?_⟩
    · rw [run, hwalk, hcalls, opening_calls]
    · have hfirst := htrail.request_start hextra hstep hcontained hr
      have hsecond := htrail.request_start hextra hstep hcontained hr'
      have hsame : r.cookieless = r'.cookieless := Except.ok.inj (hfirst.symm.trans hsecond)
      exact ⟨congrArg (·.method) hsame, congrArg (·.url) hsame, congrArg (·.body) hsame,
        congrArg (·.headers) hsame⟩

end Run

namespace Polling

/-- A step that asks with an input. -/
def inquiring : Step :=
  { step "first" (some 9) with
    parameters := some [.given ⟨"q", .query, .text "$inputs.q", []⟩] }

/-- The first request is refused, and repeated. -/
def inquiry : Run.Outcome :=
  Run.run (environment (· ≠ 0)) (workflow [inquiring]) [(.text "q", .text "7")] .start 9

theorem isSelfContained_inquiring : IsSelfContained inquiring [] := by
  refine ⟨fun p text hp htext => ?_, fun body text hbody => by cases hbody⟩
  obtain rfl : p = ⟨"q", .query, .text "$inputs.q", []⟩ := by simpa [inquiring] using hp
  cases htext
  exact .input (List.forall_mem_singleton.mpr (by decide : Path.isIdentifier "q" = true)) (by decide)

end Polling

namespace Run

/-- Both requests ask for the same thing. -/
theorem run_repeats_inquiry : ∃ r r', Polling.inquiry.session.calls = [r, r'] ∧
    IsSelfContained Polling.inquiring [] ∧
    r.method = r'.method ∧ r.url = r'.url ∧ r.body = r'.body ∧
    r.headers.erase "Cookie" = r'.headers.erase "Cookie" := by
  have hlength : Polling.inquiry.session.calls.length = 2 := by decide +kernel
  obtain ⟨trail, extra, htrail, hcalls, hextra, hsame⟩ := run_repeats
    (Polling.environment (· ≠ 0)) (Polling.workflow [Polling.inquiring])
    [(.text "q", .text "7")] .start 9
  have hposition : ∀ entry ∈ handed trail extra, entry.1 = 0 := by
    rintro ⟨i, r⟩ hr
    obtain ⟨step, -, -, hstep, -⟩ := htrail.exists_built hextra hr
    have hi : i < 1 := (List.getElem?_eq_some_iff.mp hstep).1
    exact Nat.lt_one_iff.mp hi
  have hcalls' : Polling.inquiry.session.calls = (handed trail extra).map Prod.snd := by
    rw [Polling.inquiry, hcalls]
    exact List.nil_append _
  rw [hcalls', List.length_map, List.length_eq_two] at hlength
  obtain ⟨⟨i, r⟩, ⟨i', r'⟩, htwo⟩ := hlength
  rw [htwo] at hposition hsame hcalls'
  obtain rfl : i = 0 := hposition _ List.mem_cons_self
  obtain rfl : i' = 0 := hposition (i', r') (List.mem_pair.mpr (.inr rfl))
  exact ⟨r, r', hcalls', Polling.isSelfContained_inquiring, hsame 0 Polling.inquiring rfl
    Polling.isSelfContained_inquiring r r' List.mem_cons_self (List.mem_pair.mpr (.inr rfl))⟩

end Run
end Arazzo
