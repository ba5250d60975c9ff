import Arazzo.Proofs.Workflow.Walk
import Mathlib.Data.List.DropRight
import Mathlib.Data.List.SplitBy

/-!
# Visits

A history falls into visits: maximal blocks of attempts of which all but the last are to be repeated.
The first attempt of a visit sets the limit for all of it. The loop keeps a counter and a limit; they
always stand for the visit under way, which is the block of repeated attempts at the end of the
history.
-/

namespace Arazzo

/-- Whether an attempt is to be repeated. -/
def StepResult.isRetry (r : StepResult) : Bool := r.nextAction == some .retry

@[simp] theorem StepResult.isRetry_iff (r : StepResult) :
    r.isRetry = true ↔ r.nextAction = some .retry := by
  simp [isRetry]

theorem StepResult.isRetry_eq_false {r : StepResult} (h : r.nextAction ≠ some .retry) :
    r.isRetry = false := by
  rw [Bool.eq_false_iff, ne_eq, isRetry_iff]
  exact h

/-- The attempts that a declared limit allows; a missing limit and zero count as one. -/
def allowance (declared : Option Int) : Nat := max 1 (declared.getD 1).toNat

theorem one_le_allowance (declared : Option Int) : 1 ≤ allowance declared := le_max_left _ _

/-- The limit of a visit allows as many attempts as its allowance, but never less than one. -/
theorem limitOf_le_iff (declared : Option Int) (n : Nat) :
    Run.limitOf declared ≤ (n : Int) + 1 ↔ allowance declared ≤ n + 1 := by
  unfold Run.limitOf allowance Run.defaultRetryLimit
  cases declared with
  | none => simp
  | some limit =>
    dsimp only [Option.getD_some]
    split_ifs with h
    · subst h
      simp
    · omega

/-- The visits of a history. -/
def visits (history : List StepResult) : List (List StepResult) :=
  history.splitBy fun r _ => r.isRetry

/-- The attempts at the end of a history that are to be repeated: the visit under way. -/
def underWay (history : List StepResult) : List StepResult :=
  history.rtakeWhile StepResult.isRetry

/-- The history before the visit under way. -/
def settled (history : List StepResult) : List StepResult :=
  history.rdropWhile StepResult.isRetry

theorem settled_append_underWay (history : List StepResult) :
    settled history ++ underWay history = history :=
  List.rdropWhile_append_rtakeWhile

theorem isRetry_of_mem_underWay {history : List StepResult} {r : StepResult}
    (h : r ∈ underWay history) : r.isRetry = true :=
  List.mem_rtakeWhile_imp h

theorem underWay_concat (history : List StepResult) (r : StepResult) :
    underWay (history ++ [r]) = if r.isRetry then underWay history ++ [r] else [] :=
  List.rtakeWhile_concat _ _ _

theorem settled_concat (history : List StepResult) (r : StepResult) :
    settled (history ++ [r]) = if r.isRetry then settled history else history ++ [r] :=
  List.rdropWhile_concat _ _ _

/-- The end of the settled part is no attempt to be repeated, so a visit begins behind it. -/
theorem visits_settled_append (history : List StepResult) (rest : List StepResult) :
    visits (settled history ++ rest) = visits (settled history) ++ visits rest := by
  apply List.splitBy_append
  intro r hr t _
  obtain ⟨hnonempty, rfl⟩ := List.mem_getLast?_eq_getLast hr
  exact Bool.eq_false_iff.mpr (List.rdropWhile_last_not StepResult.isRetry history hnonempty)

/-- Attempts that are to be repeated, and one more, are one visit. -/
theorem visits_of_forall {block : List StepResult} (h : ∀ r ∈ block, r.isRetry = true)
    (r : StepResult) : visits (block ++ [r]) = [block ++ [r]] := by
  apply List.splitBy_of_isChain (by simp)
  rw [List.isChain_iff_getElem]
  intro i hi
  have hblock : i < block.length := by
    rw [List.length_append, List.length_singleton] at hi
    omega
  rw [List.getElem_append_left hblock]
  exact h _ (List.getElem_mem hblock)

theorem visits_concat (history : List StepResult) (r : StepResult) :
    visits (history ++ [r]) = visits (settled history) ++ [underWay history ++ [r]] := by
  calc visits (history ++ [r])
      = visits (settled history ++ (underWay history ++ [r])) := by
        rw [← List.append_assoc, settled_append_underWay]
    _ = visits (settled history) ++ visits (underWay history ++ [r]) :=
        visits_settled_append _ _
    _ = visits (settled history) ++ [underWay history ++ [r]] := by
        rw [visits_of_forall fun _ => isRetry_of_mem_underWay]

theorem visits_eq (history : List StepResult) :
    visits history = visits (settled history) ++
      if underWay history = [] then [] else [underWay history] := by
  have hvisits := visits_settled_append history (underWay history)
  rw [settled_append_underWay] at hvisits
  rw [hvisits]
  split_ifs with hempty
  · rw [hempty]
    rfl
  · congr 1
    rw [← List.dropLast_append_getLast hempty]
    exact visits_of_forall
      (fun r hr => isRetry_of_mem_underWay (List.dropLast_subset _ hr)) _

/-- The step at a position has been attempted with this result. -/
def AttemptedAt (around : Surroundings) (workflow : Workflow) (i : Nat) (r : StepResult) : Prop :=
  ∃ s : Stride, s.IsAttempt around workflow ∧ s.position = i ∧ s.result = r

/-- Attempts of one step, no more than the first of them allows. -/
structure IsVisit (around : Surroundings) (workflow : Workflow) (visit : List StepResult) :
    Prop where
  attempted : ∃ i, ∀ r ∈ visit, AttemptedAt around workflow i r
  length_le : ∀ first, visit.head? = some first → first.nextAction = some .retry →
    visit.length ≤ allowance first.retryLimit

/-- The last visit has as many attempts as its first one allows, and yet ends with a repetition. -/
def Exhausted (history : List StepResult) : Prop :=
  ∃ visit first last, (visits history).getLast? = some visit ∧ visit.head? = some first ∧
    visit.getLast? = some last ∧ visit.length = allowance first.retryLimit ∧
    last.nextAction = some .retry

theorem exhausted_concat (history : List StepResult) (r : StepResult) :
    Exhausted (history ++ [r]) ↔ ∃ first, (underWay history ++ [r]).head? = some first ∧
      (underWay history).length + 1 = allowance first.retryLimit ∧
      r.nextAction = some .retry := by
  unfold Exhausted
  rw [visits_concat]
  constructor
  · rintro ⟨visit, first, last, hvisit, hfirst, hlast, hlength, hretry⟩
    rw [List.getLast?_concat, Option.some.injEq] at hvisit
    subst hvisit
    rw [List.getLast?_concat, Option.some.injEq] at hlast
    subst hlast
    exact ⟨first, hfirst, by simpa using hlength, hretry⟩
  · rintro ⟨first, hfirst, hlength, hretry⟩
    exact ⟨_, first, r, List.getLast?_concat, hfirst, List.getLast?_concat,
      by simpa using hlength, hretry⟩

theorem not_exhausted_nil : ¬ Exhausted [] := by
  rintro ⟨visit, first, last, hvisit, -⟩
  cases hvisit

theorem Exhausted.isRetry {history : List StepResult} {r : StepResult}
    (h : Exhausted (history ++ [r])) : r.nextAction = some .retry := by
  obtain ⟨first, -, -, hretry⟩ := (exhausted_concat history r).mp h
  exact hretry

namespace Run

variable {around : Surroundings} {workflow : Workflow}

/-- What the counters of a run stand for between two attempts. -/
structure Counts (around : Surroundings) (workflow : Workflow) (p : Progress) : Prop where
  past : ∀ visit ∈ visits (settled p.history), IsVisit around workflow visit
  attempted : ∀ r ∈ underWay p.history, AttemptedAt around workflow p.index r
  retries_eq : p.retries = (underWay p.history).length
  retryLimit_eq : p.retryLimit = (underWay p.history).head?.map fun r => limitOf r.retryLimit
  room : ∀ first, (underWay p.history).head? = some first →
    (underWay p.history).length < allowance first.retryLimit
  delays_eq : p.delays.length = p.history.countP StepResult.isRetry

variable {p : Progress} {s : Stride}

/-- One more attempt stays within the limit of the visit. -/
theorem Counts.length_lt (h : Counts around workflow p) {r first : StepResult}
    (hfirst : (underWay p.history ++ [r]).head? = some first) :
    (underWay p.history).length < allowance first.retryLimit := by
  cases hblock : underWay p.history with
  | nil => exact one_le_allowance _
  | cons a rest =>
    have hroom := h.room a (by rw [hblock]; rfl)
    rw [hblock] at hfirst hroom
    cases hfirst
    exact hroom

theorem Counts.attempted_of_mem (h : Counts around workflow p) (hs : Begins around workflow p s)
    {r : StepResult} (hr : r ∈ underWay p.history ++ [s.result]) :
    AttemptedAt around workflow p.index r := by
  rcases List.mem_append.mp hr with hr | hr
  · exact h.attempted r hr
  · exact ⟨s, hs.attempt, hs.position_eq, (List.mem_singleton.mp hr).symm⟩

/-- The attempt that is to come belongs to the visit under way, or to a new one. -/
theorem Counts.isVisit (h : Counts around workflow p) (hs : Begins around workflow p s) :
    IsVisit around workflow (underWay p.history ++ [s.result]) where
  attempted := ⟨p.index, fun _ hr => h.attempted_of_mem hs hr⟩
  length_le := by
    intro first hfirst _
    rw [List.length_append, List.length_singleton]
    exact h.length_lt hfirst

theorem Counts.visits_record (h : Counts around workflow p) (hs : Begins around workflow p s) :
    ∀ visit ∈ Arazzo.visits (record p s.attempt s.closing).history,
      IsVisit around workflow visit := by
  intro visit hvisit
  have hhistory : (record p s.attempt s.closing).history = p.history ++ [s.result] := rfl
  rw [hhistory, visits_concat] at hvisit
  rcases List.mem_append.mp hvisit with hvisit | hvisit
  · exact h.past visit hvisit
  · exact List.mem_singleton.mp hvisit ▸ h.isVisit hs

theorem Counts.limit_eq (h : Counts around workflow p) {r first : StepResult}
    (hfirst : (underWay p.history ++ [r]).head? = some first) :
    p.retryLimit.getD (limitOf r.retryLimit) = limitOf first.retryLimit := by
  rw [h.retryLimit_eq]
  cases hblock : underWay p.history with
  | nil =>
    rw [hblock] at hfirst
    cases hfirst
    rfl
  | cons a rest =>
    rw [hblock] at hfirst
    cases hfirst
    rfl

/-- A repetition that is granted leaves room for the attempt that it asks for. -/
theorem Counts.retries_lt (h : Counts around workflow p) {r first : StepResult}
    (hfirst : (underWay p.history ++ [r]).head? = some first)
    (hless : (p.retries : Int) + 1 < p.retryLimit.getD (limitOf r.retryLimit)) :
    p.retries + 1 < allowance first.retryLimit := by
  rw [h.limit_eq hfirst] at hless
  by_contra hfull
  have hle := (limitOf_le_iff first.retryLimit p.retries).mpr (not_lt.mp hfull)
  omega

theorem head?_append_singleton_isSome (history : List StepResult) (r : StepResult) :
    ∃ first, (history ++ [r]).head? = some first := by
  cases history with
  | nil => exact ⟨r, rfl⟩
  | cons a rest => exact ⟨a, rfl⟩

/-- An attempt that is not to be repeated settles the visit; a new one begins elsewhere. -/
theorem Counts.visit (h : Counts around workflow p) (hs : Begins around workflow p s)
    (hretry : s.result.nextAction ≠ some .retry) (j : Nat) :
    Counts around workflow (visit (record p s.attempt s.closing) j) := by
  have hfalse := StepResult.isRetry_eq_false hretry
  have hhistory : (Run.visit (record p s.attempt s.closing) j).history =
      p.history ++ [s.result] := rfl
  have hunderWay : underWay (p.history ++ [s.result]) = [] := by
    rw [underWay_concat, hfalse]
    rfl
  have hsettled : settled (p.history ++ [s.result]) = p.history ++ [s.result] := by
    rw [settled_concat, hfalse]
    rfl
  refine ⟨?_, ?_, ?_, ?_, ?_, ?_⟩
  · rw [hhistory, hsettled]
    exact h.visits_record hs
  · rw [hhistory, hunderWay]
    exact fun r hr => absurd hr List.not_mem_nil
  · rw [hhistory, hunderWay]
    rfl
  · rw [hhistory, hunderWay]
    rfl
  · rw [hhistory, hunderWay]
    exact fun first hfirst => by cases hfirst
  · rw [hhistory, List.countP_append, List.countP_singleton, hfalse]
    exact h.delays_eq

/-- What is kept over one attempt behind which the run goes on. -/
theorem Counts.next {q : Progress} (h : Counts around workflow p)
    (hs : Begins around workflow p s)
    (hnext : Next around.sleep workflow (record p s.attempt s.closing) s.result (.inl q)) :
    Counts around workflow q := by
  cases hnext with
  | onward haction => exact h.visit hs (by simp [haction]) _
  | jump haction => exact h.visit hs (by simp [haction]) _
  | @again limit haction hlimit hless =>
    -- The visit under way grows by the attempt, and what is settled stays.
    have htrue : s.result.isRetry = true := s.result.isRetry_iff.mpr haction
    have hunderWay : underWay (p.history ++ [s.result]) = underWay p.history ++ [s.result] := by
      rw [underWay_concat, if_pos htrue]
    have hsettled : settled (p.history ++ [s.result]) = settled p.history := by
      rw [settled_concat, if_pos htrue]
    have hkept : limit = p.retryLimit.getD (limitOf s.result.retryLimit) := hlimit
    have hretries : (p.retries : Int) + 1 < p.retryLimit.getD (limitOf s.result.retryLimit) :=
      hlimit ▸ hless
    refine ⟨?_, ?_, ?_, ?_, ?_, ?_⟩
    · change ∀ v ∈ visits (settled (p.history ++ [s.result])), _
      rw [hsettled]
      exact h.past
    · change ∀ r ∈ underWay (p.history ++ [s.result]), AttemptedAt around workflow p.index r
      rw [hunderWay]
      exact fun r hr => h.attempted_of_mem hs hr
    · change p.retries + 1 = (underWay (p.history ++ [s.result])).length
      rw [hunderWay, List.length_append, h.retries_eq]
      rfl
    · change some limit = (underWay (p.history ++ [s.result])).head?.map _
      obtain ⟨first, hfirst⟩ := head?_append_singleton_isSome (underWay p.history) s.result
      rw [hunderWay, hfirst, hkept, h.limit_eq hfirst]
      rfl
    · change ∀ first, (underWay (p.history ++ [s.result])).head? = some first →
        (underWay (p.history ++ [s.result])).length < allowance first.retryLimit
      rw [hunderWay, List.length_append, List.length_singleton, ← h.retries_eq]
      exact fun first hfirst => h.retries_lt hfirst hretries
    · change (p.delays ++ [delayOf s.result.retryAfter]).length =
        (p.history ++ [s.result]).countP StepResult.isRetry
      rw [List.length_append, List.length_singleton, List.countP_append, List.countP_singleton,
        if_pos htrue, h.delays_eq]

variable {inputs : Entries} {session : Session} {trail : List Stride}

theorem counts_start (around : Surroundings) (workflow : Workflow) (inputs : Entries)
    (session : Session) : Counts around workflow (start inputs session) := by
  refine ⟨?_, ?_, rfl, rfl, ?_, rfl⟩
  · exact fun v hv => absurd hv List.not_mem_nil
  · exact fun r hr => absurd hr List.not_mem_nil
  · exact fun first hfirst => by cases hfirst

theorem Walked.counts (h : Walked around workflow (Run.start inputs session) trail p) :
    Counts around workflow p := by
  induction h with
  | nil => exact counts_start around workflow inputs session
  | concat _ hbegins hnext ih => exact ih.next hbegins hnext

/-- Between two attempts no visit is exhausted. -/
theorem Counts.not_exhausted (h : Counts around workflow p) : ¬ Exhausted p.history := by
  rcases List.eq_nil_or_concat' p.history with hnil | ⟨past, r, hpast⟩
  · rw [hnil]
    exact not_exhausted_nil
  · intro hexhausted
    have hroom := h.room
    rw [hpast] at hexhausted hroom
    rw [underWay_concat, if_pos (r.isRetry_iff.mpr hexhausted.isRetry)] at hroom
    obtain ⟨first, hfirst, hlength, -⟩ := (exhausted_concat past r).mp hexhausted
    have hless := hroom first hfirst
    rw [List.length_append, List.length_singleton] at hless
    omega

/-- A repetition is refused exactly when the visit that it would prolong is exhausted. -/
theorem Counts.exhausted_iff (h : Counts around workflow p) {r : StepResult}
    (hretry : r.nextAction = some .retry) :
    p.retryLimit.getD (limitOf r.retryLimit) ≤ (p.retries : Int) + 1 ↔
      Exhausted (p.history ++ [r]) := by
  obtain ⟨first, hfirst⟩ := head?_append_singleton_isSome (underWay p.history) r
  have hless := h.length_lt hfirst
  rw [h.limit_eq hfirst, limitOf_le_iff, exhausted_concat, h.retries_eq]
  constructor
  · intro hle
    exact ⟨first, hfirst, by omega, hretry⟩
  · rintro ⟨other, hother, hlength, -⟩
    rw [hfirst, Option.some.injEq] at hother
    subst hother
    exact hlength.ge

theorem Counts.visits_history (h : Counts around workflow p) :
    ∀ visit ∈ visits p.history, IsVisit around workflow visit := by
  intro visit hvisit
  rw [visits_eq] at hvisit
  rcases List.mem_append.mp hvisit with hvisit | hvisit
  · exact h.past visit hvisit
  · split_ifs at hvisit
    · exact absurd hvisit List.not_mem_nil
    · rw [List.mem_singleton] at hvisit
      subst hvisit
      exact ⟨⟨p.index, h.attempted⟩, fun first hfirst _ => (h.room first hfirst).le⟩

theorem stepFailed_ne_retriesExhausted (a b : String) : stepFailed a ≠ retriesExhausted b := by
  intro h
  have hends := congrArg (fun s : String => s.toList.reverse.take 3) h
  simp [stepFailed, retriesExhausted, String.toList_append] at hends

/-- What the counters of a run have come to when it stops. -/
structure Settles (around : Surroundings) (workflow : Workflow) (p : Progress) (stop : Stop) :
    Prop where
  visits : ∀ visit ∈ visits p.history, IsVisit around workflow visit
  exhausted_iff : (∃ step, stop = .failure (retriesExhausted step)) ↔ Exhausted p.history
  delays_of_exhausted : Exhausted p.history →
    p.delays.length + 1 = p.history.countP StepResult.isRetry
  delays_of_not_exhausted : ¬ Exhausted p.history →
    p.delays.length = p.history.countP StepResult.isRetry

theorem Counts.settles (h : Counts around workflow p) {stop : Stop}
    (hstop : ∀ step, stop ≠ .failure (retriesExhausted step)) :
    Settles around workflow p stop := by
  refine ⟨h.visits_history, ⟨?_, ?_⟩, ?_, ?_⟩
  · rintro ⟨step, hstep⟩
    exact absurd hstep (hstop step)
  · exact fun hexhausted => absurd hexhausted h.not_exhausted
  · exact fun hexhausted => absurd hexhausted h.not_exhausted
  · exact fun _ => h.delays_eq

theorem Counts.settles_record (h : Counts around workflow p) (hs : Begins around workflow p s)
    {stop : Stop} (hstop : ∀ step, stop ≠ .failure (retriesExhausted step))
    (hretry : s.result.nextAction ≠ some .retry) :
    Settles around workflow (record p s.attempt s.closing) stop := by
  have hnot : ¬ Exhausted (p.history ++ [s.result]) := fun hexhausted =>
    hretry hexhausted.isRetry
  have hfalse := StepResult.isRetry_eq_false hretry
  refine ⟨h.visits_record hs, ⟨?_, ?_⟩, ?_, ?_⟩
  · rintro ⟨step, hstep⟩
    exact absurd hstep (hstop step)
  · exact fun hexhausted => absurd hexhausted hnot
  · exact fun hexhausted => absurd hexhausted hnot
  · intro _
    change p.delays.length = (p.history ++ [s.result]).countP StepResult.isRetry
    rw [List.countP_append, List.countP_singleton, hfalse, h.delays_eq]
    rfl

theorem Halted.settles {stop : Stop}
    (h : Halted around workflow (Run.start inputs session) trail p stop)
    (hforeseen : ∀ d, stop ≠ .fault (.defect d)) : Settles around workflow p stop := by
  cases h with
  | past hwalked => exact hwalked.counts.settles (by simp)
  | @fault _ q _ _ closing hwalked =>
    have hcounts := hwalked.counts
    have hmoved : Counts around workflow { q with session := closing } :=
      ⟨hcounts.past, hcounts.attempted, hcounts.retries_eq, hcounts.retryLimit_eq, hcounts.room,
        hcounts.delays_eq⟩
    exact hmoved.settles (by simp)
  | @last _ q s _ hwalked hbegins hnext =>
    have hcounts := hwalked.counts
    cases hnext with
    | failed haction =>
      exact hcounts.settles_record hbegins
        (fun step hstep => stepFailed_ne_retriesExhausted _ step (Stop.failure.inj hstep))
        (by simp [haction])
    | finished haction => exact hcounts.settles_record hbegins (by simp) (by simp [haction])
    | finishedFailed haction =>
      exact hcounts.settles_record hbegins
        (fun step hstep => stepFailed_ne_retriesExhausted _ step (Stop.failure.inj hstep))
        (by simp [haction])
    | lost haction => exact hcounts.settles_record hbegins (by simp) (by simp [haction])
    | @restless _ d => exact absurd rfl (hforeseen d)
    | exhausted haction hlimit hle =>
      have hexhausted : Exhausted (q.history ++ [s.result]) :=
        (hcounts.exhausted_iff haction).mp (hlimit ▸ hle)
      refine ⟨hcounts.visits_record hbegins, ⟨fun _ => hexhausted, fun _ => ⟨_, rfl⟩⟩, ?_, ?_⟩
      · intro _
        change q.delays.length + 1 = (q.history ++ [s.result]).countP StepResult.isRetry
        rw [List.countP_append, List.countP_singleton, if_pos (s.result.isRetry_iff.mpr haction),
          hcounts.delays_eq]
      · exact fun hnot => absurd hexhausted hnot

/-- Whether a run has ended because a repetition was refused. -/
def EndsExhausted (result : WorkflowResult) : Prop :=
  result.status = .failure ∧ ∃ step, result.reason = some (retriesExhausted step)

theorem Concludes.endsExhausted_iff {context : Context} {result : WorkflowResult} {stop : Stop}
    (h : Concludes workflow context result stop) :
    EndsExhausted result ↔ ∃ step, stop = .failure (retriesExhausted step) := by
  unfold EndsExhausted
  constructor
  · rintro ⟨hstatus, step, hreason⟩
    exact ⟨step, (h.failure_iff _).mp ⟨hstatus, hreason⟩⟩
  · rintro ⟨step, hstop⟩
    obtain ⟨hstatus, hreason⟩ := (h.failure_iff _).mpr hstop
    exact ⟨hstatus, step, hreason⟩

/-- The visits of a run: each is made of attempts of one step, within the limit that its first
attempt sets, and only an exhausted last visit ends the run for that reason. Every repetition but a
refused one is preceded by a delay. -/
theorem run_visits {env : Environment} {fuel : Nat} {result : WorkflowResult}
    (returned : (run env workflow inputs session fuel).result = some (.ok result)) :
    (∀ visit ∈ visits result.stepResults, IsVisit (env.around workflow) workflow visit) ∧
    (EndsExhausted result ↔ Exhausted result.stepResults) ∧
    (EndsExhausted result → (run env workflow inputs session fuel).delays.length + 1 =
      result.stepResults.countP StepResult.isRetry) ∧
    (¬ EndsExhausted result → (run env workflow inputs session fuel).delays.length =
      result.stepResults.countP StepResult.isRetry) := by
  rcases returned_cases returned with ⟨-, hhistory, hstatus, hdelays, -⟩ |
    ⟨-, trail, p, stop, hhalted, hhistory, hconcludes, hdelays⟩
  · have hnot : ¬ EndsExhausted result := by simp [EndsExhausted, hstatus]
    rw [hhistory, hdelays]
    refine ⟨?_, ?_, ?_, ?_⟩
    · exact fun v hv => absurd hv List.not_mem_nil
    · exact ⟨fun h => absurd h hnot, fun h => absurd h not_exhausted_nil⟩
    · exact fun h => absurd h hnot
    · exact fun _ => rfl
  · have hsettles := hhalted.settles hconcludes.foreseen
    have hiff := hconcludes.endsExhausted_iff.trans hsettles.exhausted_iff
    rw [hhistory, hdelays]
    exact ⟨hsettles.visits, hiff, fun h => hsettles.delays_of_exhausted (hiff.mp h),
      fun h => hsettles.delays_of_not_exhausted fun hexhausted => h (hiff.mpr hexhausted)⟩

end Run

namespace Polling

/-- A step that asks until the answer is 200, at most as often as the limit allows. -/
def step (id : String) (limit : Option Int) : Step where
  stepId := id
  description := none
  operationId := some "ask"
  operationPath := none
  workflowId := none
  parameters := none
  requestBody := none
  successCriteria := some [⟨"$statusCode == 200", none, none, []⟩]
  onSuccess := none
  onFailure := some [.given ⟨"again", .retry, none, none, none, limit, none, []⟩]
  outputs := some [("code", "$statusCode")]
  extra := []

def workflow (steps : List Step) : Workflow where
  workflowId := "poll"
  summary := none
  description := none
  inputs := none
  dependsOn := none
  steps := steps
  successActions := none
  failureActions := none
  outputs := some [("code", "$steps.first.outputs.code")]
  parameters := none
  extra := []

def documents : ApiDocuments :=
  [("api", .map (Entries.ofTexts
    [("servers", .list [.map (Entries.ofTexts [("url", .text "http://localhost")])]),
     ("paths", .map (Entries.ofTexts [("/answer", .map (Entries.ofTexts
       [("get", .map (Entries.ofTexts [("operationId", .text "ask")]))]))]))]))]

/-- Two steps that ask; the second one gives up earlier. -/
def twoSteps : Workflow := workflow [step "first" (some 9), step "second" (some 3)]

/-- A server that is busy for all requests but some. -/
def environment (answered : Nat → Bool) : Run.Environment where
  documents := documents
  server := fun n _ => .response ⟨if answered n then 200 else 503, [], []⟩
  client := ⟨Client.defaultHeaders, true, true, .still default⟩
  sleep := fun _ => none
  keepsCookies := false

/-- Only the third request is answered. -/
def givesUp : Run.Outcome := Run.run (environment (· == 2)) twoSteps [] .start 9

/-- All requests but the first are answered. -/
def answered : Run.Outcome := Run.run (environment (· ≠ 0)) twoSteps [] .start 9

end Polling

namespace Run

/-- The first step is answered at its third attempt; the third attempt of the second is its last. -/
theorem run_visits_polling : ∃ result, Polling.givesUp.result = some (.ok result) ∧
    (∀ visit ∈ visits result.stepResults,
      IsVisit ((Polling.environment (· == 2)).around Polling.twoSteps) Polling.twoSteps visit) ∧
    (EndsExhausted result ↔ Exhausted result.stepResults) ∧
    (EndsExhausted result →
      Polling.givesUp.delays.length + 1 = result.stepResults.countP StepResult.isRetry) ∧
    (¬ EndsExhausted result →
      Polling.givesUp.delays.length = result.stepResults.countP StepResult.isRetry) := by
  have hstatus : Polling.givesUp.status? = some .failure := by decide +kernel
  obtain ⟨result, hresult, -⟩ := Outcome.exists_result hstatus
  exact ⟨result, hresult, run_visits hresult⟩

end Run
end Arazzo
