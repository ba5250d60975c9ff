import Arazzo.Proofs.Expression.Defects
import Arazzo.Proofs.Http.Client
import Arazzo.Proofs.Workflow.Building
import Arazzo.Proofs.Workflow.Faults

/-!
# Defects of steps

Given documents that say where the server is and what its paths are, few defects can stop a step.
Before its request they are those of expressions, of values that cannot be written and of a host that
cannot be read. Behind its response they are those of expressions, of a criterion that is named by too
long a number, and of a delay that is too long for a number of seconds.
-/

namespace Arazzo

/-- The defects that writing a value into a request can end in. -/
inductive Defect.IsOfWriting : Defect → Prop
  | noJsonForm : IsOfWriting .noJsonForm
  | numberTooLong : IsOfWriting .numberTooLong
  | circularValue : IsOfWriting .circularValue
  | unencodableText : IsOfWriting .unencodableText

/-- The defects that building a request can end in. -/
inductive Defect.IsOfBuilding : Defect → Prop
  | evaluation {d : Defect} : d.IsOfEvaluation → IsOfBuilding d
  | writing {d : Defect} : d.IsOfWriting → IsOfBuilding d
  | unreadableHost (fault : NameFault) : IsOfBuilding (.unreadableHost fault)

open Defect (IsOfEvaluation IsOfWriting IsOfBuilding)

theorem Fault.DefectIn.mono {K L : Defect → Prop} {f : Fault} (h : f.DefectIn K)
    (hKL : ∀ d, K d → L d) : f.DefectIn L := by
  cases f with
  | failure f => trivial
  | defect d => exact hKL d h

/-! ## Writing values -/

namespace Json

variable (style : Style)

theorem writeInteger_errors (i : Int) : ErrorsIn IsOfWriting (writeInteger i) := by
  unfold writeInteger
  split_ifs
  · exact .error .numberTooLong
  · exact .ok _

theorem keyText_errors (k : Scalar) : ErrorsIn IsOfWriting (keyText k) := by
  unfold keyText
  split
  · exact .ok _
  · exact .ok _
  · exact .ok _
  · exact .ok _
  · exact writeInteger_errors _
  · exact .ok _
  · exact .error .noJsonForm

theorem writeOther_errors (v : Value) : ErrorsIn IsOfWriting (writeOther style v) := by
  unfold writeOther
  split_ifs
  · exact .error .noJsonForm
  · exact .error .numberTooLong
  · exact .ok _

theorem writeScalar_errors (s : Scalar) : ErrorsIn IsOfWriting (writeScalar style s) := by
  unfold writeScalar
  split
  · exact .ok _
  · exact .ok _
  · exact .ok _
  · exact writeInteger_errors _
  · exact .ok _
  · exact .ok _
  · exact .error .circularValue
  · exact writeOther_errors style _

theorem writeItems_errors {items : List Value} {depth : Nat}
    (h : ∀ v ∈ items, ErrorsIn IsOfWriting (writeAt style depth v)) :
    ErrorsIn IsOfWriting (writeItems style depth items) :=
  .traverse (writeItems style depth) (.ok [])
    (fun _ _ hv hrest => hv.bind fun _ => hrest.bind fun _ => .ok _) h

theorem writeAt_errors (depth : Nat) (v : Value) : ErrorsIn IsOfWriting (writeAt style depth v) := by
  induction v using Value.induction_members generalizing depth with
  | scalar s => exact writeScalar_errors style s
  | tuple items ih => exact (writeItems_errors style fun v hv => ih v hv (depth + 1)).map _
  | set members => exact writeOther_errors style _
  | list items ih => exact (writeItems_errors style fun v hv => ih v hv (depth + 1)).map _
  | map entries ih =>
    have hentries : ErrorsIn IsOfWriting (writeEntries style (depth + 1) entries) :=
      .traverse (writeEntries style (depth + 1)) (.ok [])
        (fun entry rest hentry hrest => (keyText_errors entry.1).bind fun key =>
          hentry.bind fun item => hrest.bind fun items => .ok _)
        fun entry hentry => ih entry.1 entry.2 hentry (depth + 1)
    exact hentries.map _

theorem write_errors (v : Value) : ErrorsIn IsOfWriting (write style v) :=
  (writeAt_errors style 0 v).map _

end Json

theorem ErrorsIn.building {α : Type} {x : Except Defect α} (h : ErrorsIn IsOfWriting x) :
    ErrorsIn (Fault.DefectIn IsOfBuilding) (x.mapError .defect) :=
  .mapError fun d hd => .writing (h d hd)

namespace Value

theorem plainText_errors (v : Value) : ErrorsIn (Fault.DefectIn IsOfBuilding) v.plainText := by
  unfold plainText
  split_ifs
  · exact .error (.writing .numberTooLong)
  · exact .ok _

theorem wireText_errors (v : Value) : ErrorsIn (Fault.DefectIn IsOfBuilding) v.wireText := by
  unfold wireText
  split
  · exact .ok _
  · exact .ok _
  · exact (Json.write_errors _ _).building
  · exact (Json.write_errors _ _).building
  · exact plainText_errors _

theorem wireTexts_errors (values : Named Value) :
    ErrorsIn (Fault.DefectIn IsOfBuilding) (wireTexts values) := by
  induction values with
  | nil => exact .ok []
  | cons entry rest ih =>
    exact (wireText_errors entry.2).bind fun text => ih.bind fun texts => .ok _

end Value

theorem Scope.value_building (scope : Scope) (v : Value) :
    ErrorsIn (Fault.DefectIn IsOfBuilding) (scope.value v) :=
  (scope.value_errors v).mono fun _ h => h.mono fun _ => .evaluation

/-! ## Parameters and bodies -/

namespace ParameterValues

variable (scope : Scope) (site : Site)

theorem add_errors (values : ParameterValues) (item : OrReference Parameter) :
    ErrorsIn (Fault.DefectIn IsOfBuilding) (add scope site values item) := by
  cases item with
  | reference r => exact .error trivial
  | given p =>
    rw [add]
    split_ifs
    · refine (scope.value_building p.value).bind fun v => ?_
      unfold put
      split
      · exact .ok _
      · exact .ok _
      · exact .ok _
      · exact .error trivial
    · exact .error trivial

theorem ofParameters_errors (parameters : Parameters) :
    ErrorsIn (Fault.DefectIn IsOfBuilding) (ofParameters scope site parameters) :=
  .foldlM (fun item _ values => add_errors scope site values item) empty

end ParameterValues

namespace RequestBody

variable (scope : Scope) (site : Site)

theorem formValues_errors (entries : Entries) :
    ErrorsIn (Fault.DefectIn IsOfBuilding) (formValues scope entries) := by
  induction entries with
  | nil => exact .ok []
  | cons entry rest ih =>
    exact (scope.value_building entry.2).bind fun v => ih.bind fun values => .ok _

theorem formTexts_errors (texts : List (Scalar × String)) :
    ErrorsIn (Fault.DefectIn IsOfBuilding) (formTexts texts) := by
  induction texts with
  | nil => exact .ok []
  | cons entry rest ih =>
    exact (Value.plainText_errors (.scalar entry.1)).bind fun name => ih.bind fun texts => .ok _

theorem encoded_errors (texts : Named String) :
    ErrorsIn (Fault.DefectIn IsOfBuilding) (encoded texts) := by
  unfold encoded
  split_ifs
  · exact .ok _
  · exact .error (.writing .unencodableText)

theorem formText_errors (entries : Entries) :
    ErrorsIn (Fault.DefectIn IsOfBuilding) (formText scope entries) :=
  (formValues_errors scope entries).bind fun _ =>
    (ErrorsIn.mapM fun entry _ => Value.wireText_errors entry.2).bind fun _ =>
      (formTexts_errors _).bind fun _ => encoded_errors _

theorem jsonText_errors (payload : Value) :
    ErrorsIn (Fault.DefectIn IsOfBuilding) (jsonText scope payload) :=
  ((scope.resolve_errors payload).mono fun _ h => h.mono fun _ => .evaluation).bind fun _ =>
    (Json.write_errors _ _).building

theorem text_errors (body : RequestBody) :
    ErrorsIn (Fault.DefectIn IsOfBuilding) (body.text scope site) := by
  unfold text
  dsimp only
  split_ifs
  · exact .error trivial
  · exact .error trivial
  · split
    · exact .error trivial
    · exact formText_errors scope _
    · exact .error trivial
  · split
    · exact .error trivial
    · exact jsonText_errors scope _
    · exact jsonText_errors scope _
    · exact .error trivial
  · exact .error trivial

end RequestBody

/-! ## Calls -/

/-- A document that says where the server is, and what its paths are. -/
inductive IsApiDocument : Value → Prop
  | intro {document server : Entries} {rest : List Value} {url : String} {paths : Entries} :
      Entries.get? document "servers" = some (.list (.map server :: rest)) →
      Entries.get? server "url" = some (.text url) →
      Entries.get? document "paths" = some (.map paths) →
      (∀ entry ∈ paths, ∃ path, entry.1 = .text path) → IsApiDocument (.map document)

namespace Operation

/-- An operation of such a document. -/
structure IsDeclared (operation : Operation) : Prop where
  document : IsApiDocument (.map operation.document)
  path : ∃ path, operation.path = .text path

theorem eq_of_inPath? {id source : String} {document : Entries} {path : Scalar} {item : Value}
    {operation : Operation} (h : inPath? id source document path item = some operation) :
    operation.document = document ∧ operation.path = path := by
  unfold inPath? at h
  split at h
  · obtain ⟨method, -, hmethod⟩ := List.exists_of_findSome?_eq_some h
    obtain ⟨declaration, -, rfl⟩ := Option.map_eq_some_iff.mp hmethod
    exact ⟨rfl, rfl⟩
  · cases h

theorem exists_find? {documents : ApiDocuments}
    (h : ∀ document ∈ documents, IsApiDocument document.2) (id : String) :
    ∃ found, find? id documents = .ok found ∧ ∀ operation ∈ found, operation.IsDeclared := by
  induction documents with
  | nil => exact ⟨none, rfl, by simp⟩
  | cons first rest ih =>
    obtain ⟨source, document⟩ := first
    obtain ⟨hfirst, hrest⟩ := List.forall_mem_cons.mp h
    obtain @⟨document, server, others, url, declared, hservers, hurl, hpaths, htexts⟩ := hfirst
    have hinside : inDocument? id source (.map document) =
        .ok (declared.findSome? fun entry => inPath? id source document entry.1 entry.2) := by
      simp [inDocument?, paths, hpaths, Except.map]
    rw [find?, hinside]
    cases hfound : declared.findSome? fun entry => inPath? id source document entry.1 entry.2 with
    | none => exact ih hrest
    | some operation =>
      refine ⟨some operation, rfl, fun other hother => ?_⟩
      obtain rfl := Option.mem_some_iff.mp hother
      obtain ⟨entry, hentry, hin⟩ := List.exists_of_findSome?_eq_some hfound
      obtain ⟨hdocument, hpath⟩ := eq_of_inPath? hin
      refine ⟨hdocument ▸ .intro hservers hurl hpaths htexts, ?_⟩
      obtain ⟨path, htext⟩ := htexts entry hentry
      exact ⟨path, hpath.trans htext⟩

theorem serverUrl_errors {operation : Operation} (h : operation.IsDeclared) (site : Site) :
    ErrorsIn (Fault.DefectIn IsOfBuilding) (operation.serverUrl site) := by
  obtain ⟨hdocument, -⟩ := h
  generalize hentries : Value.map operation.document = document at hdocument
  obtain @⟨document, server, others, url, declared, hservers, hurl, -, -⟩ := hdocument
  cases hentries
  unfold serverUrl
  rw [hservers]
  simp only [Value.truthy, List.isEmpty_cons, Bool.not_false, Bool.not_true, Bool.false_eq_true,
    if_false, hurl]
  split_ifs
  · exact .error trivial
  · exact .ok _

theorem filledPath_errors {operation : Operation} (h : operation.IsDeclared)
    (values : Named Value) :
    ErrorsIn (Fault.DefectIn IsOfBuilding) (operation.filledPath values) := by
  obtain ⟨path, hpath⟩ := h.path
  unfold filledPath
  rw [hpath]
  exact (Value.wireTexts_errors values).bind fun texts => .ok _

end Operation

theorem Headers.checked_errors (headers : Headers) : ErrorsIn IsOfWriting headers.checked := by
  unfold checked
  split_ifs
  · exact .ok _
  · exact .error .unencodableText

namespace Call

theorem urlText_errors {operation : Operation} (h : operation.IsDeclared)
    (values : ParameterValues) (server : String) :
    ErrorsIn (Fault.DefectIn IsOfBuilding) (urlText operation values server) :=
  (operation.filledPath_errors h values.path).bind fun _ =>
    (Value.wireTexts_errors values.query).bind fun _ =>
      (RequestBody.encoded_errors _).bind fun _ => .ok _

theorem headers_errors (values : Named Value) (body : Option RequestBody) :
    ErrorsIn (Fault.DefectIn IsOfBuilding) (headers values body) := by
  refine (Value.wireTexts_errors values).bind fun lines => ?_
  have hchecked := Headers.checked_errors lines
  split
  · next d hd => exact .error (.writing (hchecked d hd))
  · exact .ok _

theorem request_errors {call : Call} (h : call.operation.IsDeclared) (scope : Scope) (site : Site)
    (client : Client) (session : Session) :
    ErrorsIn (Fault.DefectIn IsOfBuilding) (call.request scope site client session) := by
  rw [request_eq]
  refine (ParameterValues.ofParameters_errors scope site _).bind fun own =>
    (ParameterValues.ofParameters_errors scope site _).bind fun given => ?_
  refine ErrorsIn.bind ?_ fun body => (Operation.serverUrl_errors h site).bind fun server =>
    (urlText_errors h _ server).bind fun text => (headers_errors _ _).bind fun lines => ?_
  · unfold bytes
    split
    · exact (RequestBody.text_errors scope site _).map _
    · exact .ok _
  · split
    · dsimp only
      split
      · exact .ok _
      · exact .error (.unreadableHost _)
    · exact .error (.writing .unencodableText)
    · exact .error trivial

end Call

namespace Attempt

variable {around : Surroundings}

theorem callOf_errors (h : ∀ document ∈ around.documents, IsApiDocument document.2) (step : Step)
    (shared : Parameters) : ErrorsIn (Fault.DefectIn IsOfBuilding) (callOf around step shared) := by
  unfold callOf
  dsimp only
  split
  · next id hid =>
    split_ifs
    · exact .error trivial
    · obtain ⟨found, hfound, -⟩ := Operation.exists_find? h id
      refine ErrorsIn.map ?_ _
      unfold Operation.named
      rw [hfound]
      cases found with
      | none => exact .error trivial
      | some operation => exact .ok operation
  · exact .error trivial

/-- Given documents that are in order, few defects can keep a request from being built. -/
theorem request_errors (h : ∀ document ∈ around.documents, IsApiDocument document.2) (step : Step)
    (shared : Parameters) (context : Context) (session : Session) :
    ErrorsIn (Fault.DefectIn IsOfBuilding) (request around step shared context session) := by
  unfold request
  cases hcall : callOf around step shared with
  | error f => exact .error (callOf_errors h step shared f hcall)
  | ok call =>
    obtain ⟨id, operation, -, -, hfind, rfl⟩ := exists_operation_of_callOf hcall
    obtain ⟨found, hfound, hdeclared⟩ := Operation.exists_find? h id
    obtain rfl := Except.ok.inj (hfind.symm.trans hfound)
    exact Call.request_errors (hdeclared operation rfl) _ _ around.client session

end Attempt

/-! ## Judging -/

namespace RetryAfter

/-- A value that asks to wait too long: for more seconds than a number can hold, or until a date with a
part that is out of all range. -/
inductive Exceeds (value : String) : Prop
  | seconds {n : Int} : Numeral.integer? (Text.strip value.toList) = .ok n →
      (Binary64.ofInt n).isInfinite = true → Exceeds value
  | date {fault : Numeral.IntegerFault} {fields : DateFields} :
      Numeral.integer? (Text.strip value.toList) = .error fault →
      DateFields.read? (Text.strip value.toList) = some fields → fields.isOversized = true →
      Exceeds value

theorem read?_error_iff {now : DateTime} {value : String} {d : Defect} :
    read? now value = .error d ↔ d = .numberTooLarge ∧ Exceeds value := by
  unfold read?
  dsimp only
  cases hnumeral : Numeral.integer? (Text.strip value.toList) with
  | ok n =>
    have hexceeds : Exceeds value ↔ (Binary64.ofInt n).isInfinite = true := by
      constructor
      · rintro (⟨hn, hinfinite⟩ | ⟨hfault, -, -⟩)
        · cases hnumeral.symm.trans hn
          exact hinfinite
        · cases hnumeral.symm.trans hfault
      · exact .seconds hnumeral
    rw [hexceeds]
    by_cases hinfinite : (Binary64.ofInt n).isInfinite = true
    · simp [ofSeconds, hinfinite, Except.map, eq_comm]
    · simp [ofSeconds, hinfinite, Except.map]
  | error fault =>
    have hexceeds : Exceeds value ↔ ∃ fields,
        DateFields.read? (Text.strip value.toList) = some fields ∧ fields.isOversized = true := by
      constructor
      · rintro (⟨hn, -⟩ | ⟨-, hfields, hoversized⟩)
        · cases hnumeral.symm.trans hn
        · exact ⟨_, hfields, hoversized⟩
      · rintro ⟨fields, hfields, hoversized⟩
        exact .date hnumeral hfields hoversized
    rw [hexceeds]
    cases hfields : DateFields.read? (Text.strip value.toList) with
    | none => simp
    | some fields =>
      by_cases hoversized : fields.isOversized = true
      · simp only [hoversized, if_true, Except.error.injEq, Option.some.injEq, exists_eq_left',
          and_true]
        exact eq_comm
      · simp [hoversized]

end RetryAfter

/-- The defects that judging a response can end in. -/
inductive Defect.IsOfJudging (response : Response) : Defect → Prop
  | evaluation {d : Defect} : d.IsOfEvaluation → IsOfJudging response d
  | criterionType : IsOfJudging response .numberTooLong
  | retryAfter {value : String} : response.headers.get? "Retry-After" = some value →
      RetryAfter.Exceeds value → IsOfJudging response .numberTooLarge

open Defect (IsOfJudging)

section
variable {response : Response} (scope : Scope)

theorem Scope.judge_errors (condition : String) :
    ErrorsIn (Fault.DefectIn (IsOfJudging response)) (scope.judge condition).outcome := by
  intro f h
  obtain ⟨text, cause, rfl⟩ | ⟨d, rfl, hd⟩ := scope.judge_error_cases h
  · trivial
  · exact .evaluation hd

theorem Criterion.judgeAll_errors (step : Option String) (criteria : List Criterion) :
    ErrorsIn (Fault.DefectIn (IsOfJudging response)) (judgeAll scope step criteria).outcome := by
  intro f h
  obtain ⟨-, c, -, -, -, h⟩ := judgeAll_error_iff.mp h
  unfold Criterion.judge at h
  split at h
  · split_ifs at h
    · cases h
      exact .criterionType
    · cases h
      trivial
  · exact scope.judge_errors _ f h

namespace Attempt

theorem outputs_errors {value : String → Except Fault Value}
    (hvalue : ∀ s, ErrorsIn (Fault.DefectIn IsOfEvaluation) (value s))
    (expressions : List (String × String)) :
    ErrorsIn (Fault.DefectIn IsOfEvaluation) (outputs value expressions) := by
  induction expressions with
  | nil => exact .ok []
  | cons first rest ih =>
    exact (hvalue first.2).bind fun value => ih.bind fun values => .ok _

theorem asked_errors (now : DateTime) :
    ErrorsIn (IsOfJudging response) (RetryAfter.ofHeaders? now response.headers) := by
  unfold RetryAfter.ofHeaders?
  split
  · next value hvalue =>
    intro d hd
    obtain ⟨rfl, hexceeds⟩ := RetryAfter.read?_error_iff.mp hd
    exact .retryAfter hvalue hexceeds
  · exact .ok _

theorem decide_errors (site : Site) (list : String) {asked : Except Defect (Option Binary64)}
    (hasked : ErrorsIn (IsOfJudging response) asked) (actions : Actions) :
    ErrorsIn (Fault.DefectIn (IsOfJudging response)) (decide scope site list asked actions) := by
  induction actions with
  | nil => exact .ok _
  | cons a rest ih =>
    cases a with
    | reference r => exact .error trivial
    | given action =>
      rw [decide]
      split_ifs
      · exact .error trivial
      · split
        · next f hguard => exact .error (Criterion.judgeAll_errors scope _ _ f hguard)
        · exact ih
        · have hdecision : ErrorsIn (Fault.DefectIn (IsOfJudging response))
              (decisionOf site asked action) := by
            unfold decisionOf
            split
            · exact .ok _
            · exact .ok _
            · split_ifs
              · exact .error trivial
              · split
                · exact .ok _
                · next d => exact .error (hasked d rfl)
          split
          · next f hf => exact .error (hdecision f hf)
          · exact .ok _
          · exact ih

theorem misjudges_errors {around : Surroundings} {now : DateTime} {step : Step} {d : Defect}
    (h : Misjudges around now step scope response (.defect d)) : IsOfJudging response d := by
  cases h with
  | outputs h => exact .evaluation (outputs_errors scope.recorded_errors _ _ h)
  | criteria _ h => exact Criterion.judgeAll_errors scope _ _ _ h
  | actions _ _ h => exact decide_errors scope _ _ (asked_errors _) _ _ h

end Attempt

end

end Arazzo
