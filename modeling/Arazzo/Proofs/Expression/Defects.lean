import Arazzo.Expression.Scope
import Arazzo.Proofs.Document.Entries
import Arazzo.Proofs.Except

/-!
# Defects of expressions

Four things keep an expression from having a value or an error that is foreseen: a path that asks for
an intersection, one that asks for the parent of the root, one that asks for everything inside the
mapping of steps while it holds itself, and an integer with more digits than are read.
-/

namespace Arazzo

/-- A fault that is foreseen, or a defect of a kind. -/
def Fault.DefectIn (K : Defect → Prop) : Fault → Prop
  | .failure _ => True
  | .defect d => K d

/-- The defects that the evaluation of a text can end in. -/
inductive Defect.IsOfEvaluation : Defect → Prop
  | pathIntersection : IsOfEvaluation .pathIntersection
  | parentOfRoot : IsOfEvaluation .parentOfRoot
  | endlessValue : IsOfEvaluation .endlessValue
  | literalTooLong {digits : Nat} : Numeral.digitLimit < digits →
      IsOfEvaluation (.literalTooLong digits)

open Defect (IsOfEvaluation)

/-! ## Paths -/

namespace Path

variable {K : Defect → Prop}

theorem onEach_errors {α : Type} {select : α → Except Defect (List Found)}
    (h : ∀ a, ErrorsIn K (select a)) (as : List α) : ErrorsIn K (onEach select as) := by
  induction as with
  | nil => exact .ok []
  | cons a rest ih => exact (h a).bind fun here => ih.bind fun there => .ok (here ++ there)

theorem sift_errors {select : Found → Except Defect (List Found)} (h : ∀ f, ErrorsIn K (select f))
    (wanted : Bool) (found : List Found) : ErrorsIn K (sift select wanted found) := by
  induction found with
  | nil => exact .ok []
  | cons f rest ih => exact (h f).bind fun inner => ih.bind fun kept => .ok _

theorem Visit.select_errors {select : Found → Except Defect (List Found)}
    (hendless : K .endlessValue) (h : ∀ f, ErrorsIn K (select f)) (visit : Visit) :
    ErrorsIn K (visit.select select) := by
  cases visit with
  | value found => exact h found
  | steps => exact .error hendless

/-- Whether a path asks for an intersection. -/
def HasIntersection : Path → Prop
  | .intersection .. => True
  | .child outer inner => outer.HasIntersection ∨ inner.HasIntersection
  | .descendants outer inner => outer.HasIntersection ∨ inner.HasIntersection
  | .union left right => left.HasIntersection ∨ right.HasIntersection
  | .having outer inner => outer.HasIntersection ∨ inner.HasIntersection
  | .lacking outer inner => outer.HasIntersection ∨ inner.HasIntersection
  | _ => False

theorem select_errors {path : Path} (hparent : K .parentOfRoot) (hendless : K .endlessValue)
    (hintersection : path.HasIntersection → K .pathIntersection) (found : Found) :
    ErrorsIn K (path.select found) := by
  induction path generalizing found with
  | parent =>
    rw [select]
    cases found.around with
    | nil => exact .error hparent
    | cons outer around => exact .ok _
  | child outer inner ihouter ihinner =>
    exact (ihouter (hintersection ∘ .inl) found).bind fun selected =>
      onEach_errors (ihinner (hintersection ∘ .inr)) selected
  | descendants outer inner ihouter ihinner =>
    exact (ihouter (hintersection ∘ .inl) found).bind fun selected =>
      onEach_errors (Visit.select_errors hendless (ihinner (hintersection ∘ .inr))) _
  | union left right ihleft ihright =>
    exact (ihleft (hintersection ∘ .inl) found).bind fun first =>
      (ihright (hintersection ∘ .inr) found).bind fun second => .ok (first ++ second)
  | intersection left right => exact .error (hintersection trivial)
  | having outer inner ihouter ihinner =>
    exact (ihouter (hintersection ∘ .inl) found).bind fun selected =>
      sift_errors (ihinner (hintersection ∘ .inr)) true selected
  | lacking outer inner ihouter ihinner =>
    exact (ihouter (hintersection ∘ .inl) found).bind fun selected =>
      sift_errors (ihinner (hintersection ∘ .inr)) false selected
  | _ => exact .ok _

theorem first_errors (path : Path) (document : Document) :
    ErrorsIn IsOfEvaluation (path.first document) :=
  (select_errors .parentOfRoot .endlessValue (fun _ => .pathIntersection) (.whole document)).map _

end Path

/-! ## Operands -/

theorem Literal.number?_errors (cs : List Char) : ErrorsIn IsOfEvaluation (number? cs) := by
  unfold number?
  split
  · exact .ok none
  · split_ifs with hlong
    · exact .error (.literalTooLong hlong)
    · exact .ok _
  · exact .ok _

theorem Literal.value_errors (s : String) : ErrorsIn IsOfEvaluation (value s) := by
  unfold value
  split
  · exact .ok _
  · split_ifs
    · exact .ok _
    · exact .ok _
    · exact .ok _
    · exact (number?_errors s.toList).map _

theorem Comparison.compare_errors (left : Value) (op : Operator) (right : Value) :
    ErrorsIn IsOfEvaluation (compare left op right) := by
  have hnumber : ∀ value other, ErrorsIn IsOfEvaluation (numberFor value other) := by
    intro value other
    unfold numberFor
    split
    · split_ifs
      · exact (Literal.number?_errors _).map _
      · exact .ok _
    · exact .ok _
  exact ((hnumber left right).bind fun l => (hnumber right left).bind fun r => .ok (l, r)).map _

namespace Scope

variable (scope : Scope)

theorem denoted_errors {reference : String → Except Fault Value} {s : String}
    (h : ErrorsIn (Fault.DefectIn IsOfEvaluation) (reference s)) :
    ErrorsIn (Fault.DefectIn IsOfEvaluation) (denoted reference s) := by
  unfold denoted
  split_ifs
  · exact h
  · have hvalue := Literal.value_errors s
    split
    · exact .ok _
    · next d hd => exact .error (hvalue d hd)

theorem find_errors (s : String) : ErrorsIn (Fault.DefectIn IsOfEvaluation) (scope.find s) := by
  unfold find
  split
  · exact .error trivial
  · next path hread =>
    have hfirst := path.first_errors scope.document
    split
    · exact .ok _
    · next d hd => exact .error (hfirst d hd)

theorem recorded_errors (s : String) :
    ErrorsIn (Fault.DefectIn IsOfEvaluation) (scope.recorded s) :=
  denoted_errors (scope.find_errors s)

theorem operand_errors (s : String) :
    ErrorsIn (Fault.DefectIn IsOfEvaluation) (scope.operand s) :=
  denoted_errors ((scope.find_errors s).map _)

theorem find_failure {scope : Scope} {s : String} {failure : Failure}
    (h : scope.find s = .error (.failure failure)) :
    failure = .expression s .invalidPath scope.site := by
  unfold find at h
  split at h
  · cases h
    rfl
  · split at h <;> cases h

theorem denoted_failure {reference : String → Except Fault Value} {s : String} {failure : Failure}
    (h : denoted reference s = .error (.failure failure)) :
    reference s = .error (.failure failure) := by
  unfold denoted at h
  split_ifs at h
  · exact h
  · split at h <;> cases h

theorem operand_failure {scope : Scope} {s : String} {failure : Failure}
    (h : scope.operand s = .error (.failure failure)) :
    failure = .expression s .invalidPath scope.site :=
  find_failure (map_error_iff.mp (denoted_failure h))

theorem recorded_failure {scope : Scope} {s : String} {failure : Failure}
    (h : scope.recorded s = .error (.failure failure)) :
    failure = .expression s .invalidPath scope.site :=
  find_failure (denoted_failure h)

theorem value_errors (v : Value) : ErrorsIn (Fault.DefectIn IsOfEvaluation) (scope.value v) := by
  cases v with
  | scalar s =>
    cases s with
    | text t => exact scope.operand_errors t
    | _ => exact .ok _
  | _ => exact .ok _

theorem resolve_errors (v : Value) :
    ErrorsIn (Fault.DefectIn IsOfEvaluation) (scope.resolve v) := by
  induction v using Value.induction_members with
  | scalar s => exact scope.value_errors (.scalar s)
  | tuple items => exact .ok _
  | set members => exact .ok _
  | list items ih =>
    have hitems : ErrorsIn (Fault.DefectIn IsOfEvaluation) (scope.resolveItems items) :=
      .traverse scope.resolveItems (.ok [])
        (fun v rest hv hrest => hv.bind fun item => hrest.bind fun items => .ok _) ih
    exact hitems.map _
  | map entries ih =>
    have hentries : ErrorsIn (Fault.DefectIn IsOfEvaluation) (scope.resolveEntries entries) :=
      .traverse scope.resolveEntries (.ok [])
        (fun entry rest hentry hrest => hentry.bind fun item => hrest.bind fun items => .ok _)
        fun entry hentry => ih entry.1 entry.2 hentry
    exact hentries.map _

end Scope
end Arazzo
