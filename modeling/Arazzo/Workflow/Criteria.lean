import Arazzo.Expression.Scope
import Arazzo.Schema.Model

/-!
# Criteria

Criteria hold if each of them holds; the first one that does not ends the evaluation. Only simple
criteria are supported, and one of another type is an error when the evaluation reaches it.
-/

namespace Arazzo
namespace Criterion

/-- The name that the type of a criterion goes by, if it is not a simple one. -/
def unsupportedType? (criterion : Criterion) : Option Value :=
  match criterion.type with
  | none => none
  | some (.named name) => if name = "simple" then none else some (.text name)
  | some (.detailed details) => some ((details.lookup "type").getD .null)

/-- The verdict on a criterion of a step. -/
def judge (scope : Scope) (step : Option String) (criterion : Criterion) : Verdict :=
  match criterion.unsupportedType? with
  | some name =>
    if name.hasLong then .fault (.defect .numberTooLong)
    else .fault (.failure (.unsupported (.criterionType name.plain) ⟨scope.site.workflow, step⟩))
  | none => scope.judge criterion.condition

/-- The verdict on criteria that all have to hold. -/
def judgeAll (scope : Scope) (step : Option String) : List Criterion → Verdict
  | [] => .ofBool true
  | c :: rest => (c.judge scope step).and (judgeAll scope step rest)

end Criterion
end Arazzo
