import Arazzo.Expression.Scope

/-!
# Evaluation context

What expressions can refer to while a workflow runs: the inputs, the outputs that each step has
recorded, and a snapshot of the last exchange with a server. An output may be or hold the mapping of
steps itself, which then grows with every output that is recorded behind it.
-/

namespace Arazzo

/-- The last exchange: the final URL, and both messages as documents. -/
structure Snapshot where
  url : Option String
  method : Option String
  statusCode : Option Int
  request : Option Value
  response : Option Value
deriving Inhabited

/-- No exchange yet. -/
def Snapshot.empty : Snapshot := ⟨none, none, none, none, none⟩

structure Context where
  inputs : Entries
  steps : Entries
  snapshot : Snapshot
deriving Inhabited

namespace Context

/-- The context at the start of a run. -/
def start (inputs : Entries) : Context := ⟨inputs, [], .empty⟩

/-- The document that references are looked up in. Inputs come from outside and cannot hold the mapping
of steps: a scalar for it says nothing there. -/
def document (context : Context) : Document :=
  let snapshot := context.snapshot
  let present (name : String) (v : Option Value) : Entries :=
    (v.map fun v => (Scalar.text name, v)).toList
  let inputs := Value.unfold .null (.map context.inputs)
  ⟨.map ([(.text "inputs", inputs), (.text "steps", .scalar .steps)] ++
    present "url" (snapshot.url.map .text) ++
    present "method" (snapshot.method.map .text) ++
    present "statusCode" (snapshot.statusCode.map .int) ++
    present "request" snapshot.request ++
    present "response" snapshot.response), context.steps⟩

/-- Records the outputs of a step, in the place of earlier ones. -/
def record (context : Context) (step : String) (outputs : Entries) : Context :=
  { context with
    steps := Entries.insert (.text step) (.map [(.text "outputs", .map outputs)]) context.steps }

/-- The scope of expressions in this context. -/
def scope (context : Context) (site : Site) : Scope := ⟨context.document, site⟩

end Context
end Arazzo
