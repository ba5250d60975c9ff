import Arazzo.Yaml.Build
import Arazzo.Yaml.Document
import Arazzo.Yaml.Layout

/-!
# Reading YAML

The value that a YAML text denotes: its tokens make up a graph of nodes, and the graph a value.
-/

namespace Arazzo
namespace Yaml

/-- The value of the document that a text holds, null if it holds none. -/
def read (cs : List Char) : Except Refusal Value :=
  if cs.all isAllowed then do
    match ← Document.ofTokens (tokens (Spot.ofText cs)) with
    | (g, some root) => Build.ofNode g root
    | (_, none) => .ok .null
  else .error .malformed

end Yaml
end Arazzo
