import Arazzo.Http.Host.Label
import Arazzo.Text.Case

/-!
# International host names

A name with characters beyond ASCII is written label by label, in lower case and with full stops
between, and read back in the same way.
-/

namespace Arazzo
namespace Host

open Text

/-- The full stops of the scripts all separate labels. -/
def isStop (c : Char) : Bool := ['.', '\u3002', '\uFF0E', '\uFF61'].contains c

/-- The most characters of a name with a full stop at its end. -/
def nameLimit : Nat := 254

/-- The labels of a name, and whether a full stop ends it. -/
def labelsOf (cs : List Char) : List (List Char) × Bool :=
  let labels := splitOnChar '.' (cs.map fun c => if isStop c then '.' else c)
  if labels.getLast? = some [] then (labels.dropLast, true) else (labels, false)

/-- Labels with full stops between them. -/
def joinLabels {α : Type} (stop : α) : List (List α) → List α
  | [] => []
  | [label] => label
  | label :: rest => label ++ stop :: joinLabels stop rest

/-- The written form of a name. -/
def writeName (cs : List Char) : Except NameFault (List Char) := do
  let cs := lower cs
  let (labels, ended) := labelsOf cs
  if nameLimit < cs.length || labels.isEmpty then .error .malformed
  let written := joinLabels '.' (← labels.mapM writeLabel)
  if written.length < nameLimit then .ok (if ended then written ++ ['.'] else written)
  else .error .malformed

/-- The name that a written form stands for, as code points. -/
def readName (cs : List Char) : Except NameFault (List Nat) := do
  let (labels, ended) := labelsOf cs
  if nameLimit < cs.length || labels.isEmpty then .error .malformed
  let name := joinLabels 46 (← labels.mapM readLabel)
  .ok (if ended then name ++ [46] else name)

end Host
end Arazzo
