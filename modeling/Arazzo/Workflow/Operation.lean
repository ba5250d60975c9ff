import Arazzo.Document.Named
import Arazzo.Document.Value
import Arazzo.Error

/-!
# Operations

The operations that API documents declare. An identifier names the first operation that carries it:
documents in their order, then paths in theirs, then methods in a fixed order. Whatever is not a
mapping where a path or an operation should be is passed over.
-/

namespace Arazzo

/-- API documents by the name of their source. -/
abbrev ApiDocuments := Named Value

structure Operation where
  method : String
  path : Scalar
  declaration : Entries
  document : Entries
  source : String

namespace Operation

/-- The methods in the order in which they are searched. -/
def methods : List String :=
  ["get", "post", "put", "delete", "patch", "options", "head", "trace"]

/-- The declaration of a method if it carries an identifier. -/
def declared? (id : String) (item : Entries) (method : String) : Option Entries :=
  match Entries.get? item method with
  | some (.map declaration) =>
    if (Entries.get? declaration "operationId").bind Value.text? = some id then some declaration
    else none
  | _ => none

/-- The first method of a path whose operation carries an identifier. -/
def inPath? (id source : String) (document : Entries) (path : Scalar) (item : Value) :
    Option Operation :=
  match item with
  | .map item => methods.findSome? fun method =>
      (declared? id item method).map fun declaration =>
        ⟨method, path, declaration, document, source⟩
  | _ => none

/-- The paths of a document; a missing or empty entry counts as none. -/
def paths (document : Entries) : Except Defect Entries :=
  match Entries.get? document "paths" with
  | none => .ok []
  | some (.map paths) => .ok paths
  | some v => if v.truthy then .error .notAMapping else .ok []

/-- The first operation of a document that carries an identifier. -/
def inDocument? (id source : String) : Value → Except Defect (Option Operation)
  | .map document => (paths document).map fun paths =>
      paths.findSome? fun entry => inPath? id source document entry.1 entry.2
  | _ => .error .notAMapping

/-- The first operation that carries an identifier. -/
def find? (id : String) : ApiDocuments → Except Defect (Option Operation)
  | [] => .ok none
  | (source, document) :: rest => do
    match ← inDocument? id source document with
    | some operation => .ok (some operation)
    | none => find? id rest

/-- The operation that an identifier names. -/
def named (documents : ApiDocuments) (id : String) (site : Site) : Except Fault Operation :=
  match find? id documents with
  | .ok (some operation) => .ok operation
  | .ok none => .error (.failure (.unknownOperation id site))
  | .error d => .error (.defect d)

end Operation
end Arazzo
