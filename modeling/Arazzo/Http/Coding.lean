import Arazzo.Http.Coding.Container
import Arazzo.Http.Header
import Arazzo.Text.Trim

/-!
# Content codings

A response may be compressed, several times over; its lines name the codings in the order in which they
were applied. Unknown codings are passed over. A body that claims to stand in the short container may
also come without one.
-/

namespace Arazzo

inductive Coding where
  | gzip
  | deflate
deriving DecidableEq, Repr

namespace Coding

open Text

def ofName? (name : List Char) : Option Coding :=
  match String.ofList (lowerAscii (strip name)) with
  | "gzip" => some .gzip
  | "deflate" => some .deflate
  | _ => none

/-- The codings that header lines name, in order. -/
def ofHeaders (headers : Headers) : List Coding :=
  (headers.values "Content-Encoding").flatMap fun value =>
    (splitOnChar ',' value.toList).filterMap ofName?

/-- The bytes that a body in one coding stands for. -/
def decode (coding : Coding) (body : List UInt8) : Except Inflate.Flaw (List UInt8) :=
  match coding with
  | .gzip => Inflate.run Inflate.gzip body
  | .deflate => match Inflate.run Inflate.zlib body with
    | .ok bytes => .ok bytes
    | .error _ => Inflate.run Inflate.body body

/-- Undoes codings, the last one first. -/
def decodeAll (codings : List Coding) (body : List UInt8) : Except Inflate.Flaw (List UInt8) :=
  codings.reverse.foldlM (fun bytes coding => coding.decode bytes) body

/-- What is said of a body that cannot be decoded. -/
def complaint (flaw : Inflate.Flaw) : String :=
  match flaw with
  | .dictionary => "Error 2 while decompressing data"
  | _ => "Error -3 while decompressing data: " ++ flaw.message

end Coding
end Arazzo
