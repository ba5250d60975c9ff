/-!
# Reading bytes from the front

A charset is read from the first byte on: a step says what stands at the head of the bytes that are left.
What cannot be read leaves a gap, so that a strict and a lenient reading are two views of one result.
-/

namespace Arazzo
namespace Text

/-- Why bytes have no text at all in the charset that is asked for. -/
inductive CharsetFault where
  /-- No mark tells the order of the bytes. -/
  | unmarked
  /-- An escape sequence has no end. -/
  | endlessEscape
  /-- A character is taken from a set that its place does not allow. -/
  | misplacedSet
  /-- Bytes that should be ASCII are not. -/
  | notAscii
  /-- The charset is never read leniently. -/
  | strictOnly
  /-- The name is that of no charset. -/
  | undefined
  /-- The charset stands for bytes and not for text. -/
  | binary
  /-- The charset changes letters and reads no bytes. -/
  | lettersOnly
  /-- The name of the charset holds a character that no name can hold. -/
  | unusableName
deriving DecidableEq, Repr

/-- Characters, with nothing in the place of each stretch that cannot be read. -/
abbrev Reading := Except CharsetFault (List (Option Char))

/-- What stands at the head of some bytes. -/
inductive Head where
  /-- A number of bytes, with the characters that they spell and gaps for what they do not. -/
  | read (width : Nat) (items : List (Option Char))
  /-- The beginning of a code whose end is missing. -/
  | unfinished
  /-- Nothing that the charset provides for. -/
  | fault (f : CharsetFault)

/-- A number of bytes that spell characters. -/
def Head.chars (width : Nat) (cs : List Char) : Head := .read width (cs.map some)

/-- A number of bytes that spell nothing. -/
def Head.wrong (width : Nat) : Head := .read width [none]

/-- Reads bytes with a step from a state, the first of them being passed over. -/
def readSteps {State : Type} (step : State → UInt8 → List UInt8 → Head × State) :
    State → Nat → List UInt8 → Reading
  | _, _, [] => .ok []
  | state, passed + 1, _ :: bs => readSteps step state passed bs
  | state, 0, b :: bs => match step state b bs with
    | (.read width items, next) => (readSteps step next (width - 1) bs).map fun rest => items ++ rest
    | (.unfinished, _) => .ok [none]
    | (.fault f, _) => .error f

/-- Reads bytes with a step that needs no state. -/
def readHeads (head : UInt8 → List UInt8 → Head) (bytes : List UInt8) : Reading :=
  readSteps (fun (_ : Unit) b bs => (head b bs, ())) () 0 bytes

end Text
end Arazzo
