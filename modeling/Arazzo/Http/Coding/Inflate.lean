/-!
# Compressed data

Compressed data is a sequence of blocks of bits. A block holds bytes as they are, or symbols of a prefix
code: bytes, the end of the block, and lengths, behind which a distance says from where in the output so
many bytes are repeated. The code is a fixed one or stands at the beginning of the block, itself
compressed. Data may break off anywhere; what could be read up to there counts.
-/

namespace Arazzo
namespace Inflate

/-- What is wrong with compressed data. -/
inductive Flaw where
  | header
  | method
  | window
  | headerFlags
  | headerCheck
  | dictionary
  | blockType
  | storedLengths
  | symbolCount
  | codeLengths
  | lengthRepeat
  | missingEnd
  | symbolLengths
  | distanceLengths
  | symbol
  | distance
  | distanceTooFar
  | dataCheck
  | lengthCheck
deriving DecidableEq, Repr

def Flaw.message : Flaw → String
  | .header => "incorrect header check"
  | .method => "unknown compression method"
  | .window => "invalid window size"
  | .headerFlags => "unknown header flags set"
  | .headerCheck => "header crc mismatch"
  | .dictionary => "need dictionary"
  | .blockType => "invalid block type"
  | .storedLengths => "invalid stored block lengths"
  | .symbolCount => "too many length or distance symbols"
  | .codeLengths => "invalid code lengths set"
  | .lengthRepeat => "invalid bit length repeat"
  | .missingEnd => "invalid code -- missing end-of-block"
  | .symbolLengths => "invalid literal/lengths set"
  | .distanceLengths => "invalid distances set"
  | .symbol => "invalid literal/length code"
  | .distance => "invalid distance code"
  | .distanceTooFar => "invalid distance too far back"
  | .dataCheck => "incorrect data check"
  | .lengthCheck => "incorrect length check"

/-- What ends the reading of data early: they break off, or they are flawed. -/
inductive Stop where
  | brokenOff
  | flawed (flaw : Flaw)
deriving DecidableEq, Repr

/-- The data, the number of bits that have been read, and the output so far. -/
structure Progress where
  data : Array UInt8
  bits : Nat
  output : Array UInt8

/-- The output stays when the reading stops. -/
abbrev Reading (α : Type) := ExceptT Stop (StateM Progress) α

def flawed {α : Type} (flaw : Flaw) : Reading α := throw (.flawed flaw)

/-! ## Bits -/

/-- The next bit; the lowest bit of a byte comes first. -/
def bit : Reading Nat := do
  let p ← get
  match p.data[p.bits / 8]? with
  | none => throw .brokenOff
  | some b =>
    set { p with bits := p.bits + 1 }
    return (b.toNat >>> (p.bits % 8)) % 2

/-- A number of so many bits, the lowest first. -/
def number : Nat → Reading Nat
  | 0 => return 0
  | count + 1 => do
    let low ← bit
    let high ← number count
    return low + 2 * high

/-- Passes the bits up to the next byte. -/
def alignToByte : Reading Unit := modify fun p => { p with bits := (p.bits + 7) / 8 * 8 }

def emit (b : UInt8) : Reading Unit := modify fun p => { p with output := p.output.push b }

/-! ## Prefix codes -/

/-- A prefix code: its symbols, those with short codes first, and the number of codes of each length. -/
structure Code where
  symbols : Array Nat
  counts : List Nat

/-- The greatest length of a code. -/
def greatestLength : Nat := 15

/-- How many codes are left over when codes of the given lengths have been taken, none if they are too
many; `free` counts the codes of the length at hand. -/
def leftOver? : Nat → List Nat → Option Nat
  | free, [] => some free
  | free, count :: counts => if 2 * free < count then none else leftOver? (2 * free - count) counts

/-- The code in which each symbol has a code of the given length, zero if it has none. A code must be
complete; if `loose`, one with a single code of one bit will do, and one without any codes always. -/
def Code.ofLengths? (loose : Bool) (lengths : List Nat) : Option Code :=
  let indexed := lengths.zipIdx
  let ofLength (length : Nat) : List Nat := (indexed.filter (·.1 = length)).map Prod.snd
  let symbols := (List.range' 1 greatestLength).map ofLength
  let counts := symbols.map List.length
  let longest := lengths.foldl max 0
  let code : Code := ⟨symbols.flatten.toArray, counts.take (max 1 longest)⟩
  if longest = 0 then some code
  else match leftOver? 1 counts with
    | none => none
    | some 0 => some code
    | some _ => if loose && longest = 1 then some code else none

/-- Reads on bit by bit: `code` is what has been read, `first` the first code of that length and `index`
the number of shorter ones. -/
def symbolFrom (symbols : Array Nat) : Nat → Nat → Nat → List Nat → Reading (Option Nat)
  | _, _, _, [] => return none
  | code, first, index, count :: counts => do
    let code := 2 * code + (← bit)
    let first := 2 * first
    if code < first + count then return symbols[index + (code - first)]?
    else symbolFrom symbols code (first + count) (index + count) counts

/-- The next symbol, if the bits are the code of one. -/
def Code.next (code : Code) : Reading (Option Nat) := symbolFrom code.symbols 0 0 0 code.counts

/-! ## Symbols -/

/-- The least length of each length symbol, and the number of bits that say how much more it is. -/
def lengthBases : List (Nat × Nat) :=
  [(3, 0), (4, 0), (5, 0), (6, 0), (7, 0), (8, 0), (9, 0), (10, 0), (11, 1), (13, 1), (15, 1),
   (17, 1), (19, 2), (23, 2), (27, 2), (31, 2), (35, 3), (43, 3), (51, 3), (59, 3), (67, 4),
   (83, 4), (99, 4), (115, 4), (131, 5), (163, 5), (195, 5), (227, 5), (258, 0)]

/-- The same for the distances. -/
def distanceBases : List (Nat × Nat) :=
  [(1, 0), (2, 0), (3, 0), (4, 0), (5, 1), (7, 1), (9, 2), (13, 2), (17, 3), (25, 3), (33, 4),
   (49, 4), (65, 5), (97, 5), (129, 6), (193, 6), (257, 7), (385, 7), (513, 8), (769, 8), (1025, 9),
   (1537, 9), (2049, 10), (3073, 10), (4097, 11), (6145, 11), (8193, 12), (12289, 12), (16385, 13),
   (24577, 13)]

/-- The symbol that ends a block. -/
def endSymbol : Nat := 256

/-- Repeats bytes of the output, which may overlap with what they produce. -/
def repeatBytes (distance : Nat) : Nat → Reading Unit
  | 0 => return
  | count + 1 => do
    let p ← get
    emit (p.output[p.output.size - distance]?.getD 0)
    repeatBytes distance count

/-- The symbols of a block up to its end. Every symbol takes a bit, so the number of bits bounds theirs. -/
def symbols (literals distances : Code) : Nat → Reading Unit
  | 0 => throw .brokenOff
  | fuel + 1 => do
    let some s ← literals.next | flawed .symbol
    if s < endSymbol then
      emit (UInt8.ofNat s)
      symbols literals distances fuel
    else if s = endSymbol then return
    else
      let some (base, extra) := lengthBases[s - endSymbol - 1]? | flawed .symbol
      let length := base + (← number extra)
      let some d ← distances.next | flawed .distance
      let some (base, extra) := distanceBases[d]? | flawed .distance
      let distance := base + (← number extra)
      if (← get).output.size < distance then flawed .distanceTooFar
      repeatBytes distance length
      symbols literals distances fuel

/-! ## Blocks -/

/-- The lengths of the fixed codes. -/
def fixedLiterals : List Nat :=
  List.replicate 144 8 ++ List.replicate 112 9 ++ List.replicate 24 7 ++ List.replicate 8 8

def fixedDistances : List Nat := List.replicate 32 5

/-- The order in which the lengths of the first code are given. -/
def lengthOrder : List Nat := [16, 17, 18, 0, 8, 7, 9, 6, 10, 5, 11, 4, 12, 3, 13, 2, 14, 1, 15]

/-- Numbers of three bits. -/
def triples : Nat → Reading (List Nat)
  | 0 => return []
  | count + 1 => return (← number 3) :: (← triples count)

/-- Lengths up to a number of them, given in reverse: numbers, or repetitions of the last one or of
zero. -/
def lengths (code : Code) (total : Nat) : Nat → List Nat → Reading (List Nat)
  | 0, _ => throw .brokenOff
  | fuel + 1, taken => do
    if total ≤ taken.length then return taken.reverse
    let s := (← code.next).getD 0
    if s < 16 then lengths code total fuel (s :: taken)
    else
      let (length, count) ← match s with
        | 16 => do
          let more ← number 2
          match taken with
          | last :: _ => pure (last, 3 + more)
          | [] => flawed .lengthRepeat
        | 17 => do pure (0, 3 + (← number 3))
        | _ => do pure (0, 11 + (← number 7))
      if total < taken.length + count then flawed .lengthRepeat
      lengths code total fuel (List.replicate count length ++ taken)

/-- The codes at the beginning of a block. -/
def readCodes : Reading (Code × Code) := do
  let literalCount := 257 + (← number 5)
  let distanceCount := 1 + (← number 5)
  let lengthCount := 4 + (← number 4)
  if 286 < literalCount || 30 < distanceCount then flawed .symbolCount
  let given := lengthOrder.zip (← triples lengthCount)
  let firstLengths := (List.range 19).map fun s => (given.lookup s).getD 0
  let some first := Code.ofLengths? false firstLengths | flawed .codeLengths
  let total := literalCount + distanceCount
  let all ← lengths first total (total + 1) []
  if all[endSymbol]?.getD 0 = 0 then flawed .missingEnd
  let some literals := Code.ofLengths? true (all.take literalCount) | flawed .symbolLengths
  let some distances := Code.ofLengths? true (all.drop literalCount) | flawed .distanceLengths
  return (literals, distances)

/-- Bytes that are taken over as they are. -/
def storedBytes : Nat → Reading Unit
  | 0 => return
  | count + 1 => do
    emit (UInt8.ofNat (← number 8))
    storedBytes count

def storedBlock : Reading Unit := do
  alignToByte
  let length ← number 16
  let complement ← number 16
  if length + complement ≠ 0xFFFF then flawed .storedLengths
  storedBytes length

/-- The blocks up to the last one. Every block takes bits, so the number of bits bounds theirs. -/
def blocks : Nat → Reading Unit
  | 0 => throw .brokenOff
  | fuel + 1 => do
    let last ← bit
    match ← number 2 with
    | 0 => storedBlock
    | 1 =>
      let some literals := Code.ofLengths? true fixedLiterals | flawed .symbolLengths
      let some distances := Code.ofLengths? true fixedDistances | flawed .distanceLengths
      symbols literals distances (8 * (← get).data.size + 1)
    | 2 =>
      let (literals, distances) ← readCodes
      symbols literals distances (8 * (← get).data.size + 1)
    | _ => flawed .blockType
    if last = 1 then alignToByte else blocks fuel

/-- Compressed data without anything around them. -/
def body : Reading Unit := do blocks (8 * (← get).data.size + 1)

/-- The bytes that compressed data stand for, as far as they go. -/
def run (reading : Reading Unit) (data : List UInt8) : Except Flaw (List UInt8) :=
  match reading.run ⟨data.toArray, 0, #[]⟩ with
  | (.error (.flawed flaw), _) => .error flaw
  | (_, p) => .ok p.output.toList

end Inflate
end Arazzo
