import ApiAccessors.Compression.PrefixCode

namespace ApiAccessors
namespace Inflate

/-!
# Deflated bytes

Bytes that were made shorter by naming what occurred before.  They come in blocks: a block is stored
as it is, or written in two codes, one for bytes and lengths and one for distances, which are fixed
or written in front of the block.  Bits are taken from the low end of each byte.

Bytes that end too early are no fault: what they say up to there counts.
-/

/-- What deflated bytes can do wrong. -/
inductive Fault where
  | blockType
  | storedLengths
  | tooManySymbols
  | codeLengths
  | repeatedLength
  | noEnd
  | literalLengths
  | distanceLengths
  | literal
  | distance
  | tooFarBack
deriving DecidableEq, Repr

namespace Fault

def message : Fault → String
  | .blockType => "invalid block type"
  | .storedLengths => "invalid stored block lengths"
  | .tooManySymbols => "too many length or distance symbols"
  | .codeLengths => "invalid code lengths set"
  | .repeatedLength => "invalid bit length repeat"
  | .noEnd => "invalid code -- missing end-of-block"
  | .literalLengths => "invalid literal/lengths set"
  | .distanceLengths => "invalid distances set"
  | .literal => "invalid literal/length code"
  | .distance => "invalid distance code"
  | .tooFarBack => "invalid distance too far back"

end Fault

/-- Why reading stops. -/
inductive Stop where
  /-- The bytes end too early. -/
  | short
  | fault (cause : Fault)

/-- The bits that are still to come, and the bytes so far, the last one first. -/
structure Inflating where
  bits : List Bool
  output : List UInt8

abbrev Step := ExceptT Stop (StateM Inflating)

namespace Step

def refuse {α : Type} (cause : Fault) : Step α := throw (.fault cause)

/-- A number of so many bits, the lowest first. -/
def number (width : Nat) : Step Nat := do
  let bits := (← get).bits
  let taken := bits.take width
  if taken.length < width then throw .short
  modify (fun state => { state with bits := bits.drop width })
  pure (taken.foldr (fun bit value => bit.toNat + 2 * value) 0)

def symbol (code : PrefixCode) (missing : Fault) : Step Nat := do
  match code.find (← get).bits with
  | .symbol symbol rest =>
      modify (fun state => { state with bits := rest })
      pure symbol
  | .short => throw .short
  | .nothing => refuse missing

/-- Put out a byte. -/
def put (byte : UInt8) : Step Unit :=
  modify (fun state => { state with output := byte :: state.output })

/-- Put out bytes again that are so far back. -/
def again (distance : Nat) : Nat → Step Unit
  | 0 => pure ()
  | count + 1 => do
      match (← get).output[distance - 1]? with
      | some byte =>
          put byte
          again distance count
      | none => refuse .tooFarBack

/-- Go on with the next whole byte. -/
def align : Step Unit :=
  modify (fun state => { state with bits := state.bits.drop (state.bits.length % 8) })

/-- Put out so many bytes as they are. -/
def copy : Nat → Step Unit
  | 0 => pure ()
  | count + 1 => do
      put (← number 8).toUInt8
      copy count

def stored : Step Unit := do
  align
  let lengths ← number 32
  let count := lengths % 65536
  if count + lengths / 65536 ≠ 65535 then refuse .storedLengths
  copy count

def endSymbol : Nat := 256

/-- The least length of each symbol above the end, and how many bits are added to it. -/
def lengthSymbols : List (Nat × Nat) := [
  (3, 0), (4, 0), (5, 0), (6, 0), (7, 0), (8, 0), (9, 0), (10, 0), (11, 1), (13, 1), (15, 1),
  (17, 1), (19, 2), (23, 2), (27, 2), (31, 2), (35, 3), (43, 3), (51, 3), (59, 3), (67, 4),
  (83, 4), (99, 4), (115, 4), (131, 5), (163, 5), (195, 5), (227, 5), (258, 0)]

/-- The least distance of each symbol, and how many bits are added to it. -/
def distanceSymbols : List (Nat × Nat) := [
  (1, 0), (2, 0), (3, 0), (4, 0), (5, 1), (7, 1), (9, 2), (13, 2), (17, 3), (25, 3), (33, 4),
  (49, 4), (65, 5), (97, 5), (129, 6), (193, 6), (257, 7), (385, 7), (513, 8), (769, 8),
  (1025, 9), (1537, 9), (2049, 10), (3073, 10), (4097, 11), (6145, 11), (8193, 12), (12289, 12),
  (16385, 13), (24577, 13)]

/-- A number that a symbol begins. -/
def measure (table : List (Nat × Nat)) (symbol : Nat) (missing : Fault) : Step Nat :=
  match table[symbol]? with
  | some (least, width) => do pure (least + (← number width))
  | none => refuse missing

/-- The rest of a block in two codes; `fuel` bounds its symbols. -/
def coded (literals distances : PrefixCode) : (fuel : Nat) → Step Unit
  | 0 => throw .short
  | fuel + 1 => do
      let found ← symbol literals .literal
      if found < endSymbol then
        put found.toUInt8
        coded literals distances fuel
      else if found ≠ endSymbol then
        let length ← measure lengthSymbols (found - endSymbol - 1) .literal
        let far ← symbol distances .distance
        let distance ← measure distanceSymbols far .distance
        again distance length
        coded literals distances fuel

/-- The fixed code of bytes and lengths. -/
def fixedLiterals : PrefixCode :=
  .ofLengths (List.replicate 144 8 ++ List.replicate 112 9 ++ List.replicate 24 7 ++
    List.replicate 8 8)

def fixedDistances : PrefixCode := .ofLengths (List.replicate 32 5)

/-- The order in which the lengths for the code of lengths are written. -/
def lengthOrder : List Nat :=
  [16, 17, 18, 0, 8, 7, 9, 6, 10, 5, 11, 4, 12, 3, 13, 2, 14, 1, 15]

/-- The code of lengths, of which so many lengths are written. -/
def lengthCode (count : Nat) : Step PrefixCode := do
  let written ← (lengthOrder.take count).mapM (fun place => do pure (place, ← number 3))
  let code := PrefixCode.ofLengths
    ((List.range lengthOrder.length).map (fun place => (written.lookup place).getD 0))
  if code.isEmpty || code.isComplete then pure code else refuse .codeLengths

/-- A symbol of the code of lengths; where it has no symbols every bit is the first of all. -/
def lengthSymbol (code : PrefixCode) : Step Nat :=
  if code.isEmpty then do
    let _ ← number 1
    pure 0
  else symbol code .codeLengths

/-- Lengths that are written in the code of lengths, behind those so far in reverse. -/
def lengths (code : PrefixCode) (count : Nat) : (fuel : Nat) → List Nat → Step (List Nat)
  | 0, _ => throw .short
  | fuel + 1, known =>
      if count ≤ known.length then pure known.reverse
      else do
        let found ← lengthSymbol code
        if found < 16 then lengths code count fuel (found :: known)
        else
          let (least, width) :=
            if found = 16 then (3, 2) else if found = 17 then (3, 3) else (11, 7)
          let times := least + (← number width)
          if found = 16 && known.isEmpty then refuse .repeatedLength
          if count < known.length + times then refuse .repeatedLength
          let repeated := if found = 16 then known.head?.getD 0 else 0
          lengths code count fuel (List.replicate times repeated ++ known)

/-- A code for a block; one that is not complete has no more than one symbol. -/
def blockCode (lengths : List Nat) (unfit : Fault) : Step PrefixCode :=
  let code := PrefixCode.ofLengths lengths
  if code.isComplete || code.isTiny then pure code else refuse unfit

/-- The two codes that are written in front of a block. -/
def writtenCodes : Step (PrefixCode × PrefixCode) := do
  let literalCount := (← number 5) + 257
  let distanceCount := (← number 5) + 1
  let lengthCount := (← number 4) + 4
  if 286 < literalCount || 30 < distanceCount then refuse .tooManySymbols
  let code ← lengthCode lengthCount
  let count := literalCount + distanceCount
  let lengths ← lengths code count (count + 1) []
  if lengths[endSymbol]?.getD 0 = 0 then refuse .noEnd
  let literals ← blockCode (lengths.take literalCount) .literalLengths
  let distances ← blockCode (lengths.drop literalCount) .distanceLengths
  pure (literals, distances)

/-- The rest of a block of a type. -/
def block (fuel : Nat) : Nat → Step Unit
  | 0 => stored
  | 1 => coded fixedLiterals fixedDistances fuel
  | 2 => do
      let (literals, distances) ← writtenCodes
      coded literals distances fuel
  | _ => refuse .blockType

/-- All blocks up to the last one; `fuel` bounds the bits. -/
def blocks : (fuel : Nat) → Step Unit
  | 0 => throw .short
  | fuel + 1 => do
      let head ← number 3
      block fuel (head / 2)
      if head % 2 = 0 then blocks fuel

end Step

def bitsOf (bytes : List UInt8) : List Bool :=
  bytes.flatMap (fun byte => (List.range 8).map (byte.toNat.testBit ·))

/-- What deflated bytes stand for, and the bytes behind them unless they end too early. -/
structure Inflated where
  output : List UInt8
  rest : Option (List UInt8)

/-- Read deflated bytes. -/
def inflate (bytes : List UInt8) : Except Fault Inflated :=
  let bits := bitsOf bytes
  let (ending, state) := (Step.blocks (bits.length + 1)).run.run ⟨bits, []⟩
  let output := state.output.reverse
  match ending with
  | .ok () => .ok ⟨output, some (bytes.drop (bytes.length - state.bits.length / 8))⟩
  | .error .short => .ok ⟨output, none⟩
  | .error (.fault cause) => .error cause

end Inflate
end ApiAccessors
