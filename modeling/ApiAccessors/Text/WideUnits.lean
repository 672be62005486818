import ApiAccessors.Text.Utf8

namespace ApiAccessors
namespace Text

/-!
# Wide encodings

Encodings of characters in units of two or four bytes, in either order of the bytes.  Half a pair of
units becomes the replacement character.
-/

inductive ByteOrder where
  | big
  | little
deriving DecidableEq, Repr

namespace ByteOrder

def unit (order : ByteOrder) (bytes : List UInt8) : Nat :=
  let ordered :=
    match order with
    | .big => bytes
    | .little => bytes.reverse
  ordered.foldl (fun (number : Nat) byte => number * 256 + byte.toNat) 0

/-- Units of two bytes, if the bytes are even in number. -/
def pairs? (order : ByteOrder) : List UInt8 → Option (List Nat)
  | [] => some []
  | [_] => none
  | a :: b :: rest => (pairs? order rest).map (order.unit [a, b] :: ·)

/-- Units of four bytes, if the bytes make whole units. -/
def quads? (order : ByteOrder) : List UInt8 → Option (List Nat)
  | [] => some []
  | a :: b :: c :: d :: rest => (quads? order rest).map (order.unit [a, b, c, d] :: ·)
  | _ => none

end ByteOrder

def isHighHalf (unit : Nat) : Bool := 0xD800 ≤ unit && unit < 0xDC00

def isLowHalf (unit : Nat) : Bool := 0xDC00 ≤ unit && unit < 0xE000

/-- A character by number. -/
def unitChar (unit : Nat) : Char :=
  if isHighHalf unit || isLowHalf unit then '\uFFFD' else Char.ofNat unit

/-- The characters of units of two bytes. -/
def charsOfUnits : List Nat → List Char
  | [] => []
  | [unit] => [unitChar unit]
  | unit :: next :: rest =>
      if isHighHalf unit && isLowHalf next then
        Char.ofNat (0x10000 + (unit - 0xD800) * 0x400 + (next - 0xDC00)) :: charsOfUnits rest
      else unitChar unit :: charsOfUnits (next :: rest)

/-- Read units of two bytes. -/
def decodePairs? (order : ByteOrder) (bytes : List UInt8) : Option (List Char) :=
  (order.pairs? bytes).map charsOfUnits

/-- Units of two bytes, and whether a byte is left over. -/
def ByteOrder.wholePairs (order : ByteOrder) : List UInt8 → List Nat × Bool
  | [] => ([], false)
  | [_] => ([], true)
  | a :: b :: rest =>
      let (units, isOdd) := order.wholePairs rest
      (order.unit [a, b] :: units, isOdd)

/-- Read units of two bytes; a byte that is left over becomes the replacement character. -/
def decodePairs (order : ByteOrder) (bytes : List UInt8) : List Char :=
  let (units, isOdd) := order.wholePairs bytes
  charsOfUnits units ++ (if isOdd then ['\uFFFD'] else [])

/-- Read units of four bytes, each of which must be the number of a character. -/
def decodeQuads? (order : ByteOrder) (bytes : List UInt8) : Option (List Char) := do
  let units ← order.quads? bytes
  if units.all (· ≤ 0x10FFFF) then some (units.map unitChar) else none

/-- Read units of four bytes; what is no number of a character is replaced. -/
def decodeQuads (order : ByteOrder) : List UInt8 → List Char
  | [] => []
  | a :: b :: c :: d :: rest =>
      let unit := order.unit [a, b, c, d]
      (if unit ≤ 0x10FFFF then unitChar unit else '\uFFFD') :: decodeQuads order rest
  | _ => ['\uFFFD']

end Text
end ApiAccessors
