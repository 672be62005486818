namespace ApiAccessors
namespace Checksum

/-!
# Checksums

Two numbers of 32 bits that are written behind bytes to find out whether they have changed: the
remainder of a division of polynomials, and a pair of sums.
-/

/-- The divisor, with the highest power in the lowest bit. -/
def divisor : UInt32 := 0xEDB88320

/-- Divide on by one bit. -/
def shift (remainder : UInt32) : UInt32 :=
  if remainder % 2 = 1 then (remainder / 2) ^^^ divisor else remainder / 2

/-- Divide on by so many bits. -/
def shifts : Nat → UInt32 → UInt32
  | 0, remainder => remainder
  | count + 1, remainder => shifts count (shift remainder)

/-- The remainder of bytes, inverted at the beginning and at the end. -/
def remainder (bytes : List UInt8) : UInt32 :=
  (bytes.foldl (fun value byte => shifts 8 (value ^^^ byte.toUInt32)) 0xFFFFFFFF) ^^^ 0xFFFFFFFF

/-- The sums are taken to this modulus. -/
def modulus : Nat := 65521

/-- The sum of bytes, and above it the sum of the sums on the way. -/
def sums (bytes : List UInt8) : UInt32 :=
  let (low, high) := bytes.foldl (fun (low, high) byte =>
    let low := (low + byte.toNat) % modulus
    (low, (high + low) % modulus)) (1, 0)
  (high * 65536 + low).toUInt32

end Checksum
end ApiAccessors
