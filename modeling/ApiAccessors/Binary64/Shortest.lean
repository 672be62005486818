import ApiAccessors.Binary64.Basic

namespace ApiAccessors
namespace Binary64

/-!
# Shortest decimals

The fewest decimal digits that read back as a given number.  The grids of one, two, three and more
digits are tried in turn; on each of them the two neighbours of the number are the only candidates
worth testing, and a candidate is accepted exactly if reading it gives the number.  The decimal
that is printed therefore reads back by construction.
-/

/-- A decimal: digits times a power of ten. -/
structure Decimal where
  digits : Nat
  exponent : Int
deriving DecidableEq, Repr

namespace Decimal

def read (negative : Bool) (decimal : Decimal) : Binary64 :=
  ofDecimal negative decimal.digits decimal.exponent

/-- Move trailing zeros of the digits into the exponent, at most `count` of them. -/
def dropZeros : Nat → Decimal → Decimal
  | 0, decimal => decimal
  | count + 1, decimal =>
      if decimal.digits % 10 = 0 then
        dropZeros count ⟨decimal.digits / 10, decimal.exponent + 1⟩
      else decimal

end Decimal

/-- A positive number as a ratio. -/
def ratio (significand : Nat) (exponent : Int) : Nat × Nat :=
  if 0 ≤ exponent then (significand * Nat.pow 2 exponent.toNat, 1)
  else (significand, Nat.pow 2 (-exponent).toNat)

/-- The ratio counted in units of a power of ten. -/
def inTens (numerator denominator : Nat) (exponent : Int) : Nat × Nat :=
  if 0 ≤ exponent then (numerator, denominator * Nat.pow 10 exponent.toNat)
  else (numerator * Nat.pow 10 (-exponent).toNat, denominator)

/-- Whether a ratio is at least `10 ^ exponent`. -/
def reachesTen (numerator denominator : Nat) (exponent : Int) : Bool :=
  let (n, d) := inTens numerator denominator exponent
  d ≤ n

/-- The greatest power of ten that a positive ratio reaches, guessed from its binary order. -/
def decimalOrder (numerator denominator : Nat) : Int :=
  let guess := (binaryOrder numerator denominator * 30103) / 100000
  if reachesTen numerator denominator (guess + 1) then guess + 1
  else if reachesTen numerator denominator guess then guess
  else guess - 1

/-- The neighbours of a ratio on the grid of a power of ten, the nearer one first. -/
def neighbours (numerator denominator : Nat) (exponent : Int) : List Decimal :=
  let (n, d) := inTens numerator denominator exponent
  let below := n / d
  let twice := 2 * (n % d)
  if twice < d || (twice == d && below % 2 == 0) then
    [⟨below, exponent⟩, ⟨below + 1, exponent⟩]
  else [⟨below + 1, exponent⟩, ⟨below, exponent⟩]

/-- The exact decimal of a number, with as many digits as it needs. -/
def exactDecimal (significand : Nat) (exponent : Int) : Decimal :=
  if 0 ≤ exponent then ⟨significand * Nat.pow 2 exponent.toNat, 0⟩
  else ⟨significand * Nat.pow 5 (-exponent).toNat, exponent⟩

/-- Try `count` grids from a power of ten downwards, then give the exact decimal. -/
def searchGrids (significand : Nat) (exponent : Int) : Nat → Int → Decimal
  | 0, _ => exactDecimal significand exponent
  | count + 1, order =>
      let (numerator, denominator) := ratio significand exponent
      match (neighbours numerator denominator order).find?
          (fun decimal => decimal.read false == .finite false significand exponent) with
      | some decimal => decimal
      | none => searchGrids significand exponent count (order - 1)

/-- The shortest decimal that reads back as a positive number. -/
def shortest (significand : Nat) (exponent : Int) : Decimal :=
  let (numerator, denominator) := ratio significand exponent
  let decimal := searchGrids significand exponent 17 (decimalOrder numerator denominator)
  decimal.dropZeros (decimalLength decimal.digits)

end Binary64
end ApiAccessors
