namespace ApiAccessors

/-!
# Binary floating point numbers

Numbers with 53 significant bits.  They are kept as a sign, a significand and a binary exponent,
so that reading, printing and comparing them is exact arithmetic on natural numbers.  Every
operation computes an exact ratio first and rounds it once, to the nearest number and to the even
one of two that are equally near.
-/

/-- A binary number, with a signed zero, infinities and a value that is no number. -/
inductive Binary64 where
  | nan
  | infinite (negative : Bool)
  | finite (negative : Bool) (significand : Nat) (exponent : Int)
deriving DecidableEq, Repr, Inhabited

namespace Binary64

/-- The exponent of the finest grid. -/
def leastExponent : Int := -1074

/-- The exponent of the coarsest grid. -/
def greatestExponent : Int := 971

def zero (negative : Bool) : Binary64 := .finite negative 0 leastExponent

/-- The quotient rounded to the nearest natural number, a half to the even one. -/
def divideEven (dividend divisor : Nat) : Nat :=
  let quotient := dividend / divisor
  let twice := 2 * (dividend % divisor)
  if twice < divisor then quotient
  else if divisor < twice then quotient + 1
  else quotient + quotient % 2

/-- The nearest multiple of `2 ^ exponent` to a ratio, as a count. -/
def countOnGrid (numerator denominator : Nat) (exponent : Int) : Nat :=
  if 0 ≤ exponent then divideEven numerator (denominator * Nat.pow 2 exponent.toNat)
  else divideEven (numerator * Nat.pow 2 (-exponent).toNat) denominator

/-- Whether a ratio is at least `2 ^ exponent`. -/
def reachesPower (numerator denominator : Nat) (exponent : Int) : Bool :=
  if 0 ≤ exponent then denominator * Nat.pow 2 exponent.toNat ≤ numerator
  else denominator ≤ numerator * Nat.pow 2 (-exponent).toNat

/-- The greatest power of two that a positive ratio reaches. -/
def binaryOrder (numerator denominator : Nat) : Int :=
  let guess : Int := (Nat.log2 numerator : Int) - Nat.log2 denominator
  if reachesPower numerator denominator guess then guess else guess - 1

/-- The number nearest to a ratio with positive denominator. -/
def ofRatio (negative : Bool) (numerator denominator : Nat) : Binary64 :=
  if numerator = 0 then zero negative
  else
    let exponent := max (binaryOrder numerator denominator - 52) leastExponent
    let count := countOnGrid numerator denominator exponent
    let (significand, exponent) :=
      if count = Nat.pow 2 53 then (Nat.pow 2 52, exponent + 1) else (count, exponent)
    if greatestExponent < exponent then .infinite negative
    else .finite negative significand exponent

/-- How many decimal digits a natural number has; zero has one. -/
def decimalLength (number : Nat) : Nat := (Nat.toDigits 10 number).length

/--
The number nearest to `digits * 10 ^ exponent`.  Exponents that are certain to overflow or to
vanish are decided by the number of digits alone.
-/
def ofDecimal (negative : Bool) (digits : Nat) (exponent : Int) : Binary64 :=
  let order := exponent + decimalLength digits
  if digits = 0 then zero negative
  else if 400 < order then .infinite negative
  else if order < -400 then zero negative
  else if 0 ≤ exponent then ofRatio negative (digits * Nat.pow 10 exponent.toNat) 1
  else ofRatio negative digits (Nat.pow 10 (-exponent).toNat)

def ofNat (number : Nat) : Binary64 := ofRatio false number 1

def isZero : Binary64 → Bool
  | .finite _ significand _ => significand == 0
  | _ => false

def negate : Binary64 → Binary64
  | .nan => .nan
  | .infinite negative => .infinite (!negative)
  | .finite negative significand exponent => .finite (!negative) significand exponent

/-- A signed integer times a power of two, rounded. -/
def ofScaled (count : Int) (exponent : Int) : Binary64 :=
  let negative := decide (count < 0)
  if 0 ≤ exponent then ofRatio negative (count.natAbs * Nat.pow 2 exponent.toNat) 1
  else ofRatio negative count.natAbs (Nat.pow 2 (-exponent).toNat)

/-- The significand with its sign, in units of `2 ^ unit` for a unit that is not above it. -/
def signedCount (negative : Bool) (significand : Nat) (exponent unit : Int) : Int :=
  let count : Int := (significand * Nat.pow 2 (exponent - unit).toNat : Nat)
  if negative then -count else count

/-- The rounded sum. -/
def add : Binary64 → Binary64 → Binary64
  | .finite n1 s1 e1, .finite n2 s2 e2 =>
      let unit := min e1 e2
      let total := signedCount n1 s1 e1 unit + signedCount n2 s2 e2 unit
      if total = 0 then zero (n1 && n2) else ofScaled total unit
  | .infinite n1, .infinite n2 => if n1 == n2 then .infinite n1 else .nan
  | .infinite n1, .finite _ _ _ => .infinite n1
  | .finite _ _ _, .infinite n2 => .infinite n2
  | _, _ => .nan

/-- The rounded product. -/
def mul : Binary64 → Binary64 → Binary64
  | .finite n1 s1 e1, .finite n2 s2 e2 =>
      if s1 * s2 = 0 then zero (n1 != n2)
      else
        match ofScaled ((s1 * s2 : Nat) : Int) (e1 + e2) with
        | .finite _ significand exponent => .finite (n1 != n2) significand exponent
        | .infinite _ => .infinite (n1 != n2)
        | .nan => .nan
  | .infinite n1, .infinite n2 => .infinite (n1 != n2)
  | .infinite n1, .finite n2 s2 _ => if s2 = 0 then .nan else .infinite (n1 != n2)
  | .finite n1 s1 _, .infinite n2 => if s1 = 0 then .nan else .infinite (n1 != n2)
  | _, _ => .nan

/-- Whether two numbers are equal in value: both zeros are one value, and `nan` equals nothing. -/
def sameNumber : Binary64 → Binary64 → Bool
  | .finite n1 s1 e1, .finite n2 s2 e2 =>
      let unit := min e1 e2
      signedCount n1 s1 e1 unit == signedCount n2 s2 e2 unit
  | .infinite n1, .infinite n2 => n1 == n2
  | _, _ => false

/-- Whether a number has the value of an integer. -/
def equalsInt : Binary64 → Int → Bool
  | .finite negative significand exponent, number =>
      let unit := min exponent 0
      signedCount negative significand exponent unit == number * (Nat.pow 2 (-unit).toNat : Nat)
  | _, _ => false

theorem negate_ofRatio (numerator denominator : Nat) :
    (ofRatio false numerator denominator).negate = ofRatio true numerator denominator := by
  unfold ofRatio
  by_cases isZero : numerator = 0
  · rw [if_pos isZero, if_pos isZero]
    rfl
  · simp only [if_neg isZero]
    rw [apply_ite negate]
    rfl

theorem negate_ofDecimal (digits : Nat) (exponent : Int) :
    (ofDecimal false digits exponent).negate = ofDecimal true digits exponent := by
  unfold ofDecimal
  simp only [apply_ite negate, negate_ofRatio]
  rfl

end Binary64
end ApiAccessors
