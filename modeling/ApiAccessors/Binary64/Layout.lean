import ApiAccessors.Binary64.Shortest

namespace ApiAccessors
namespace Binary64

/-!
# Number layout

How the shortest decimal of a number is laid out: positionally while the decimal point stays within
the limits of the layout, and with an exponent otherwise.  What differs between printed forms, the
names of the values that are not finite, is a field of the layout.
-/

/-- The spellings of the values that are not finite. -/
structure Layout where
  nan : String
  infinity : String
  negativeInfinity : String

/-- The spelling used in displayed values. -/
def display : Layout := ⟨"nan", "inf", "-inf"⟩

/-- The spelling used in interchange documents. -/
def interchange : Layout := ⟨"NaN", "Infinity", "-Infinity"⟩

/-- The point stands at most this many places behind the first of the digits. -/
def positionalLimit : Int := 16

/-- At most this many zeros stand between the point and the first digit, less one. -/
def leadingLimit : Int := -4

def zeros (count : Nat) : List Char := List.replicate count '0'

/-- An exponent has a sign and at least two digits. -/
def exponentText (exponent : Int) : List Char :=
  let digits := Nat.toDigits 10 exponent.natAbs
  let padded := if digits.length < 2 then '0' :: digits else digits
  'e' :: (if exponent < 0 then '-' else '+') :: padded

/-- The text of a positive decimal: there is always a point or an exponent. -/
def decimalText (decimal : Decimal) : List Char :=
  let digits := Nat.toDigits 10 decimal.digits
  let length := digits.length
  let point := decimal.exponent + length
  if leadingLimit < point ∧ point ≤ positionalLimit then
    if point ≤ 0 then '0' :: '.' :: (zeros (-point).toNat ++ digits)
    else if (length : Int) ≤ point then
      digits ++ zeros (point - length).toNat ++ ['.', '0']
    else digits.take point.toNat ++ '.' :: digits.drop point.toNat
  else
    match digits with
    | [] => []
    | [digit] => digit :: exponentText (point - 1)
    | digit :: others => digit :: '.' :: (others ++ exponentText (point - 1))

def text (layout : Layout) : Binary64 → String
  | .nan => layout.nan
  | .infinite negative => if negative then layout.negativeInfinity else layout.infinity
  | .finite negative significand exponent =>
      let digits :=
        if significand = 0 then ['0', '.', '0'] else decimalText (shortest significand exponent)
      String.ofList (if negative then '-' :: digits else digits)

end Binary64
end ApiAccessors
