namespace ApiAccessors
namespace Text

/-!
# Hexadecimal digits

Fixed-width numbers as they stand in escape sequences, in small or in capital letters.
-/

/-- The letter case of the digits beyond nine. -/
inductive HexCase where
  | small
  | capital
deriving DecidableEq

def HexCase.digit (style : HexCase) (value : Nat) : Char :=
  if value < 10 then Char.ofNat ('0'.toNat + value)
  else
    match style with
    | .small => Char.ofNat ('a'.toNat + (value - 10))
    | .capital => Char.ofNat ('A'.toNat + (value - 10))

/-- The last `width` digits of a number. -/
def HexCase.write (style : HexCase) : Nat → Nat → List Char
  | 0, _ => []
  | width + 1, number => style.write width (number / 16) ++ [style.digit (number % 16)]

/-- The value of a digit in either case. -/
def hexValue? (c : Char) : Option Nat :=
  let code := c.toNat
  if '0'.toNat ≤ code && code ≤ '9'.toNat then some (code - '0'.toNat)
  else if 'a'.toNat ≤ code && code ≤ 'f'.toNat then some (code - 'a'.toNat + 10)
  else if 'A'.toNat ≤ code && code ≤ 'F'.toNat then some (code - 'A'.toNat + 10)
  else none

/-- Read exactly `width` digits, continuing a number that has been begun. -/
def readHex : Nat → Nat → List Char → Option (Nat × List Char)
  | 0, number, rest => some (number, rest)
  | _ + 1, _, [] => none
  | width + 1, number, c :: rest =>
      match hexValue? c with
      | some value => readHex width (number * 16 + value) rest
      | none => none

end Text
end ApiAccessors
