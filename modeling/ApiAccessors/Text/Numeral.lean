import ApiAccessors.Binary64.Basic
import ApiAccessors.Text.Blank
import ApiAccessors.Text.Digits
import ApiAccessors.Text.Split

namespace ApiAccessors
namespace Text

/-!
# Numerals

Numbers as people may write them: with white space around them, with a sign, and with the digits of
any script.  An integer may carry the mark of its base, and low lines between its digits; a real
number may have a point and an exponent, or be spelled out if it is not finite.
-/

/-- Integers with more decimal digits than this are not read. -/
def numeralLimit : Nat := 4300

/-- Whether a numeral has a minus sign, and the text behind its sign. -/
def takeSign : List Char → Bool × List Char
  | '-' :: rest => (true, rest)
  | '+' :: rest => (false, rest)
  | text => (false, text)

/-- The value of a digit in a system that continues with the letters. -/
def digitValue? (c : Char) : Option Nat :=
  match decimalValue? c with
  | some value => some value
  | none =>
      let code := c.toNat
      if 'a'.toNat ≤ code && code ≤ 'z'.toNat then some (code - 'a'.toNat + 10)
      else if 'A'.toNat ≤ code && code ≤ 'Z'.toNat then some (code - 'A'.toNat + 10)
      else none

/-- The number that digits make in a base, continuing a number that has been begun. -/
def digitsInBase? (base : Nat) : Nat → List Char → Option Nat
  | number, [] => some number
  | number, c :: rest =>
      match digitValue? c with
      | some value => if value < base then digitsInBase? base (number * base + value) rest else none
      | none => none

def baseMark? (base : Nat) : Option Char :=
  if base = 16 then some 'x' else if base = 8 then some 'o' else if base = 2 then some 'b' else none

/-- The digits behind the mark of a base, if the mark is there. -/
def dropBaseMark (base : Nat) (text : List Char) : List Char :=
  match text, baseMark? base with
  | '0' :: letter :: rest, some mark => if letter.toLower = mark then rest else text
  | _, _ => text

/-- Digits without the single low lines that may stand between them. -/
def dropLowLines? (digits : List Char) : Option (List Char) :=
  let groups := splitWhere (· == '_') digits
  if groups.any List.isEmpty then none else some groups.flatten

def readInteger? (base : Nat) (text : List Char) : Option Int :=
  let (negative, unsigned) := takeSign (trim text)
  match dropLowLines? (dropBaseMark base unsigned) with
  | none => none
  | some digits =>
      if base = 10 && numeralLimit < digits.length then none
      else
        match digitsInBase? base 0 digits with
        | some number => some (if negative then -(number : Int) else number)
        | none => none

/-- The exponent behind a number: nothing, or a mark, perhaps a sign, and digits. -/
def readScale? : List Char → Option Int
  | [] => some 0
  | mark :: rest =>
      let (negative, digits) := takeSign rest
      if (mark = 'e' || mark = 'E') && !digits.isEmpty then
        match digits.mapM decimalValue? with
        | some values =>
            let number : Nat := values.foldl (fun number value => number * 10 + value) 0
            some (if negative then -(number : Int) else number)
        | none => none
      else none

/-- A real number without sign. -/
def readUnsignedReal? (negative : Bool) (text : List Char) : Option Binary64 :=
  let word := text.map Char.toLower
  if word = "inf".toList || word = "infinity".toList then some (.infinite negative)
  else if word = "nan".toList then some .nan
  else
    let isDigit := fun c => (decimalValue? c).isSome
    let whole := text.takeWhile isDigit
    let behind := text.dropWhile isDigit
    let (places, last) :=
      match behind with
      | '.' :: rest => (rest.takeWhile isDigit, rest.dropWhile isDigit)
      | _ => ([], behind)
    if whole.isEmpty && places.isEmpty then none
    else
      match readScale? last with
      | some scale =>
          let digits := (whole ++ places).filterMap decimalValue?
          let number := digits.foldl (fun number value => number * 10 + value) 0
          some (Binary64.ofDecimal negative number (scale - places.length))
      | none => none

def readReal? (text : List Char) : Option Binary64 :=
  let (negative, unsigned) := takeSign (trim text)
  readUnsignedReal? negative unsigned

end Text
end ApiAccessors
