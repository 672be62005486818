import ApiAccessors.Document.Basic

namespace ApiAccessors
namespace SetOrder

/-!
# The order of sets

The members of a set stand at places that are counted from zero, and the order of the places is the
order in which the set is displayed and gone through.  A number takes the place that its remainder
by the number of places gives, and if that is taken, the first free one of the places that follow
from it; what is empty counts as zero.  Other members give no places; a set with such members stays
in the order in which it was written.
-/

/-- How many places a set has: a power of two above twice the number of its members. -/
def placeCount (members : Nat) : Nat :=
  if members ≤ 4 then 8 else Nat.pow 2 (Nat.log2 (2 * members) + 1)

/-- After so many powers of two the remainders begin again from one. -/
def period : Nat := 61

/-- The prime number that numbers are reduced by. -/
def modulus : Nat := Nat.pow 2 period - 1

/-- How many numbers a mark has room for. -/
def markCount : Nat := Nat.pow 2 64

/-- The mark of a remainder with its sign, where minus one has the mark of minus two. -/
def signedMark (negative : Bool) (remainder : Nat) : Nat :=
  if negative && remainder != 0 then markCount - max remainder 2 else remainder

def infiniteMark : Nat := 314159

/-- The mark of a number with a binary exponent, which counts only up to the period. -/
def scaledMark (negative : Bool) (significand : Nat) (exponent : Int) : Nat :=
  signedMark negative (significand * Nat.pow 2 (exponent % period).toNat % modulus)

def mark? : Value → Option Nat
  | .float .nan => none
  | .float (.infinite negative) => some (signedMark negative infiniteMark)
  | .float (.finite negative significand exponent) =>
      some (scaledMark negative significand exponent)
  | .text value => if value.isEmpty then some 0 else none
  | .bytes value => if value.isEmpty then some 0 else none
  | value => value.integer?.map (fun number =>
      signedMark (decide (number < 0)) (number.natAbs % modulus))

/-- How many places behind a place are tried with it. -/
def neighbours : Nat := 9

/-- The first free place from a place on, with the part of the mark that was not used yet. -/
def freePlace (taken : Nat → Bool) (count : Nat) : Nat → Nat → Nat → Nat
  | 0, place, _ => place
  | fuel + 1, place, mark =>
      let tried := if place + neighbours < count then neighbours + 1 else 1
      match ((List.range tried).map (place + ·)).find? (fun place => !taken place) with
      | some free => free
      | none =>
          let rest := mark / 32
          freePlace taken count fuel ((place * 5 + 1 + rest) % count) rest

/-- Put a member with a mark at its place. -/
def put (count : Nat) (placed : List (Nat × Value)) (entry : Nat × Value) : List (Nat × Value) :=
  let taken := fun place => placed.any (fun other => other.1 == place)
  (freePlace taken count (count + 16) (entry.1 % count) entry.1, entry.2) :: placed

def arrange (members : List Value) : List Value :=
  match members.mapM (fun member => (mark? member).map (·, member)) with
  | none => members
  | some marked =>
      let placed := marked.foldl (put (placeCount members.length)) []
      (placed.mergeSort (fun left right => decide (left.1 ≤ right.1))).map (·.2)

end SetOrder
end ApiAccessors
