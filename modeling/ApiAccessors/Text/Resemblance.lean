namespace ApiAccessors
namespace Text

/-!
# Resemblance of words

How much two words have in common: the longest piece that both contain, and then the same again on
both sides of it.  The resemblance is twice the number of common characters for the number of all
characters; words that resemble a given one by three fifths or more are worth suggesting.
-/

namespace Resemblance

/-- How many characters two texts begin with in common. -/
def commonStart : List Char → List Char → Nat
  | a :: left, b :: right => if a = b then commonStart left right + 1 else 0
  | _, _ => 0

/-- A piece of two texts: where it begins in each, and how long it is. -/
structure Match where
  first : Nat
  second : Nat
  length : Nat

/-- The longer piece, and the earlier one of equally long ones. -/
def Match.longer (found other : Match) : Match :=
  if found.length < other.length then other else found

/-- The longest piece that begins with the first text, from a position of the second on. -/
def bestAgainst (first : Nat) (left : List Char) : Nat → List Char → Match → Match
  | _, [], found => found
  | second, c :: right, found =>
      bestAgainst first left (second + 1) right
        (found.longer ⟨first, second, commonStart left (c :: right)⟩)

/-- The longest common piece, from a position of the first text on. -/
def bestFrom (right : List Char) : Nat → List Char → Match → Match
  | _, [], found => found
  | first, c :: left, found =>
      bestFrom right (first + 1) left (bestAgainst first (c :: left) 0 right found)

/-- How many characters two texts have in common; `fuel` bounds the number of pieces. -/
def commonCount : Nat → List Char → List Char → Nat
  | 0, _, _ => 0
  | fuel + 1, left, right =>
      let found := bestFrom right 0 left ⟨0, 0, 0⟩
      if found.length = 0 then 0
      else
        commonCount fuel (left.take found.first) (right.take found.second) + found.length +
          commonCount fuel (left.drop (found.first + found.length))
            (right.drop (found.second + found.length))

/-- A word with its number of common characters and the number of all characters. -/
structure Candidate where
  word : String
  common : Nat
  total : Nat

def candidate (sought word : String) : Candidate :=
  let left := word.toList
  let right := sought.toList
  ⟨word, commonCount (left.length + 1) left right, left.length + right.length⟩

/-- Whether a word resembles the sought one enough. -/
def Candidate.isClose (candidate : Candidate) : Bool :=
  candidate.total == 0 || decide (3 * candidate.total ≤ 5 * (2 * candidate.common))

/-- Whether a word comes before another one: it resembles more, or it is the greater text. -/
def Candidate.before (left right : Candidate) : Bool :=
  let first := left.common * right.total
  let second := right.common * left.total
  decide (second < first) || (first == second && decide (right.word ≤ left.word))

/-- How many words are suggested at most. -/
def suggestionLimit : Nat := 3

/-- The words that resemble a sought one most, in the order of texts. -/
def closest (sought : String) (words : List String) : List String :=
  let close := ((words.map (candidate sought)).filter Candidate.isClose).mergeSort Candidate.before
  ((close.take suggestionLimit).map (·.word)).mergeSort (fun left right => decide (left ≤ right))

end Resemblance
end Text
end ApiAccessors
