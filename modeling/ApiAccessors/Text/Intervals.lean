namespace ApiAccessors
namespace Text

/-!
# Character intervals

A class of characters is written down as a list of closed intervals of code points in increasing
order.  Membership reads the list from the left and stops at the first interval that begins beyond
the character.
-/

/-- Closed intervals of code points, in increasing order. -/
structure Intervals where
  pairs : List (Nat × Nat)

namespace Intervals

/-- Membership of a code point, for pairs in increasing order. -/
def covers : List (Nat × Nat) → Nat → Bool
  | [], _ => false
  | (low, high) :: rest, code =>
      if code < low then false else code ≤ high || covers rest code

/-- Whether a character lies in one of the intervals. -/
def has (table : Intervals) (c : Char) : Bool :=
  covers table.pairs c.toNat

theorem exists_of_covers {pairs : List (Nat × Nat)} {code : Nat}
    (covered : covers pairs code = true) :
    ∃ pair ∈ pairs, pair.1 ≤ code ∧ code ≤ pair.2 := by
  induction pairs with
  | nil => simp [covers] at covered
  | cons pair rest ih =>
      obtain ⟨low, high⟩ := pair
      simp only [covers] at covered
      split at covered
      · simp at covered
      · rename_i notBelow
        rcases Bool.or_eq_true_iff.mp covered with within | later
        · exact ⟨(low, high), by simp, Nat.le_of_not_lt notBelow, of_decide_eq_true within⟩
        · obtain ⟨pair, member, bounds⟩ := ih later
          exact ⟨pair, List.mem_cons_of_mem _ member, bounds⟩

end Intervals
end Text
end ApiAccessors
