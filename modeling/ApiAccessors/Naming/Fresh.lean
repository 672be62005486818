namespace ApiAccessors
namespace Naming

/-!
# Free numbers

A row of numbered names is searched for the first one that is not taken.  As the names of a row
differ from each other, one more of them than there are taken names is enough to find a free one;
so the search never looks further.
-/

/-- The first free number from `start` on, among the next `fuel` ones. -/
def seek (isTaken : Nat → Bool) : Nat → Nat → Option Nat
  | 0, _ => none
  | fuel + 1, start => if isTaken start then seek isTaken fuel (start + 1) else some start

/-- A number that is found is free, and all numbers before it are taken. -/
theorem seek_eq_some {isTaken : Nat → Bool} {fuel start number : Nat}
    (found : seek isTaken fuel start = some number) :
    isTaken number = false ∧ start ≤ number ∧
      ∀ earlier, start ≤ earlier → earlier < number → isTaken earlier = true := by
  induction fuel generalizing start with
  | zero => simp [seek] at found
  | succ fuel ih =>
      simp only [seek] at found
      split at found
      · rename_i taken
        obtain ⟨free, above, before⟩ := ih found
        refine ⟨free, by omega, fun earlier low high => ?_⟩
        by_cases same : earlier = start
        · exact same ▸ taken
        · exact before earlier (by omega) high
      · rename_i free
        cases found
        exact ⟨by simpa using free, Nat.le_refl _, fun earlier low high => by omega⟩

/-- Where nothing is found, all numbers looked at are taken. -/
theorem seek_eq_none {isTaken : Nat → Bool} {fuel start : Nat}
    (missing : seek isTaken fuel start = none) (number : Nat) (low : start ≤ number)
    (high : number < start + fuel) : isTaken number = true := by
  induction fuel generalizing start with
  | zero => omega
  | succ fuel ih =>
      simp only [seek] at missing
      split at missing
      · rename_i taken
        by_cases same : number = start
        · exact same ▸ taken
        · exact ih missing (by omega) (by omega)
      · simp at missing

end Naming
end ApiAccessors
