import ApiAccessors.Proofs.Text.LowerCase

namespace ApiAccessors
namespace Text

/-!
# Characters of upper case texts

Upper case may replace a character by others.  Of the marks that set words apart in a name only the
underscore matters: it is the upper case of nothing but itself.  As with lower case, this is read
off the ends of the entries of the case tables.
-/

/-- All forms that a run gives lie on one side of a code point. -/
def CaseRun.avoids (run : CaseRun) (code : Nat) : Bool :=
  decide (run.last + run.shift < code) || decide (code < run.first + run.shift)

/-- A run may lead to a code point that is no character, which is replaced by the first one. -/
theorem CaseRun.apply_ne {run : CaseRun} {mark : Char} (avoids : run.avoids mark.toNat = true)
    (notFirst : mark.toNat ≠ 0) {code : Nat} (low : run.first ≤ code) (high : code ≤ run.last) :
    run.apply code ≠ mark := by
  intro same
  simp only [CaseRun.avoids, Bool.or_eq_true_iff, decide_eq_true_eq] at avoids
  have number : (run.apply code).toNat = mark.toNat := congrArg Char.toNat same
  rw [apply] at number
  by_cases isChar : (code + run.shift).toNat.isValidChar
  · rw [Char.ofNat, dif_pos isChar] at number
    have isShifted : (code + run.shift).toNat = mark.toNat := number
    omega
  · rw [Char.ofNat, dif_neg isChar] at number
    exact notFirst number.symm

private theorem upperRuns_avoid : ∀ run ∈ upperRuns, run.avoids '_'.toNat = true := by
  decide +kernel

private theorem upperExpansions_avoid :
    ∀ entry ∈ upperExpansions, '_' ∉ entry.2.map Char.ofNat := by
  decide

/-- The upper case of a character has an underscore only if the character is one. -/
theorem underscore_of_mem_upperOf {c : Char} (member : '_' ∈ upperOf c) : c = '_' := by
  unfold upperOf mapCase at member
  cases isRun : CaseRun.find? upperRuns c.toNat with
  | some run =>
      rw [isRun] at member
      have bounds := CaseRun.bounds_of_find? isRun
      have avoids := upperRuns_avoid run bounds.1
      have apart := CaseRun.apply_ne avoids (by decide) bounds.2.1 bounds.2.2
      exact False.elim (apart (List.mem_singleton.mp member).symm)
  | none =>
      rw [isRun] at member
      cases isExpansion : expansion? upperExpansions c.toNat with
      | none =>
          rw [isExpansion] at member
          exact (List.mem_singleton.mp member).symm
      | some forms =>
          rw [isExpansion] at member
          rcases mem_of_expansion? isExpansion with ⟨entry, isEntry, -, same⟩
          exact False.elim (upperExpansions_avoid entry isEntry (same ▸ member))

end Text
end ApiAccessors
