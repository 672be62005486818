import ApiAccessors.Naming.Fresh
import ApiAccessors.Text.Digits
import Mathlib.Data.Finset.Card
import Mathlib.Data.Nat.Find
import Mathlib.Logic.Relation
import Mathlib.Order.Bounds.Defs
import Mathlib.Order.Interval.Finset.Nat

namespace ApiAccessors
namespace Naming

/-!
# Free numbers are found

The search for a free number looks at a bounded row of numbers, but the bound is no restriction.
Every number that is not free is held by a taken name, and different numbers are held by different
names; so among one more number than there are taken names at least one is free.  What the search
gives is therefore what an unbounded search would give, and it is at most as many steps away as
there are taken names.

The names need not be of one kind: a number of a module is held by a class name or by a file name.
For this reason the argument is about an arbitrary holder of each number.

The unbounded search itself is described at the end of the module: turn by turn, as a loop of which
it is not known beforehand that it stops.
-/

/-- Decimal notation tells numbers apart. -/
theorem toString_injective : Function.Injective (fun number : Nat => toString number) := by
  intro left right same
  have digits : Nat.toDigits 10 left = Nat.toDigits 10 right := by
    rw [← Nat.toList_repr, ← Nat.toList_repr]
    exact congrArg String.toList same
  have values := congrArg (fun digits => Nat.ofDigitChars 10 digits 0) digits
  simpa only [Nat.ofDigitChars_ten_toDigits] using values

theorem toString_ne_empty (number : Nat) : toString number ≠ "" := by
  intro empty
  have digits : Nat.toDigits 10 number = [] := by
    rw [← Nat.toList_repr]
    exact congrArg String.toList empty
  exact Nat.toDigits_ne_nil digits

theorem isAsciiDigit_of_mem_toString {number : Nat} {c : Char}
    (member : c ∈ (toString number).toList) : Text.isAsciiDigit c = true := by
  have digits : (toString number).toList = Nat.toDigits 10 number := Nat.toList_repr
  rw [digits] at member
  have isDigit := Nat.isDigit_of_mem_toDigits (by decide) (by decide) member
  unfold Char.isDigit at isDigit
  exact isDigit

section

variable {Name : Type} {isTaken : Nat → Bool} {taken : Finset Name} {holder : Nat → Name}

/-- Among one more number than there are taken names one is free. -/
theorem exists_free (held : ∀ number, isTaken number = true → holder number ∈ taken)
    (apart : Function.Injective holder) (start : Nat) :
    ∃ number, start ≤ number ∧ number ≤ start + taken.card ∧ isTaken number = false := by
  by_contra missing
  have allTaken : ∀ number ∈ Finset.Icc start (start + taken.card), holder number ∈ taken := by
    intro number member
    have bounds := Finset.mem_Icc.mp member
    apply held
    by_contra free
    exact missing ⟨number, bounds.1, bounds.2, Bool.eq_false_iff.mpr free⟩
  have count := Finset.card_le_card_of_injOn holder allTaken apart.injOn
  rw [Nat.card_Icc] at count
  omega

/-- A free number with only taken ones before it is what the search ends with, if it is near
enough. -/
theorem seek_of_least {fuel start number : Nat} (free : isTaken number = false)
    (above : start ≤ number) (within : number < start + fuel)
    (before : ∀ earlier, start ≤ earlier → earlier < number → isTaken earlier = true) :
    seek isTaken fuel start = some number := by
  cases found : seek isTaken fuel start with
  | none =>
      have taken := seek_eq_none found number above within
      rw [free] at taken
      cases taken
  | some other =>
      rcases seek_eq_some found with ⟨otherFree, otherAbove, otherBefore⟩
      rcases Nat.lt_trichotomy other number with below | same | beyond
      · have taken := before other otherAbove below
        rw [otherFree] at taken
        cases taken
      · rw [same]
      · have taken := otherBefore number above beyond
        rw [free] at taken
        cases taken

/-- The search ends with the least free number, no further from its start than there are taken
names.  The number of steps that it may take has no influence, as long as they are more than the
taken names. -/
theorem seek_eq_least (held : ∀ number, isTaken number = true → holder number ∈ taken)
    (apart : Function.Injective holder) (start : Nat) :
    ∃ number, isTaken number = false ∧ start ≤ number ∧ number ≤ start + taken.card ∧
      (∀ earlier, start ≤ earlier → earlier < number → isTaken earlier = true) ∧
      ∀ fuel, taken.card < fuel → seek isTaken fuel start = some number := by
  rcases exists_free held apart start with ⟨free, low, high, isFree⟩
  have someFree : ∃ number, start ≤ number ∧ isTaken number = false := ⟨free, low, isFree⟩
  have least := Nat.find_spec someFree
  have near : Nat.find someFree ≤ start + taken.card :=
    Nat.le_trans (Nat.find_le ⟨low, isFree⟩) high
  have before : ∀ earlier, start ≤ earlier → earlier < Nat.find someFree →
      isTaken earlier = true := by
    intro earlier above below
    by_contra notTaken
    exact Nat.find_min someFree below ⟨above, Bool.eq_false_iff.mpr notTaken⟩
  refine ⟨Nat.find someFree, least.2, least.1, near, before, ?_⟩
  intro fuel enough
  exact seek_of_least least.2 least.1 (by omega) before

end

/-! ## The loop without a bound

A counter goes up by one for as long as its number is taken.  Nothing in a turn of this loop knows
how many names there are, so a description by its turns alone leaves open whether it ever stops.
The invariant of a run is that all numbers behind the counter are taken.  It also bounds the run: no
turn leads past a free number.
-/

section

variable {isTaken : Nat → Bool} {start number next : Nat}

/-- One turn of the loop: a number that is taken is passed over. -/
def PassesOver (isTaken : Nat → Bool) (number next : Nat) : Prop :=
  isTaken number = true ∧ next = number + 1

/-- The loop that begins with `start` does not go on forever, and the number at which it stops is
`number`. -/
structure EndsAt (isTaken : Nat → Bool) (start number : Nat) : Prop where
  ends : Acc (fun next number => PassesOver isTaken number next) start
  reached : Relation.ReflTransGen (PassesOver isTaken) start number
  stopped : ∀ next, ¬ PassesOver isTaken number next

/-- All numbers from `start` on that come before `number` are taken. -/
structure AllTaken (isTaken : Nat → Bool) (start number : Nat) : Prop where
  above : start ≤ number
  taken : ∀ earlier, start ≤ earlier → earlier < number → isTaken earlier = true

/-- The loop stops at the numbers that are free, and only there. -/
theorem forall_not_passesOver_iff :
    (∀ next, ¬ PassesOver isTaken number next) ↔ isTaken number = false := by
  constructor
  · intro stopped
    exact Bool.eq_false_iff.mpr (fun taken => stopped (number + 1) ⟨taken, rfl⟩)
  · intro free next turn
    have taken := turn.1
    rw [free] at taken
    cases taken

theorem AllTaken.passesOver (all : AllTaken isTaken start number)
    (turn : PassesOver isTaken number next) : AllTaken isTaken start next := by
  rcases turn with ⟨isPassed, rfl⟩
  refine ⟨Nat.le_succ_of_le all.above, fun earlier low high => ?_⟩
  rcases Nat.lt_succ_iff_lt_or_eq.mp high with before | rfl
  · exact all.taken earlier low before
  · exact isPassed

/-- The loop gets exactly as far as all numbers are taken. -/
theorem reflTransGen_passesOver_iff :
    Relation.ReflTransGen (PassesOver isTaken) start number ↔ AllTaken isTaken start number := by
  constructor
  · intro run
    induction run with
    | refl => exact ⟨Nat.le_refl start, fun earlier low high => by omega⟩
    | tail _ turn ih => exact ih.passesOver turn
  · intro all
    rcases all with ⟨above, taken⟩
    induction number, above using Nat.le_induction with
    | base => exact Relation.ReflTransGen.refl
    | succ number above ih =>
        have before := ih (fun earlier low high => taken earlier low (Nat.lt_succ_of_lt high))
        exact before.tail ⟨taken number above (Nat.lt_succ_self number), rfl⟩

/-- The loop ends when there is a free number ahead: a turn comes closer to it and does not lead
past it. -/
theorem acc_passesOver_of_free (free : isTaken number = false) (above : start ≤ number) :
    Acc (fun next number => PassesOver isTaken number next) start := by
  induction above using Nat.decreasingInduction with
  | self =>
      have stopped := forall_not_passesOver_iff.mpr free
      exact Acc.intro number (fun next turn => False.elim (stopped next turn))
  | of_succ earlier below ih =>
      refine Acc.intro earlier (fun next turn => ?_)
      rw [turn.2]
      exact ih

/-- The loop ends at the least free number, and nowhere if there is none. -/
theorem endsAt_iff_isLeast :
    EndsAt isTaken start number ↔
      IsLeast {free | start ≤ free ∧ isTaken free = false} number := by
  constructor
  · intro atEnd
    have all := reflTransGen_passesOver_iff.mp atEnd.reached
    refine ⟨⟨all.above, forall_not_passesOver_iff.mp atEnd.stopped⟩, ?_⟩
    rintro other ⟨above, otherFree⟩
    by_contra beyond
    have taken := all.taken other above (Nat.lt_of_not_le beyond)
    rw [otherFree] at taken
    cases taken
  · rintro ⟨⟨above, free⟩, least⟩
    have all : AllTaken isTaken start number := by
      refine ⟨above, fun earlier low high => ?_⟩
      by_contra notTaken
      have beyond := least ⟨low, Bool.eq_false_iff.mpr notTaken⟩
      omega
    exact ⟨acc_passesOver_of_free free above, reflTransGen_passesOver_iff.mpr all,
      forall_not_passesOver_iff.mpr free⟩

end

end Naming
end ApiAccessors
