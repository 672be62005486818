import ApiAccessors.Api.OperationName
import ApiAccessors.Proofs.Naming.FreeNumber
import Mathlib.Data.Finset.Dedup

namespace ApiAccessors
namespace OperationName

/-!
# Final names differ

Candidates are settled from left to right, and what is given away is claimed from then on.  A final
name may be the candidate itself, the candidate with a segment of its path, or the candidate with a
number, and each of the three may look like what another candidate becomes.  The argument does not
look at the names at all: whichever way is taken, a final name is not yet claimed.

So the claimed names grow by a new one with every step, and no name is given twice.
-/

theorem numbered_injective (name : String) : Function.Injective (numbered name) := by
  intro left right same
  exact Naming.toString_injective ((String.append_right_inj name).mp same)

/-- The number that is put behind a name is the least one whose name is free; it exceeds the number
of claimed names by at most one. -/
theorem numberedFree_eq_least (claimed : List String) (name : String) :
    ∃ number, numberedFree claimed name = numbered name number ∧
      numbered name number ∉ claimed ∧ 1 ≤ number ∧ number ≤ 1 + claimed.toFinset.card ∧
      ∀ earlier, 1 ≤ earlier → earlier < number → numbered name earlier ∈ claimed := by
  have held : ∀ number, claimed.contains (numbered name number) = true →
      numbered name number ∈ claimed.toFinset := by
    intro number taken
    exact List.mem_toFinset.mpr (List.contains_iff_mem.mp taken)
  rcases Naming.seek_eq_least held (numbered_injective name) 1 with
    ⟨number, free, low, high, before, ends⟩
  have found := ends (claimed.length + 1) (Nat.lt_succ_of_le (List.toFinset_card_le claimed))
  refine ⟨number, ?_, ?_, low, high, ?_⟩
  · rw [numberedFree, found, Option.getD_some]
  · intro member
    rw [List.contains_iff_mem.mpr member] at free
    cases free
  · intro earlier above below
    exact List.contains_iff_mem.mp (before earlier above below)

/-- The count behind a name ends whatever names are claimed, also where some of them end in digits:
the loop that passes over claimed names stops at the least number whose name is not claimed, after
at most as many turns as there are claimed names, and the name with this number is the one given. -/
theorem numbering_ends_at_least (claimed : List String) (name : String) :
    ∃ number,
      Naming.EndsAt (fun counter => claimed.contains (numbered name counter)) 1 number ∧
      numberedFree claimed name = name ++ toString number ∧
      IsLeast {free : Nat | 1 ≤ free ∧ name ++ toString free ∉ claimed} number ∧
      number ≤ claimed.toFinset.card + 1 := by
  rcases numberedFree_eq_least claimed name with ⟨number, given, free, low, high, before⟩
  have least : IsLeast {free : Nat | 1 ≤ free ∧ numbered name free ∉ claimed} number := by
    refine ⟨⟨low, free⟩, ?_⟩
    rintro other ⟨above, otherFree⟩
    by_contra beyond
    exact otherFree (before other above (Nat.lt_of_not_le beyond))
  have ends :
      Naming.EndsAt (fun counter => claimed.contains (numbered name counter)) 1 number := by
    rw [Naming.endsAt_iff_isLeast]
    simpa only [← Bool.not_eq_true, List.contains_iff_mem] using least
  exact ⟨number, ends, given, least, by omega⟩

example : numberedFree ["fooApi3", "fooApi12", "fooApi1"] "fooApi" = "fooApi2" := by decide

/-- The three ways to settle a candidate.  Nothing is assumed of `alone`: a candidate that is not
the only one of its kind is never kept, and one that is may still be claimed already. -/
theorem settle_cases (alone : String → Bool) (claimed : List String) (path name : String) :
    (settle alone claimed path name = name ∧ alone name = true ∧ name ∉ claimed) ∨
      (∃ variant, settle alone claimed path name = variant ∧ variant ∈ variants name path ∧
        variant ∉ claimed) ∨
      settle alone claimed path name = numberedFree claimed name := by
  by_cases keep : alone name = true ∧ name ∉ claimed
  · left
    refine ⟨?_, keep⟩
    simp [settle, keep.1, keep.2]
  · right
    have notKept : (alone name && !claimed.contains name) = false := by
      apply Bool.eq_false_iff.mpr
      intro kept
      apply keep
      simpa using kept
    cases found : (variants name path).find? (fun variant => !claimed.contains variant) with
    | some variant =>
        left
        have unclaimed := List.find?_some found
        refine ⟨variant, ?_, List.mem_of_find?_eq_some found, by simpa using unclaimed⟩
        simp only [settle, notKept, found, Bool.false_eq_true, if_false]
    | none =>
        right
        simp only [settle, notKept, found, Bool.false_eq_true, if_false]

/-- Whichever way is taken, a final name is not yet claimed. -/
theorem settle_not_mem (alone : String → Bool) (claimed : List String) (path name : String) :
    settle alone claimed path name ∉ claimed := by
  rcases settle_cases alone claimed path name with ⟨same, -, free⟩ | ⟨variant, same, -, free⟩ | same
  · rw [same]
    exact free
  · rw [same]
    exact free
  · rcases numberedFree_eq_least claimed name with ⟨number, found, free, -⟩
    rw [same, found]
    exact free

theorem settleAll_keys (alone : String → Bool) (claimed : List String)
    (candidates : List (Key × String)) :
    (settleAll alone claimed candidates).map (·.1) = candidates.map (·.1) := by
  induction candidates generalizing claimed with
  | nil => rfl
  | cons candidate rest ih => simp only [settleAll, List.map_cons, ih]

/-- What is claimed in the beginning is given to nobody, and nothing is given twice.  Both have to
be shown together: the names behind a final name avoid it because it is claimed for them. -/
theorem settleAll_nodup (alone : String → Bool) (claimed : List String)
    (candidates : List (Key × String)) :
    ((settleAll alone claimed candidates).map (·.2)).Nodup ∧
      ∀ name ∈ claimed, name ∉ (settleAll alone claimed candidates).map (·.2) := by
  induction candidates generalizing claimed with
  | nil => simp [settleAll]
  | cons candidate rest ih =>
      rcases candidate with ⟨key, name⟩
      have fresh := settle_not_mem alone claimed key.1 name
      have later := ih (settle alone claimed key.1 name :: claimed)
      simp only [settleAll, List.map_cons]
      constructor
      · exact List.nodup_cons.mpr ⟨later.2 _ List.mem_cons_self, later.1⟩
      · intro taken member given
        rcases List.mem_cons.mp given with same | given
        · exact fresh (same ▸ member)
        · exact later.2 taken (List.mem_cons_of_mem _ member) given

theorem unique_keys (candidates : List (Key × String)) :
    (unique candidates).map (·.1) = candidates.map (·.1) :=
  settleAll_keys _ _ _

theorem unique_nodup (candidates : List (Key × String)) :
    ((unique candidates).map (·.2)).Nodup :=
  (settleAll_nodup _ _ _).1

/-! ## Names that are kept

A candidate that no other candidate equals is kept unless something before it has taken its name,
and as long as nothing collides every candidate before it has taken its own name only.  So settling
changes nothing where all names differ.  They do once they have been settled, whatever the settled
names look like.
-/

/-- Candidates that are all the only ones of their kind are kept, if none of their names is claimed
in the beginning. -/
theorem settleAll_eq_self {alone : String → Bool} {claimed : List String}
    {candidates : List (Key × String)}
    (allAlone : ∀ candidate ∈ candidates, alone candidate.2 = true)
    (differ : (candidates.map (·.2)).Nodup)
    (unclaimed : ∀ candidate ∈ candidates, candidate.2 ∉ claimed) :
    settleAll alone claimed candidates = candidates := by
  induction candidates generalizing claimed with
  | nil => rfl
  | cons candidate rest ih =>
      rcases candidate with ⟨key, name⟩
      rcases List.forall_mem_cons.mp allAlone with ⟨isAlone, restAlone⟩
      rcases List.forall_mem_cons.mp unclaimed with ⟨isFree, restFree⟩
      rcases List.nodup_cons.mp differ with ⟨apart, restDiffer⟩
      have kept : settle alone claimed key.1 name = name := by
        simp [settle, isAlone, isFree]
      have stillFree : ∀ other ∈ rest, other.2 ∉ name :: claimed := by
        intro other member taken
        rcases List.mem_cons.mp taken with same | before
        · exact apart (same ▸ List.mem_map.mpr ⟨other, member, rfl⟩)
        · exact restFree other member before
      rw [settleAll, kept, ih restAlone restDiffer stillFree]

/-- Exactly the candidates that differ from each other are final names already. -/
theorem unique_eq_self_iff {candidates : List (Key × String)} :
    unique candidates = candidates ↔ (candidates.map (·.2)).Nodup := by
  constructor
  · intro same
    rw [← same]
    exact unique_nodup candidates
  · intro differ
    apply settleAll_eq_self _ differ (fun _ _ => List.not_mem_nil)
    intro candidate member
    rw [beq_iff_eq]
    exact List.count_eq_one_of_mem differ (List.mem_map.mpr ⟨candidate, member, rfl⟩)

/-- Names are left as they are if and only if no two of them are equal.  As a consequence, settling
names that have been settled changes nothing. -/
theorem unique_keeps_iff_and_idempotent :
    (∀ candidates : List (Key × String),
      unique candidates = candidates ↔ (candidates.map (·.2)).Nodup) ∧
    ∀ candidates : List (Key × String), unique (unique candidates) = unique candidates := by
  constructor
  · intro candidates
    exact unique_eq_self_iff
  · intro candidates
    exact unique_eq_self_iff.mpr (unique_nodup candidates)

end OperationName
end ApiAccessors
