import ApiAccessors.Proofs.OperationName.Unique

namespace ApiAccessors
namespace OperationName

/-!
# Further candidates

An interface grows: candidates of new operations follow those that were there.  The new ones have no
influence on the names before them as long as none of them equals an old candidate.  This does not
go without saying, because the candidates of one kind are counted over the whole list before the
first name is given, so what follows could reach back.

With fresh candidates the old counts do not change, and the two runs go in step as far as the old
candidates reach.  From there on the new candidates are settled as if they were the only ones,
except that the old final names are claimed; they may well equal one of these.
-/

def isAlone (candidates : List (Key × String)) (name : String) : Bool :=
  (candidates.map (·.2)).count name == 1

/-- What is claimed once some final names have been given, the last one first. -/
def claimedBy (settled : List (Key × String)) (claimed : List String) : List String :=
  (settled.map (·.2)).reverse ++ claimed

/-- A run over two lists is a run over the first and then one over the second, for which the final
names of the first are claimed. -/
theorem settleAll_append (alone : String → Bool) (claimed : List String)
    (earlier later : List (Key × String)) :
    settleAll alone claimed (earlier ++ later) =
      settleAll alone claimed earlier ++
        settleAll alone (claimedBy (settleAll alone claimed earlier) claimed) later := by
  induction earlier generalizing claimed with
  | nil => rfl
  | cons candidate rest ih =>
      rcases candidate with ⟨key, name⟩
      simp only [List.cons_append, settleAll, ih, claimedBy, List.map_cons, List.reverse_cons,
        List.append_assoc, List.nil_append]

/-- A run asks only for its own candidates whether they are alone. -/
theorem settleAll_congr {alone other : String → Bool} {claimed : List String}
    {candidates : List (Key × String)}
    (agree : ∀ candidate ∈ candidates, alone candidate.2 = other candidate.2) :
    settleAll alone claimed candidates = settleAll other claimed candidates := by
  induction candidates generalizing claimed with
  | nil => rfl
  | cons candidate rest ih =>
      rcases candidate with ⟨key, name⟩
      rcases List.forall_mem_cons.mp agree with ⟨here, behind⟩
      have same : settle alone claimed key.1 name = settle other claimed key.1 name := by
        simp only [settle, here]
      rw [settleAll, settleAll, same, ih behind]

section

variable {earlier later : List (Key × String)}

theorem isAlone_append_of_mem_left (fresh : ∀ candidate ∈ later, candidate.2 ∉ earlier.map (·.2)) :
    ∀ candidate ∈ earlier,
      isAlone (earlier ++ later) candidate.2 = isAlone earlier candidate.2 := by
  intro candidate member
  have absent : candidate.2 ∉ later.map (·.2) := by
    intro again
    rcases List.mem_map.mp again with ⟨other, isOther, same⟩
    exact fresh other isOther (same ▸ List.mem_map_of_mem member)
  simp only [isAlone, List.map_append, List.count_append, List.count_eq_zero_of_not_mem absent,
    Nat.add_zero]

theorem isAlone_append_of_mem_right (fresh : ∀ candidate ∈ later, candidate.2 ∉ earlier.map (·.2)) :
    ∀ candidate ∈ later,
      isAlone (earlier ++ later) candidate.2 = isAlone later candidate.2 := by
  intro candidate member
  simp only [isAlone, List.map_append, List.count_append,
    List.count_eq_zero_of_not_mem (fresh candidate member), Nat.zero_add]

/-- Fresh candidates are settled behind the old ones, with the old final names claimed. -/
theorem unique_append (fresh : ∀ candidate ∈ later, candidate.2 ∉ earlier.map (·.2)) :
    unique (earlier ++ later) =
      unique earlier ++ settleAll (isAlone later) (claimedBy (unique earlier) []) later := by
  have front : settleAll (isAlone (earlier ++ later)) [] earlier = unique earlier :=
    settleAll_congr (isAlone_append_of_mem_left fresh)
  calc
    unique (earlier ++ later) = settleAll (isAlone (earlier ++ later)) [] (earlier ++ later) := rfl
    _ = unique earlier ++
        settleAll (isAlone (earlier ++ later)) (claimedBy (unique earlier) []) later := by
      rw [settleAll_append, front]
    _ = unique earlier ++ settleAll (isAlone later) (claimedBy (unique earlier) []) later := by
      rw [settleAll_congr (isAlone_append_of_mem_right fresh)]

/-- Candidates that differ from all candidates before them leave the final names before them as they
are, also where they equal one of these names.  The names before them come first, in the same order,
and every operation that has one keeps it. -/
theorem unique_append_keeps (fresh : ∀ candidate ∈ later, candidate.2 ∉ earlier.map (·.2)) :
    unique earlier <+: unique (earlier ++ later) ∧
      ∀ key ∈ earlier.map (·.1), ∃ final, (unique earlier).lookup key = some final ∧
        (unique (earlier ++ later)).lookup key = some final := by
  have inFront : unique earlier <+: unique (earlier ++ later) := by
    rw [unique_append fresh]
    exact List.prefix_append _ _
  refine ⟨inFront, ?_⟩
  intro key member
  rw [← unique_keys] at member
  rcases List.mem_map.mp member with ⟨entry, isEntry, isKey⟩
  have hasFinal : ((unique earlier).lookup key).isSome = true :=
    List.lookup_isSome_iff.mpr ⟨entry, isEntry, beq_iff_eq.mpr isKey.symm⟩
  rcases Option.isSome_iff_exists.mp hasFinal with ⟨final, before⟩
  exact ⟨final, before, inFront.lookup_eq_some before⟩

end

/-- Two pairs of operations that collide: a segment of the path tells the first two apart, and only
numbers the other two. -/
def crowded : List (Key × String) := [
  (("/api/tasks/archive/{id}", "get"), "getTasksItemApi"),
  (("/api/tasks/{id}", "get"), "getTasksItemApi"),
  (("/api/{kind}", "put"), "putTasksApi"),
  (("/{kind}", "put"), "putTasksApi")]

/-- Operations whose candidates are final names of those above. -/
def newcomers : List (Key × String) := [
  (("/api/archive/{id}", "get"), "getArchiveTasksItemApi"),
  (("/{other}", "put"), "putTasksApi1")]

theorem unique_append_keeps_newcomers :
    (∀ candidate ∈ newcomers, candidate.2 ∉ crowded.map (·.2)) ∧
    (unique crowded).map (·.2) =
      ["getArchiveTasksItemApi", "getTasksTasksItemApi", "putTasksApi1", "putTasksApi2"] ∧
    unique crowded <+: unique (crowded ++ newcomers) ∧
    (unique (crowded ++ newcomers)).lookup ("/api/{kind}", "put") = some "putTasksApi1" := by
  have fresh : ∀ candidate ∈ newcomers, candidate.2 ∉ crowded.map (·.2) := by decide
  have kept := unique_append_keeps fresh
  refine ⟨fresh, by decide, kept.1, ?_⟩
  rcases kept.2 ("/api/{kind}", "put") (by decide) with ⟨final, before, after⟩
  have isFinal : (unique crowded).lookup ("/api/{kind}", "put") = some "putTasksApi1" := by
    decide
  rw [after, ← before, isFinal]

end OperationName
end ApiAccessors
