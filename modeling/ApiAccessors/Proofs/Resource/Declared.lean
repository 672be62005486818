import ApiAccessors.Proofs.Resource.Routing
import Mathlib.Data.List.Nodup

namespace ApiAccessors
namespace Resource

/-!
# Which verbs a path declares

A path item that is a mapping declares those of its keys that are verbs, in their order.  Going
through an item of another kind may also give verbs, even the same one twice; but the content type
of such an operation is looked up in the item as in a mapping, and this stops.  So wherever a
content type is found, the verbs are keys of a mapping, and none of them is there twice.
-/

def verbOf : Value → Option String
  | .text name => if verbs.contains name then some name else none
  | _ => none

/-- The verbs that a path item declares, or none where the item cannot be gone through. -/
def declared (item : Value) : List String := Outcome.value (declaredVerbs item)

/-- A path item is a mapping with a verb among its keys. -/
def Declares (item : Value) (verb : String) : Prop :=
  verb ∈ verbs ∧ ∃ entries, item.entries? = some entries ∧ .text verb ∈ entries.map (·.1)

/-- A path item is a mapping in which one verb stands before another. -/
def DeclaresInOrder (item : Value) (first second : String) : Prop :=
  ∃ entries, item.entries? = some entries ∧
    [Value.text first, .text second].Sublist (entries.map (·.1))

theorem verbOf_eq_some_iff {key : Value} {verb : String} :
    verbOf key = some verb ↔ key = .text verb ∧ verb ∈ verbs := by
  cases key with
  | text name =>
      change (if verbs.contains name then some name else none) = some verb ↔ _
      constructor
      · intro same
        split at same
        · rename_i isVerb
          cases same
          exact ⟨rfl, List.contains_iff_mem.mp isVerb⟩
        · cases same
      · rintro ⟨same, member⟩
        cases same
        exact if_pos (List.contains_iff_mem.mpr member)
  | _ => exact ⟨fun same => (by cases same), fun ⟨same, _⟩ => (by cases same)⟩

private theorem declaredVerbs_eq (item : Value) :
    declaredVerbs item = (item.elements >>= fun keys => pure (keys.filterMap verbOf)) := rfl

section

variable {item : Value} {entries : Entries}

theorem declaredVerbs_of_entries? (isMapping : item.entries? = some entries) :
    declaredVerbs item = .ok ((entries.map (·.1)).filterMap verbOf) := by
  rw [declaredVerbs_eq]
  unfold Value.elements
  rw [Value.entries?_eq_some_iff.mp isMapping]
  rfl

theorem declared_of_entries? (isMapping : item.entries? = some entries) :
    declared item = (entries.map (·.1)).filterMap verbOf := by
  unfold declared
  rw [declaredVerbs_of_entries? isMapping, Outcome.value_ok]

theorem mem_declared_iff (isMapping : item.entries? = some entries) {verb : String} :
    verb ∈ declared item ↔ Declares item verb := by
  rw [declared_of_entries? isMapping, List.mem_filterMap]
  constructor
  · rintro ⟨key, member, isVerb⟩
    rcases verbOf_eq_some_iff.mp isVerb with ⟨same, known⟩
    exact ⟨known, entries, isMapping, same ▸ member⟩
  · rintro ⟨known, others, isOthers, member⟩
    rw [isMapping] at isOthers
    cases isOthers
    exact ⟨_, member, verbOf_eq_some_iff.mpr ⟨rfl, known⟩⟩

/-- Verbs are declared in the order of the keys. -/
theorem declared_pairwise (isMapping : item.entries? = some entries) :
    (declared item).Pairwise (DeclaresInOrder item) := by
  rw [declared_of_entries? isMapping]
  have inOrder : (entries.map (·.1)).Pairwise
      (fun first second => [first, second].Sublist (entries.map (·.1))) :=
    List.pairwise_iff_forall_sublist.mpr (fun before => before)
  apply inOrder.filterMap verbOf
  intro first second before verb isVerb other isOther
  rw [(verbOf_eq_some_iff.mp isVerb).1, (verbOf_eq_some_iff.mp isOther).1] at before
  exact ⟨entries, isMapping, before⟩

theorem declared_nodup (distinct : entries.TextsDiffer) (isMapping : item.entries? = some entries) :
    (declared item).Nodup := by
  have keysDiffer : (entries.map (·.1)).Pairwise
      (fun first second => ∀ name, first = .text name → second ≠ .text name) :=
    List.pairwise_map.mpr distinct
  rw [declared_of_entries? isMapping]
  apply keysDiffer.filterMap verbOf
  intro first second different verb isVerb other isOther same
  apply different verb (verbOf_eq_some_iff.mp isVerb).1
  rw [same]
  exact (verbOf_eq_some_iff.mp isOther).1

/-- Whatever a path item is, nothing but verbs is declared in it. -/
theorem mem_verbs_of_mem_declared {verb : String} (isDeclared : verb ∈ declared item) :
    verb ∈ verbs := by
  unfold declared at isDeclared
  rw [declaredVerbs_eq] at isDeclared
  cases keysEnded : item.elements with
  | error fault =>
      rw [keysEnded] at isDeclared
      cases isDeclared
  | ok keys =>
      rw [keysEnded] at isDeclared
      rcases List.mem_filterMap.mp isDeclared with ⟨key, -, isVerb⟩
      exact (verbOf_eq_some_iff.mp isVerb).2

/-- What counts as not given declares nothing. -/
theorem declared_of_not_truthy (missing : item.truthy = false) : declared item = [] := by
  cases item with
  | text name =>
      have empty : name = "" := by simpa [Value.truthy] using missing
      rw [empty]
      rfl
  | bytes value =>
      have empty : value = [] := by simpa [Value.truthy] using missing
      rw [empty]
      rfl
  | list items =>
      have empty : items = [] := by simpa [Value.truthy] using missing
      rw [empty]
      rfl
  | tuple items =>
      have empty : items = [] := by simpa [Value.truthy] using missing
      rw [empty]
      rfl
  | set members =>
      have empty : members = [] := by simpa [Value.truthy] using missing
      rw [empty]
      rfl
  | map entries =>
      have empty : entries = [] := by simpa [Value.truthy] using missing
      rw [empty]
      rfl
  | cyclic number body => cases missing
  | _ => rfl

theorem truthy_of_mem_declared {verb : String} (isDeclared : verb ∈ declared item) :
    item.truthy = true := by
  by_contra missing
  rw [declared_of_not_truthy (Bool.eq_false_iff.mpr missing)] at isDeclared
  cases isDeclared

end

section

variable {spec : Value} {entries : Entries} {path : String} {item : Value}

/-- If the content type of a declared operation is found, its path item is a mapping. -/
theorem Lists.exists_entries_of_contentType (lists : Lists spec entries)
    (distinct : spec.hasDistinctKeys = true) (member : (.text path, item) ∈ entries) {verb : String}
    (isDeclared : verb ∈ declared item) {contentType : Value}
    (found : ContentType.of spec path verb = .ok contentType) :
    ∃ operations, item.entries? = some operations := by
  have given := truthy_of_mem_declared isDeclared
  have looked := lists.pathItem_of_mem distinct member
  rw [if_pos given] at looked
  rcases Outcome.bind_eq_ok_iff.mp found with ⟨held, isHeld, later⟩
  rw [looked] at isHeld
  cases isHeld
  rcases Outcome.bind_eq_ok_iff.mp later with ⟨operation, isOperation, -⟩
  unfold Value.field Value.field? at isOperation
  cases isMapping : item.entries? with
  | none =>
      rw [isMapping] at isOperation
      cases isOperation
  | some operations => exact ⟨operations, rfl⟩

/-- The entries of a listed path item have no text twice. -/
theorem Lists.item_textsDiffer (lists : Lists spec entries) (distinct : spec.hasDistinctKeys = true)
    {key : Value} (member : (key, item) ∈ entries) {operations : Entries}
    (isMapping : item.entries? = some operations) : operations.TextsDiffer := by
  have itemDistinct := Value.hasDistinctKeys_of_mem (lists.distinct distinct).2 member
  exact Entries.textsDiffer_of_areDistinct (Value.distinct_of_entries? itemDistinct isMapping).1

end

end Resource
end ApiAccessors
