import ApiAccessors.Document.Value
import ApiAccessors.Proofs.Document.DistinctKeys
import ApiAccessors.Proofs.Outcome

namespace ApiAccessors
namespace Value

/-!
# Shapes of values

A document whose shape nobody has checked is taken apart by two operations that not every value has:
only a mapping has fields, and only some values can be gone through.  Here is a test for each of the
two, which says exactly when the operation ends, and what it gives is written down without the
faults.  So the shape that a longer computation needs can be read off from its steps.
-/

def isMapping (value : Value) : Bool := value.entries?.isSome

def isIterable (value : Value) : Bool :=
  match value.unfolded with
  | .list _ => true
  | .tuple _ => true
  | .set _ => true
  | .map _ => true
  | .text _ => true
  | .bytes _ => true
  | _ => false

/-- The field of a mapping, which is null where there is none. -/
def member (name : String) (value : Value) : Value :=
  (value.entries?.bind (Entries.field? · name)).getD .null

/-- The field of a mapping, or the empty mapping where there is none or it counts as not given. -/
def given (name : String) (value : Value) : Value :=
  orElse (value.entries?.bind (Entries.field? · name)) .empty

section

variable {value found : Value} {name : String}

theorem isMapping_iff : value.isMapping = true ↔ ∃ entries, value.entries? = some entries :=
  Option.isSome_iff_exists

theorem entries?_eq_none (noMapping : value.isMapping = false) : value.entries? = none :=
  Option.isSome_eq_false_iff.mp noMapping |> Option.isNone_iff_eq_none.mp

/-- Only the empty mapping counts as not given. -/
theorem truthy_of_entries? {entries : Entries} (areEntries : value.entries? = some entries)
    (notEmpty : entries ≠ []) : value.truthy = true := by
  cases value with
  | map own =>
      cases areEntries
      simpa [truthy] using notEmpty
  | cyclic number body => rfl
  | _ => cases areEntries

theorem field?_eq_ok_iff {found : Option Value} :
    value.field? name = .ok found ↔
      value.isMapping = true ∧ found = value.entries?.bind (Entries.field? · name) := by
  unfold field? isMapping
  cases value.entries? with
  | none => simp
  | some entries => simp [eq_comm]

theorem field_eq_ok_iff :
    value.field name = .ok found ↔ value.isMapping = true ∧ found = value.member name := by
  unfold field field? member isMapping
  cases value.entries? with
  | none => simp [Except.map]
  | some entries => simp [Except.map, eq_comm]

theorem fieldOrEmpty_eq_ok_iff :
    value.fieldOrEmpty name = .ok found ↔ value.isMapping = true ∧ found = value.given name := by
  unfold fieldOrEmpty field? given isMapping
  cases value.entries? with
  | none => simp [Except.map]
  | some entries => simp [Except.map, eq_comm]

theorem field_of_isMapping (isMapping : value.isMapping = true) (name : String) :
    value.field name = .ok (value.member name) :=
  field_eq_ok_iff.mpr ⟨isMapping, rfl⟩

theorem fieldOrEmpty_of_isMapping (isMapping : value.isMapping = true) (name : String) :
    value.fieldOrEmpty name = .ok (value.given name) :=
  fieldOrEmpty_eq_ok_iff.mpr ⟨isMapping, rfl⟩

theorem exists_elements_iff :
    (∃ items, value.elements = .ok items) ↔ value.isIterable = true := by
  unfold elements isIterable
  cases value.unfolded <;> simp

/-- A field counts as given just if it is the value that is taken for it. -/
theorem given_eq_ite :
    value.given name = if (value.member name).truthy then value.member name else .empty := by
  unfold given member
  cases value.entries?.bind (Entries.field? · name) with
  | none => rfl
  | some field => rfl

end

end Value
end ApiAccessors
