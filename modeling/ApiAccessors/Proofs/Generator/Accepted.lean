import ApiAccessors.Api.Package
import ApiAccessors.Generator.SpecFile
import ApiAccessors.Proofs.Document.Shape
import ApiAccessors.Proofs.Resource.Routing
import ApiAccessors.Proofs.Run

namespace ApiAccessors
namespace SpecFile

/-!
# Accepted documents

The check of a document looks at its outermost fields and at nothing inside the paths.  What it
finds out is stated here once; the document is accepted just if all of it holds, whatever else the
machine holds.
-/

/-- The version that a document gives under one of two names. -/
def version (spec : Value) : Value :=
  Value.orElse (spec.entries?.bind (Entries.field? · "openapi"))
    (Value.orElse (spec.entries?.bind (Entries.field? · "swagger")) .null)

/-- What the check relies on. -/
structure IsAccepted (spec : Value) : Prop where
  isMapping : spec.isMapping = true
  versioned : (version spec).truthy = true
  hasPaths : ∃ entries, (spec.member "paths").entries? = some entries ∧ entries ≠ []
  informed : (spec.given "info").isMapping = true

private theorem exists_mention_iff {info : Value} {name : String} :
    (∃ text, mention info name = .ok text) ↔ info.isMapping = true := by
  unfold mention
  rw [Outcome.exists_bind_iff]
  simp only [Value.field?_eq_ok_iff, and_assoc, exists_and_left, exists_eq_left]
  exact and_iff_left ⟨_, rfl⟩

private theorem hasPaths_iff {items : Value} :
    (match items.entries? with
      | some entries => !entries.isEmpty
      | none => false) = true ↔ ∃ entries, items.entries? = some entries ∧ entries ≠ [] := by
  cases items.entries? with
  | none => simp
  | some entries => simp

/-- The check ends just for the documents that have what it relies on. -/
theorem exists_ends_check_iff {spec : Value} {machine : Machine} :
    (∃ after, Run.Ends (check spec) machine () after) ↔ IsAccepted spec := by
  unfold check
  simp only [Run.ends_lift_bind_iff, Run.ends_unless_iff, Run.ends_report_bind_iff,
    Run.ends_report_iff, Value.field?_eq_ok_iff, Value.field_eq_ok_iff,
    Value.fieldOrEmpty_eq_ok_iff, and_assoc, exists_and_left, exists_eq_left, Bool.not_eq_false']
  constructor
  · rintro ⟨isMapping, -, versioned, -, hasPaths, -, after, title, mentioned, -⟩
    exact ⟨isMapping, versioned, hasPaths_iff.mp hasPaths, exists_mention_iff.mp ⟨title, mentioned⟩⟩
  · rintro ⟨isMapping, versioned, hasPaths, informed⟩
    rcases exists_mention_iff.mpr informed with ⟨title, isTitle⟩
    rcases exists_mention_iff.mpr informed with ⟨number, isNumber⟩
    exact ⟨isMapping, isMapping, versioned, isMapping, hasPaths_iff.mpr hasPaths, isMapping, _,
      title, isTitle, number, isNumber, rfl⟩

namespace IsAccepted

variable {spec : Value}

/-- The paths of an accepted document are listed. -/
theorem exists_lists (accepted : IsAccepted spec) :
    ∃ entries, Resource.Lists spec entries ∧ entries ≠ [] := by
  rcases accepted.hasPaths with ⟨entries, areEntries, notEmpty⟩
  refine ⟨entries, ⟨_, Value.fieldOrEmpty_of_isMapping accepted.isMapping "paths", ?_⟩, notEmpty⟩
  rw [Value.given_eq_ite, if_pos (Value.truthy_of_entries? areEntries notEmpty), areEntries]

/-- What an accepted document says about itself can be looked up. -/
theorem exists_information (accepted : IsAccepted spec) (name missing : String) :
    ∃ value, Package.information spec name missing = .ok value := by
  unfold Package.information
  simp only [Outcome.exists_bind_iff, Value.fieldOrEmpty_eq_ok_iff, Value.field?_eq_ok_iff,
    accepted.isMapping, accepted.informed, true_and, exists_eq_left]
  exact ⟨_, rfl⟩

end IsAccepted

end SpecFile
end ApiAccessors
