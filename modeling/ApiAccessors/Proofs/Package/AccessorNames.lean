import ApiAccessors.Proofs.OperationName.Form
import ApiAccessors.Proofs.Package.OperationNames
import ApiAccessors.Proofs.Text.Normal

namespace ApiAccessors
namespace Package

/-!
# Names of accessors

The accessors of a module are set as attributes of an object that has attributes of its own: the
client that it was made with, the list of its accessors, and those that every object has.  An
accessor must not be set in the place of one of these.  It is set under its name, but a name behind
a point stands for its normal form, and one that begins with two underscores for another attribute
inside a class than outside.

The form of a name excludes all of this, since enough of it is left in the normal form.  It is the
form of the candidate with what settling does to it, and it remains to see that the name of an
operation is what settling made of its own candidate, even if an operation is met twice.
-/

/-- The attributes that an object of accessors has besides its accessors. -/
inductive IsTaken : String → Prop
  | client : IsTaken "client"
  | operations : IsTaken "operations"
  | special (inner : String) : IsTaken ("__" ++ inner ++ "__")

section

variable {spec : Value} {key other : OperationName.Key} {name value : String}
  {known : List (OperationName.Key × String)} {keys : List OperationName.Key}

/-- Only candidates are put down, also where an operation is met twice. -/
theorem eq_candidateOf_of_mem_candidatesFor (member : (key, name) ∈ candidatesFor spec known keys) :
    name = candidateOf spec key ∨ (key, name) ∈ known := by
  induction keys generalizing known with
  | nil => exact Or.inr member
  | cons first rest ih =>
      rcases ih member with isCandidate | before
      · exact Or.inl isCandidate
      · rcases Table.eq_or_mem_of_mem_put before with ⟨same, isName⟩ | before
        · exact Or.inl (same ▸ isName)
        · exact Or.inr before

theorem mem_keys_candidatesFor (given : key ∈ keys ∨ key ∈ known.map (·.1)) :
    key ∈ (candidatesFor spec known keys).map (·.1) := by
  induction keys generalizing known with
  | nil => exact given.resolve_left List.not_mem_nil
  | cons first rest ih =>
      apply ih
      rcases given with now | before
      · rcases List.mem_cons.mp now with here | later
        · exact Or.inr (Table.mem_keys_put.mpr (Or.inl here))
        · exact Or.inl later
      · exact Or.inr (Table.mem_keys_put.mpr (Or.inr before))

private theorem exists_lookup_of_mem (given : key ∈ known.map (·.1)) :
    ∃ name, known.lookup key = some name ∧ (key, name) ∈ known := by
  rcases List.mem_map.mp given with ⟨entry, member, same⟩
  have isSome : (known.lookup key).isSome = true :=
    List.lookup_isSome_iff.mpr ⟨entry, member, beq_iff_eq.mpr same.symm⟩
  rcases Option.isSome_iff_exists.mp isSome with ⟨name, found⟩
  rcases List.lookup_eq_some_iff.mp found with ⟨before, behind, split, -⟩
  exact ⟨name, found, split ▸ List.mem_append_right _ List.mem_cons_self⟩

end

/-! ## The names of operations -/

section

variable {spec : Value} {resources : List String} {found : List Operation}

/-- The name of an operation is what settling made of its candidate. -/
theorem settles_name (ended : operations spec resources = .ok found) {operation : Operation}
    (member : operation ∈ found) :
    OperationName.Settles operation.path (candidateOf spec operation.key) operation.name := by
  rcases operations_eq_ok_iff.mp ended with ⟨entries, -, -, -, same⟩
  rw [same] at member
  rcases List.mem_map.mp member with ⟨key, isKey, isOperation⟩
  rw [← isOperation]
  generalize isNames :
    OperationName.unique (candidatesFor spec [] (keysIn entries)) = names
  have listed : key ∈ names.map (·.1) := by
    rw [← isNames, OperationName.unique_keys]
    exact mem_keys_candidatesFor (Or.inl isKey)
  -- It does not matter which entry is found, since all entries of a key have its candidate.
  rcases exists_lookup_of_mem listed with ⟨name, isName, named⟩
  rw [← isNames] at named
  rcases OperationName.exists_settles_of_mem_unique named with ⟨candidate, given, settles⟩
  have isCandidate := (eq_candidateOf_of_mem_candidatesFor given).resolve_right List.not_mem_nil
  change OperationName.Settles key.1 (candidateOf spec key) ((names.lookup key).getD "")
  rw [isName, ← isCandidate]
  exact settles

/-- An operation has a verb and lies under one of the resources, and its candidate is made from
these. -/
theorem candidateOf_eq (ended : operations spec resources = .ok found) {operation : Operation}
    (member : operation ∈ found) :
    operation.method ∈ Resource.verbs ∧ ∃ resource ∈ resources,
      Resource.ofPath spec operation.path = .ok resource ∧ candidateOf spec operation.key =
        if resource.isEmpty then operation.method
        else OperationName.ofResource resource operation.path operation.method := by
  rcases operations_eq_ok_iff.mp ended with ⟨listing, isPaths, listed, described, same⟩
  rw [same] at member
  rcases List.mem_map.mp member with ⟨⟨path, verb⟩, isKey, isOperation⟩
  rw [← isOperation]
  rcases mem_keysIn.mp isKey with ⟨item, isListed, isDeclared⟩
  have isVerb : verb ∈ Resource.verbs := Resource.mem_verbs_of_mem_declared isDeclared
  have isResource : Resource.nameOf spec (.text path) ∈ resources := by
    have notEmpty : resources ≠ [] := by
      intro none
      rw [none] at isPaths
      cases isPaths
      cases isListed
    rcases exists_lists_of_pathsOf notEmpty isPaths with ⟨entries, lists⟩
    have parts := (pathsOf_eq_ok_iff lists).mp isPaths
    rw [parts.2] at isListed
    exact ((mem_flatMap_own (parts.1 notEmpty)).mp isListed).2
  have isCandidate := (described _ isKey).1
  rcases Outcome.bind_eq_ok_iff.mp isCandidate with ⟨resource, routed, named⟩
  rw [Resource.nameOf_text routed] at isResource
  exact ⟨isVerb, resource, isResource, routed, (Except.ok.inj named).symm⟩

end

/-! ## Attributes of accessor objects -/

/-- The form of the name of an operation in a module. -/
inductive HasForm (spec : Value) (resources : List String) (operation : Operation) : Prop
  | ending (ends : OperationName.HasEnding operation.name)
  | bareVerb (given : "" ∈ resources) (routed : Resource.ofPath spec operation.path = .ok "")
      (isVerb : operation.method ∈ Resource.verbs)
      (extended : OperationName.ExtendsVerb operation.path operation.method operation.name)

private theorem underscore_not_mem_verb {verb : String} (isVerb : verb ∈ Resource.verbs) :
    '_' ∉ verb.toList := by
  have without : ∀ verb ∈ Resource.verbs, '_' ∉ verb.toList := by decide
  exact without verb isVerb

section

variable {spec : Value} {resources : List String} {found : List Operation} {operation : Operation}

theorem hasForm_of_mem_operations (ended : operations spec resources = .ok found)
    (member : operation ∈ found) : HasForm spec resources operation := by
  have settles := settles_name ended member
  rcases candidateOf_eq ended member with ⟨isVerb, resource, given, routed, isCandidate⟩
  rw [isCandidate] at settles
  by_cases isEmpty : resource = ""
  · rw [isEmpty] at given routed settles
    exact .bareVerb given routed isVerb (settles.extendsVerb isVerb)
  · rw [if_neg (by simpa using isEmpty)] at settles
    apply HasForm.ending
    exact settles.hasEnding
      (OperationName.hasEnding_ofResource _ _ (underscore_not_mem_verb isVerb))

end

section

variable {name : String}

end

/-- The resources of a document are not empty, so all names in its package end alike. -/
theorem ofDocument_names_end {spec : Value} {package : Package}
    (ended : (ofDocument spec).runLog.1 = .ok package) {module : AccessorModule}
    (isModule : module ∈ package.modules) {operation : Operation}
    (member : operation ∈ module.operations) : OperationName.HasEnding operation.name := by
  rcases Logged.runLog_fst_eq_ok_iff.mp ended with ⟨log, outcome⟩
  rcases Logged.outcome_bind_eq_some_iff.mp outcome with ⟨resources, _, collected, built⟩
  have isAll := (Logged.outcome_lift_eq_some_iff.mp collected).1
  have emits := emits_of_build built
  cases hasForm_of_mem_operations (emits.exists_group module isModule).2.1 member with
  | ending ends => exact ends
  | bareVerb given routed isVerb extended =>
      rw [emits.resources_eq isModule] at given
      exact False.elim (Resource.empty_not_mem_all isAll (mem_membersOf.mp given).1)

end Package
end ApiAccessors
