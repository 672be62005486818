import ApiAccessors.Api.Package
import ApiAccessors.Proofs.OperationName.Unique
import ApiAccessors.Proofs.Resource.Declared
import ApiAccessors.Proofs.Resource.Sorted

namespace ApiAccessors

/-- An operation by its path and method. -/
def Operation.key (operation : Operation) : OperationName.Key := (operation.path, operation.method)

namespace Package

/-!
# The operations of resources

The operations of resources are computed in three walks over the same paths: one collects the
paths, one the candidates for names, and one looks up the final names and the content types.  If no
step of them stops, the operations are one for each verb that a path declares, in this order.

A candidate that is given for an operation once more would take the place of the first one.  Where
no path is listed twice and no verb declared twice, this does not happen, and the final names are
those that the candidates get in the order of the operations.
-/

/-- The operations that paths declare, in order. -/
def keysIn (entries : List (String × Value)) : List OperationName.Key :=
  entries.flatMap (fun entry => (Resource.declared entry.2).map (fun verb => (entry.1, verb)))

/-- The candidate for an operation, or the empty text where it has none. -/
def candidateOf (spec : Value) (key : OperationName.Key) : String :=
  Outcome.value (OperationName.candidate spec key.1 key.2)

/-- The candidates for operations that are given one after the other. -/
def candidatesFor (spec : Value) (known : List (OperationName.Key × String))
    (keys : List OperationName.Key) : List (OperationName.Key × String) :=
  keys.foldl (fun known key => Table.put key (candidateOf spec key) known) known

/-- An operation with the name that a list of names has for it. -/
def operationOf (spec : Value) (names : List (OperationName.Key × String))
    (key : OperationName.Key) : Operation :=
  ⟨(names.lookup key).getD "", key.1, key.2, Outcome.value (ContentType.of spec key.1 key.2)⟩

/-- The verbs of every path can be gone through. -/
def AllListed (entries : List (String × Value)) : Prop :=
  ∀ entry ∈ entries, Resource.declaredVerbs entry.2 = .ok (Resource.declared entry.2)

/-- An operation has a candidate and a content type. -/
def Described (spec : Value) (key : OperationName.Key) : Prop :=
  OperationName.candidate spec key.1 key.2 = .ok (candidateOf spec key) ∧
    ContentType.of spec key.1 key.2 = .ok (Outcome.value (ContentType.of spec key.1 key.2))

/-- Two documents in which the same candidates and content types are looked up. -/
structure SameLookups (spec other : Value) : Prop where
  candidate_eq : ∀ path verb,
    OperationName.candidate spec path verb = OperationName.candidate other path verb
  contentType_eq : ∀ path verb, ContentType.of spec path verb = ContentType.of other path verb

namespace SameLookups

variable {spec other : Value} (same : SameLookups spec other)

include same

theorem candidatesFor_eq : candidatesFor spec = candidatesFor other := by
  unfold candidatesFor candidateOf
  simp only [same.candidate_eq]

theorem operationOf_eq : operationOf spec = operationOf other := by
  unfold operationOf
  simp only [same.contentType_eq]

theorem described_eq : Described spec = Described other := by
  unfold Described candidateOf
  simp only [same.candidate_eq, same.contentType_eq]

end SameLookups

theorem mem_keysIn {entries : List (String × Value)} {path verb : String} :
    (path, verb) ∈ keysIn entries ↔
      ∃ item, (path, item) ∈ entries ∧ verb ∈ Resource.declared item := by
  unfold keysIn
  rw [List.mem_flatMap]
  constructor
  · rintro ⟨⟨other, item⟩, listed, member⟩
    rcases List.mem_map.mp member with ⟨found, isDeclared, same⟩
    cases same
    exact ⟨item, listed, isDeclared⟩
  · rintro ⟨item, listed, isDeclared⟩
    exact ⟨(path, item), listed, List.mem_map.mpr ⟨verb, isDeclared, rfl⟩⟩

section

variable {spec : Value} {entries : List (String × Value)}

private theorem forall_keysIn {condition : OperationName.Key → Prop} :
    (∀ entry ∈ entries, ∀ key ∈ keysIn [entry], condition key) ↔
      ∀ key ∈ keysIn entries, condition key := by
  constructor
  · rintro each ⟨path, verb⟩ member
    rcases mem_keysIn.mp member with ⟨item, listed, isDeclared⟩
    exact each _ listed _ (mem_keysIn.mpr ⟨item, List.mem_singleton_self _, isDeclared⟩)
  · rintro all entry listed ⟨path, verb⟩ member
    rcases mem_keysIn.mp member with ⟨item, isEntry, isDeclared⟩
    cases List.mem_singleton.mp isEntry
    exact all _ (mem_keysIn.mpr ⟨item, listed, isDeclared⟩)

theorem keysOf_eq_ok_iff {entry : String × Value} {keys : List OperationName.Key} :
    keysOf entry = .ok keys ↔
      Resource.declaredVerbs entry.2 = .ok (Resource.declared entry.2) ∧ keys = keysIn [entry] := by
  have single : keysIn [entry] = (Resource.declared entry.2).map (fun verb => (entry.1, verb)) :=
    List.append_nil _
  rw [single]
  exact Outcome.bind_pure_eq_ok_iff

/-- The candidates of one path are collected if its verbs can be gone through and each of its
operations has one. -/
theorem addCandidates_eq_ok_iff (known : List (OperationName.Key × String))
    (entry : String × Value) (after : List (OperationName.Key × String)) :
    addCandidates spec known entry = .ok after ↔
      (Resource.declaredVerbs entry.2 = .ok (Resource.declared entry.2) ∧
        ∀ key ∈ keysIn [entry],
          OperationName.candidate spec key.1 key.2 = .ok (candidateOf spec key)) ∧
      after = candidatesFor spec known (keysIn [entry]) := by
  have steps : ∀ (known : List (OperationName.Key × String)) (key : OperationName.Key)
      (after : List (OperationName.Key × String)),
      (do
        let name ← OperationName.candidate spec key.1 key.2
        pure (Table.put key name known)) = Except.ok after ↔
          OperationName.candidate spec key.1 key.2 = .ok (candidateOf spec key) ∧
            after = Table.put key (candidateOf spec key) known :=
    fun _ _ _ => Outcome.bind_pure_eq_ok_iff
  unfold addCandidates
  rw [Outcome.bind_eq_ok_iff]
  constructor
  · rintro ⟨keys, ended, later⟩
    have parts := keysOf_eq_ok_iff.mp ended
    rw [parts.2] at later
    have walk := (Outcome.foldlM_eq_ok_iff_of steps).mp later
    exact ⟨⟨parts.1, walk.1⟩, walk.2⟩
  · rintro ⟨⟨listed, named⟩, same⟩
    exact ⟨_, keysOf_eq_ok_iff.mpr ⟨listed, rfl⟩,
      (Outcome.foldlM_eq_ok_iff_of steps).mpr ⟨named, same⟩⟩

private theorem candidatesFor_flatMap (spec : Value) (known : List (OperationName.Key × String))
    (entries : List (String × Value)) :
    entries.foldl (fun known entry => candidatesFor spec known (keysIn [entry])) known =
      candidatesFor spec known (keysIn entries) := by
  induction entries generalizing known with
  | nil => rfl
  | cons entry rest ih =>
      have split : keysIn (entry :: rest) = keysIn [entry] ++ keysIn rest := by
        unfold keysIn
        rw [← List.flatMap_append]
        rfl
      rw [List.foldl_cons, ih, split]
      exact List.foldl_append.symm

/-- The final names are found if all verbs can be gone through and all operations have a
candidate. -/
theorem finalNames_eq_ok_iff {names : List (OperationName.Key × String)} :
    finalNames spec entries = .ok names ↔
      (AllListed entries ∧ ∀ key ∈ keysIn entries,
        OperationName.candidate spec key.1 key.2 = .ok (candidateOf spec key)) ∧
      names = OperationName.unique (candidatesFor spec [] (keysIn entries)) := by
  unfold finalNames
  rw [Outcome.bind_eq_ok_iff, ← forall_keysIn]
  constructor
  · rintro ⟨candidates, ended, same⟩
    cases same
    have walk := (Outcome.foldlM_eq_ok_iff_of addCandidates_eq_ok_iff).mp ended
    refine ⟨⟨fun entry member => (walk.1 entry member).1,
      fun entry member => (walk.1 entry member).2⟩, ?_⟩
    rw [walk.2, candidatesFor_flatMap]
  · rintro ⟨⟨listed, named⟩, same⟩
    have each := fun entry member => And.intro (listed entry member) (named entry member)
    refine ⟨_, (Outcome.foldlM_eq_ok_iff_of addCandidates_eq_ok_iff).mpr ⟨each, rfl⟩, ?_⟩
    rw [same, candidatesFor_flatMap]
    rfl

theorem operation_eq_ok_iff (names : List (OperationName.Key × String))
    (key : OperationName.Key) (result : Operation) :
    operation spec names key = .ok result ↔
      ContentType.of spec key.1 key.2 = .ok (Outcome.value (ContentType.of spec key.1 key.2)) ∧
        result = operationOf spec names key :=
  Outcome.bind_pure_eq_ok_iff

theorem operationsAt_eq_ok_iff (names : List (OperationName.Key × String))
    (entry : String × Value) (results : List Operation) :
    operationsAt spec names entry = .ok results ↔
      (Resource.declaredVerbs entry.2 = .ok (Resource.declared entry.2) ∧
        ∀ key ∈ keysIn [entry], ContentType.of spec key.1 key.2 =
          .ok (Outcome.value (ContentType.of spec key.1 key.2))) ∧
      results = (keysIn [entry]).map (operationOf spec names) := by
  unfold operationsAt
  rw [Outcome.bind_eq_ok_iff]
  constructor
  · rintro ⟨keys, ended, later⟩
    have parts := keysOf_eq_ok_iff.mp ended
    rw [parts.2] at later
    have walk := (Outcome.mapM_eq_ok_iff_of (operation_eq_ok_iff names)).mp later
    exact ⟨⟨parts.1, walk.1⟩, walk.2⟩
  · rintro ⟨⟨listed, typed⟩, same⟩
    exact ⟨_, keysOf_eq_ok_iff.mpr ⟨listed, rfl⟩,
      (Outcome.mapM_eq_ok_iff_of (operation_eq_ok_iff names)).mpr ⟨typed, same⟩⟩

/-- The operations of resources are found if their paths are, and if all verbs can be gone through
and all operations have a candidate and a content type. -/
theorem operations_eq_ok_iff {resources : List String} {found : List Operation} :
    operations spec resources = .ok found ↔
      ∃ entries, pathsOf spec resources = .ok entries ∧ AllListed entries ∧
        (∀ key ∈ keysIn entries, Described spec key) ∧
        found = (keysIn entries).map (operationOf spec
          (OperationName.unique (candidatesFor spec [] (keysIn entries)))) := by
  have joined : ∀ (names : List (OperationName.Key × String)) (entries : List (String × Value)),
      (entries.map (fun entry => (keysIn [entry]).map (operationOf spec names))).flatten =
        (keysIn entries).map (operationOf spec names) := by
    intro names entries
    rw [← List.flatMap_def, ← List.map_flatMap]
    congr 1
    apply List.flatMap_congr
    intro entry _
    exact List.append_nil _
  unfold operations
  rw [Outcome.bind_eq_ok_iff]
  constructor
  · rintro ⟨entries, isPaths, later⟩
    rcases Outcome.bind_eq_ok_iff.mp later with ⟨names, isNames, walk⟩
    rcases Outcome.bind_eq_ok_iff.mp walk with ⟨lists, ended, same⟩
    cases same
    have named := finalNames_eq_ok_iff.mp isNames
    have steps := (Outcome.mapM_eq_ok_iff_of (operationsAt_eq_ok_iff names)).mp ended
    have typed := forall_keysIn.mp (fun entry member => (steps.1 entry member).2)
    refine ⟨entries, isPaths, named.1.1,
      fun key member => ⟨named.1.2 key member, typed key member⟩, ?_⟩
    rw [steps.2, joined, named.2]
  · rintro ⟨entries, isPaths, listed, described, same⟩
    have typed := forall_keysIn.mpr (fun key member => (described key member).2)
    refine ⟨entries, isPaths, Outcome.bind_eq_ok_iff.mpr ⟨_, finalNames_eq_ok_iff.mpr
      ⟨⟨listed, fun key member => (described key member).1⟩, rfl⟩, ?_⟩⟩
    refine Outcome.bind_eq_ok_iff.mpr ⟨_, (Outcome.mapM_eq_ok_iff_of (operationsAt_eq_ok_iff _)).mpr
      ⟨fun entry member => ⟨listed entry member, typed entry member⟩, rfl⟩, ?_⟩
    rw [same, ← joined]
    rfl

end

end Package
end ApiAccessors
