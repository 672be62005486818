import ApiAccessors.Proofs.Generator.Accepted
import ApiAccessors.Proofs.Package.Partition
import ApiAccessors.Proofs.Resource.Shape

namespace ApiAccessors
namespace Package

/-!
# Which documents have a package

An accepted document may hold anything inside its paths.  Its resources are found if each path is
routed, and its package if, beyond that, the operations of every path with a resource are found: no
step after those can stop.  Since each step looks at one path only, a document has a package just if
each of its paths has the shape that is needed, and this can be tested path by path.

The item of a path must not be null, although a null item has no tags and no content types: for the
resource and for the content type it is taken as the empty mapping, but for the verbs it is not.
-/

/-- A path is a text with an item from which its resource is found. -/
def isRoutedEntry (entry : Value × Value) : Bool :=
  match entry.1 with
  | .text path => Resource.isRouted path entry.2
  | _ => false

/-- The operations of a path are found, if it has a resource. -/
def isEmittedEntry (spec : Value) (entry : Value × Value) : Bool :=
  isRoutedEntry entry &&
    ((Resource.nameOf spec entry.1).isEmpty || Resource.hasOperations entry.2)

section

variable {spec : Value} {entries : Entries}

theorem allRouted_iff (lists : Resource.Lists spec entries)
    (distinct : spec.hasDistinctKeys = true) :
    Resource.AllRouted spec entries ↔ ∀ entry ∈ entries, isRoutedEntry entry = true := by
  apply forall₂_congr
  rintro ⟨key, item⟩ member
  refine Outcome.exists_ok_iff_value.symm.trans ?_
  cases key with
  | text path => exact Resource.exists_ofPath_iff (lists.pathItem_of_mem distinct member)
  | _ =>
      apply iff_of_false
      · rintro ⟨name, ended⟩
        cases ended
      · exact Bool.false_ne_true

section

variable (lists : Resource.Lists spec entries) (distinct : spec.hasDistinctKeys = true)
  (routed : Resource.AllRouted spec entries)

include lists distinct routed

/-- The operations of resources are found if the items of all their paths have operations. -/
theorem exists_operations_iff (resources : List String) :
    (∃ found, operations spec resources = .ok found) ↔
      ∀ path item, (.text path, item) ∈ entries →
        Resource.nameOf spec (.text path) ∈ resources → Resource.hasOperations item = true := by
  have isItem : ∀ path item, (.text path, item) ∈ entries →
      Resource.pathItem spec path = .ok (if item.truthy then item else .empty) :=
    fun path item listed => lists.pathItem_of_mem distinct listed
  have named : ∀ path item verb, (.text path, item) ∈ entries →
      OperationName.candidate spec path verb = .ok (candidateOf spec (path, verb)) := by
    intro path item verb listed
    apply Outcome.exists_ok_iff_value.mp
    unfold OperationName.candidate
    rw [ofPath_of_allRouted routed listed]
    exact ⟨_, rfl⟩
  simp only [operations_eq_ok_iff, pathsOf_eq_ok_iff lists]
  constructor
  · rintro ⟨found, listing, ⟨-, isListing⟩, listed, described, -⟩ path item isEntry isMember
    have owned := isListing ▸ (mem_flatMap_own routed).mpr ⟨isEntry, isMember⟩
    apply (Resource.hasOperations_iff (isItem path item isEntry)).mpr
    refine ⟨listed _ owned, ?_⟩
    intro verb isDeclared
    exact ⟨_, (described _ (mem_keysIn.mpr ⟨item, owned, isDeclared⟩)).2⟩
  · intro each
    have parts : ∀ path item, (path, item) ∈ resources.flatMap (Resource.own spec entries) →
        (.text path, item) ∈ entries ∧ Resource.declaredVerbs item = .ok (Resource.declared item) ∧
          ∀ verb ∈ Resource.declared item, ∃ type, ContentType.of spec path verb = .ok type := by
      intro path item owned
      rcases (mem_flatMap_own routed).mp owned with ⟨isEntry, isMember⟩
      exact ⟨isEntry, (Resource.hasOperations_iff (isItem path item isEntry)).mp
        (each path item isEntry isMember)⟩
    refine ⟨_, _, ⟨fun _ => routed, rfl⟩, ?_, ?_, rfl⟩
    · rintro ⟨path, item⟩ owned
      exact (parts path item owned).2.1
    · rintro ⟨path, verb⟩ isKey
      rcases mem_keysIn.mp isKey with ⟨item, owned, isDeclared⟩
      rcases parts path item owned with ⟨isEntry, -, typed⟩
      exact ⟨named path item verb isEntry, Outcome.exists_ok_iff_value.mp (typed verb isDeclared)⟩

end

end

private theorem ends_claimNames (taken : List String) (module : AccessorModule)
    (log : List LogEntry) : (claimNames taken module).Ends log := by
  unfold claimNames
  dsimp only
  split
  · exact ⟨_, _, rfl⟩
  · exact ⟨_, _, rfl⟩

section

variable {spec : Value}
  (informed : ∀ name missing, ∃ value, information spec name missing = .ok value)

include informed

theorem ends_buildModule_iff (title : String) (members : List String) (log : List LogEntry) :
    (buildModule spec title members).Ends log ↔
      ∃ found, operations spec members = .ok found := by
  unfold buildModule
  rw [Logged.ends_lift_bind_iff]
  apply exists_congr
  intro found
  apply and_iff_left
  split
  · exact ⟨_, _, rfl⟩
  · rcases informed "title" "API" with ⟨apiTitle, isTitle⟩
    rcases informed "version" "unknown" with ⟨apiVersion, isVersion⟩
    simp only [Logged.ends_lift_bind_iff]
    exact ⟨apiTitle, isTitle, apiVersion, isVersion, Logged.ends_pure _ _⟩

/-- The modules of groups are made if the operations of every group are found, whatever names are
taken and whatever was reported before. -/
theorem ends_buildModules_iff {groups : List (String × List String)} {taken : List String}
    {log : List LogEntry} :
    (buildModules spec taken groups).Ends log ↔
      ∀ group ∈ groups, ∃ found, operations spec group.2 = .ok found := by
  induction groups generalizing taken log with
  | nil => exact iff_of_true (Logged.ends_pure _ _) (List.forall_mem_nil _)
  | cons group rest ih =>
      rcases group with ⟨title, members⟩
      rw [List.forall_mem_cons, ← ends_buildModule_iff informed title members log]
      unfold buildModules
      rw [Logged.ends_bind_iff]
      constructor
      · rintro ⟨result, between, built, later⟩
        refine ⟨⟨result, between, built⟩, ?_⟩
        cases result with
        | none => exact ih.mp later
        | some plain =>
            rcases Logged.ends_bind_iff.mp later with ⟨claimed, named, -, others⟩
            rcases Logged.ends_bind_iff.mp others with ⟨modules, after, ended, -⟩
            exact ih.mp ⟨modules, after, ended⟩
      · rintro ⟨⟨result, between, built⟩, others⟩
        refine ⟨result, between, built, ?_⟩
        cases result with
        | none => exact ih.mpr others
        | some plain =>
            rcases ends_claimNames taken plain between with ⟨claimed, named, isClaimed⟩
            rcases ih.mpr others with ⟨modules, after, ended⟩
            exact Logged.ends_bind_iff.mpr ⟨claimed, named, isClaimed,
              Logged.ends_bind_iff.mpr ⟨modules, after, ended, Logged.ends_pure _ _⟩⟩

theorem ends_build_iff {resources : List String} {log : List LogEntry} :
    (build spec resources).Ends log ↔
      ∀ unit ∈ group resources, ∃ found, operations spec unit.2 = .ok found := by
  unfold build
  rw [Logged.ends_bind_iff]
  constructor
  · rintro ⟨modules, between, ended, -⟩
    exact (ends_buildModules_iff informed).mp ⟨modules, between, ended⟩
  · intro found
    rcases (ends_buildModules_iff informed).mpr found with ⟨modules, between, ended⟩
    rcases informed "title" "API" with ⟨apiTitle, isTitle⟩
    rcases informed "version" "unknown" with ⟨apiVersion, isVersion⟩
    refine ⟨modules, between, ended, ?_⟩
    simp only [Logged.ends_lift_bind_iff]
    exact ⟨apiTitle, isTitle, apiVersion, isVersion, Logged.ends_pure _ _⟩

end

section

variable {spec : Value} {entries : Entries}

/-- The groups of all resources have the paths with a resource. -/
private theorem forall_group_iff (lists : Resource.Lists spec entries) {resources : List String}
    (found : Resource.all spec = .ok resources) {condition : Value → Prop} :
    (∀ unit ∈ group resources, ∀ path item, (.text path, item) ∈ entries →
      Resource.nameOf spec (.text path) ∈ unit.2 → condition item) ↔
      ∀ path item, (.text path, item) ∈ entries → Resource.nameOf spec (.text path) ≠ "" →
        condition item := by
  constructor
  · intro each path item isEntry notEmpty
    have isResource := (lists.mem_all_iff found).mpr ⟨notEmpty, _, isEntry, rfl⟩
    have isMember := mem_membersOf.mpr ⟨isResource, rfl⟩
    exact each _ (mem_group_of_mem isResource) path item isEntry isMember
  · rintro each ⟨title, members⟩ isGroup path item isEntry isMember
    rw [((mem_group_iff resources).mp isGroup).1] at isMember
    exact each path item isEntry
      ((lists.mem_all_iff found).mp (mem_membersOf.mp isMember).1).1

theorem ends_ofDocument_iff (accepted : SpecFile.IsAccepted spec)
    (lists : Resource.Lists spec entries) (distinct : spec.hasDistinctKeys = true) :
    (ofDocument spec).Ends [] ↔ ∀ entry ∈ entries, isEmittedEntry spec entry = true := by
  have routedIff := allRouted_iff lists distinct
  have emitted : (∀ entry ∈ entries, isEmittedEntry spec entry = true) ↔
      Resource.AllRouted spec entries ∧ ∀ path item, (.text path, item) ∈ entries →
        Resource.nameOf spec (.text path) ≠ "" → Resource.hasOperations item = true := by
    rw [routedIff]
    simp only [isEmittedEntry, Bool.and_eq_true, Bool.or_eq_true, String.isEmpty_iff]
    constructor
    · intro each
      refine ⟨fun entry member => (each entry member).1, ?_⟩
      intro path item isEntry notEmpty
      exact (each _ isEntry).2.resolve_left notEmpty
    · rintro ⟨routed, each⟩ entry member
      refine ⟨routed entry member, or_iff_not_imp_left.mpr ?_⟩
      rcases (routedIff.mpr routed).exists_text member with ⟨path, isPath⟩
      rcases entry with ⟨key, item⟩
      cases isPath
      exact each path item member
  unfold ofDocument
  rw [Logged.ends_lift_bind_iff, emitted]
  constructor
  · rintro ⟨resources, found, ended⟩
    have routed := (lists.all_eq_ok_iff.mp found).1
    rw [ends_build_iff accepted.exists_information] at ended
    simp only [exists_operations_iff lists distinct routed] at ended
    exact ⟨routed, (forall_group_iff lists found).mp ended⟩
  · rintro ⟨routed, each⟩
    have found := lists.all_eq_ok_iff.mpr ⟨routed, rfl⟩
    refine ⟨_, found, (ends_build_iff accepted.exists_information).mpr ?_⟩
    simp only [exists_operations_iff lists distinct routed]
    exact (forall_group_iff lists found).mpr each

/-- An operation of a package is declared by an item that is a mapping, and where the operation is
something else it has the content type of one that says nothing. -/
theorem exists_item_of_operation (lists : Resource.Lists spec entries)
    (distinct : spec.hasDistinctKeys = true) {package : Package}
    (ended : (ofDocument spec).runLog.1 = .ok package) {module : AccessorModule}
    (isModule : module ∈ package.modules) {operation : Operation}
    (isOperation : operation ∈ module.operations) :
    ∃ item, (.text operation.path, item) ∈ entries ∧ item.isMapping = true ∧
      ((item.member operation.method).isMapping = false →
        operation.contentType = .text ContentType.json) := by
  rcases Logged.runLog_fst_eq_ok_iff.mp ended with ⟨log, made⟩
  rcases Logged.outcome_bind_eq_some_iff.mp made with ⟨resources, between, lookedUp, built⟩
  have routed := (lists.all_eq_ok_iff.mp (Logged.outcome_lift_eq_some_iff.mp lookedUp).1).1
  rcases (emits_of_build built).exists_group module isModule with ⟨-, found, -⟩
  rcases operations_eq_ok_iff.mp found with ⟨listing, isPaths, -, described, same⟩
  rw [((pathsOf_eq_ok_iff lists).mp isPaths).2] at described same
  rw [same] at isOperation
  rcases List.mem_map.mp isOperation with ⟨⟨path, verb⟩, isKey, isOperation⟩
  rcases mem_keysIn.mp isKey with ⟨item, owned, isDeclared⟩
  have isEntry := ((mem_flatMap_own routed).mp owned).1
  have isItem := lists.pathItem_of_mem distinct isEntry
  rw [if_pos (Resource.truthy_of_mem_declared isDeclared)] at isItem
  rw [← isOperation]
  refine ⟨item, isEntry, Value.isMapping_iff.mpr
    (exists_entries_of_described lists distinct routed described owned isDeclared), ?_⟩
  intro noMapping
  exact ContentType.of_eq_of_not_isMapping isItem noMapping (described _ isKey).2

/-- The resources of an accepted document are found just if all its paths are routed, and its
package is made just if all its paths have the shape that is needed; in a package that is made, what
is no mapping has given no operations and no content types. -/
theorem exists_package_iff {machine after : Machine} (distinct : spec.hasDistinctKeys = true)
    (accepted : Run.Ends (SpecFile.check spec) machine () after) :
    ∃ entries, Resource.Lists spec entries ∧
      ((∃ resources, Resource.all spec = .ok resources) ↔
        ∀ entry ∈ entries, isRoutedEntry entry = true) ∧
      ((∃ package, (ofDocument spec).runLog.1 = .ok package) ↔
        ∀ entry ∈ entries, isEmittedEntry spec entry = true) ∧
      ∀ package, (ofDocument spec).runLog.1 = .ok package →
        ∀ module ∈ package.modules, ∀ operation ∈ module.operations,
          ∃ item, (.text operation.path, item) ∈ entries ∧ item.isMapping = true ∧
            ((item.member operation.method).isMapping = false →
              operation.contentType = .text ContentType.json) := by
  have isAccepted := SpecFile.exists_ends_check_iff.mp ⟨after, accepted⟩
  rcases isAccepted.exists_lists with ⟨entries, lists, -⟩
  refine ⟨entries, lists, ?_, ?_, ?_⟩
  · rw [← allRouted_iff lists distinct]
    exact ⟨fun ⟨_, found⟩ => (lists.all_eq_ok_iff.mp found).1,
      fun routed => ⟨_, lists.all_eq_ok_iff.mpr ⟨routed, rfl⟩⟩⟩
  · rw [Logged.exists_runLog_iff]
    exact ends_ofDocument_iff isAccepted lists distinct
  · intro package ended module isModule operation isOperation
    exact exists_item_of_operation lists distinct ended isModule isOperation

end

/-- A machine without files, on which a document can be checked. -/
def bareMachine : Machine := .start .usual ⟨[], fun _ _ => none⟩ [] ⟨none, 0, none⟩

/-- A document with an operation that is null and with a path item that is an empty list. -/
def oddShapes : Value :=
  .record [("openapi", .text "3.1.0"), ("paths", .record [
    ("/api/tasks", .record [("get", .null)]),
    ("/api/notes", .list [])])]

theorem exists_package_iff_oddShapes :
    (∃ package, (ofDocument oddShapes).runLog.1 = .ok package) := by
  have accepted : Run.Ends (SpecFile.check oddShapes) bareMachine ()
      (SpecFile.check oddShapes |>.run.run bareMachine).2 := rfl
  rcases exists_package_iff (by decide) accepted with ⟨entries, lists, -, isMade, -⟩
  have listed : Resource.Lists oddShapes [(.text "/api/tasks", .record [("get", .null)]),
    (.text "/api/notes", .list [])] := ⟨_, rfl, rfl⟩
  apply isMade.mpr
  rw [lists.unique listed]
  decide

/-- A document whose only path has a null item. -/
def nullItem : Value :=
  .record [("openapi", .text "3.1.0"), ("paths", .record [("/api/tasks", .null)])]

/-- A document with a null item is accepted and its resource is found, but it has no package. -/
theorem null_item_has_no_package :
    (∃ after, Run.Ends (SpecFile.check nullItem) bareMachine () after) ∧
      Resource.all nullItem = .ok ["tasks"] ∧
      ¬∃ package, (ofDocument nullItem).runLog.1 = .ok package := by
  have accepted : ∃ after, Run.Ends (SpecFile.check nullItem) bareMachine () after :=
    ⟨(SpecFile.check nullItem |>.run.run bareMachine).2, rfl⟩
  have isAccepted := SpecFile.exists_ends_check_iff.mp accepted
  have listed : Resource.Lists nullItem [(.text "/api/tasks", .null)] := ⟨_, rfl, rfl⟩
  refine ⟨accepted, by decide, ?_⟩
  rw [Logged.exists_runLog_iff, ends_ofDocument_iff isAccepted listed (by decide)]
  decide

end Package
end ApiAccessors
