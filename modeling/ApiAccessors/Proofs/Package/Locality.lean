import ApiAccessors.Proofs.Package.OperationNames
import ApiAccessors.Proofs.Package.Partition
import ApiAccessors.Proofs.Resource.PathItem
import Mathlib.Data.List.Basic

namespace ApiAccessors
namespace Package

/-!
# Resources do not influence each other

The operations of resources are looked up in the whole document: every path is routed again, and the
names and content types of the operations found are read from it once more.  Still the operations
depend only on the entries that are routed to these resources.  So a document can be given further
paths, or lose paths, or have paths of other resources changed, and the operations stay what they
are, with the same names in the same order.

The two runs need not be of the same length, as they pass over different paths.  They are compared
after the paths have been sorted: there both runs have the same entries in front of them.
-/

/-- An entry of the paths of a document has one of the given resources. -/
def IsEntryOf (spec : Value) (resources : List String) (entry : Value × Value) : Prop :=
  ∃ entries resource, Resource.Lists spec entries ∧ entry ∈ entries ∧
    Resource.ofKey spec entry.1 = .ok resource ∧ resource ∈ resources

/-! ## Entries of both documents -/

theorem isEntryOf_iff {spec : Value} {entries : Entries} (lists : Resource.Lists spec entries)
    {resources : List String} {entry : Value × Value} :
    IsEntryOf spec resources entry ↔
      entry ∈ entries ∧ ∃ resource ∈ resources, Resource.ofKey spec entry.1 = .ok resource := by
  constructor
  · rintro ⟨found, resource, foundLists, member, isResource, isMember⟩
    exact ⟨foundLists.unique lists ▸ member, resource, isMember, isResource⟩
  · rintro ⟨member, resource, isMember, isResource⟩
    exact ⟨entries, resource, lists, member, isResource, isMember⟩

/-- Two documents whose paths can all be routed and that have the same entries for some
resources. -/
structure EntriesShared (spec other : Value) (entries others : Entries) (resources : List String) :
    Prop where
  distinct : spec.hasDistinctKeys = true
  other_distinct : other.hasDistinctKeys = true
  lists : Resource.Lists spec entries
  other_lists : Resource.Lists other others
  routed : Resource.AllRouted spec entries
  other_routed : Resource.AllRouted other others
  same : ∀ entry, IsEntryOf spec resources entry ↔ IsEntryOf other resources entry

namespace EntriesShared

variable {spec other : Value} {entries others : Entries} {resources : List String}

theorem symm (shared : EntriesShared spec other entries others resources) :
    EntriesShared other spec others entries resources :=
  ⟨shared.other_distinct, shared.distinct, shared.other_lists, shared.lists, shared.other_routed,
    shared.routed, fun entry => (shared.same entry).symm⟩

/-- An entry of one of the resources is listed in the other document too, where its path is looked
up with the same result. -/
theorem listed_and_pathItem (shared : EntriesShared spec other entries others resources)
    {resource path : String} {item : Value} (isMember : resource ∈ resources)
    (owned : (path, item) ∈ Resource.own spec entries resource) :
    (.text path, item) ∈ others ∧
      Resource.pathItem spec path = Resource.pathItem other path := by
  have parts := shared.routed.mem_own.mp owned
  have isResource : Resource.ofKey spec (.text path) = .ok resource :=
    parts.2 ▸ shared.routed _ parts.1
  have isEntry : IsEntryOf spec resources (.text path, item) :=
    (isEntryOf_iff shared.lists).mpr ⟨parts.1, resource, isMember, isResource⟩
  have listed := ((isEntryOf_iff shared.other_lists).mp ((shared.same _).mp isEntry)).1
  refine ⟨listed, ?_⟩
  rw [shared.lists.pathItem_of_mem shared.distinct parts.1,
    shared.other_lists.pathItem_of_mem shared.other_distinct listed]

/-- So the entry has the same resource in both documents. -/
theorem mem_own (shared : EntriesShared spec other entries others resources)
    {resource path : String} {item : Value} (isMember : resource ∈ resources)
    (owned : (path, item) ∈ Resource.own spec entries resource) :
    (path, item) ∈ Resource.own other others resource := by
  have both := shared.listed_and_pathItem isMember owned
  have name : Resource.nameOf spec (.text path) = resource := (shared.routed.mem_own.mp owned).2
  have sameName : Resource.nameOf other (.text path) = Resource.nameOf spec (.text path) := by
    change Outcome.value (Resource.ofPath other path) = Outcome.value (Resource.ofPath spec path)
    rw [Resource.ofPath_congr both.2]
  exact shared.other_routed.mem_own.mpr ⟨both.1, sameName.trans name⟩

/-- The paths of each resource are the same, and sorting puts them into the same order. -/
theorem own_eq (shared : EntriesShared spec other entries others resources) {resource : String}
    (isMember : resource ∈ resources) :
    Resource.own spec entries resource = Resource.own other others resource := by
  have differ := shared.lists.textsDiffer shared.distinct
  have otherDiffer := shared.other_lists.textsDiffer shared.other_distinct
  apply Resource.eq_of_increasing _ (shared.routed.own_pairwise_lt differ resource)
    (shared.other_routed.own_pairwise_lt otherDiffer resource)
  rintro ⟨path, item⟩
  exact ⟨shared.mem_own isMember, shared.symm.mem_own isMember⟩

theorem flatMap_own_eq (shared : EntriesShared spec other entries others resources) :
    resources.flatMap (Resource.own spec entries) =
      resources.flatMap (Resource.own other others) :=
  List.flatMap_congr (fun _ isMember => shared.own_eq isMember)

theorem pathItem_eq (shared : EntriesShared spec other entries others resources) :
    ∀ entry ∈ resources.flatMap (Resource.own spec entries),
      Resource.pathItem spec entry.1 = Resource.pathItem other entry.1 := by
  rintro ⟨path, item⟩ member
  rcases List.mem_flatMap.mp member with ⟨resource, isMember, owned⟩
  exact (shared.listed_and_pathItem isMember owned).2

end EntriesShared

/-! ## Operations on the same entries -/

section

variable {spec other : Value} {listing : List (String × Value)}

/-- The candidates depend on the items of the paths that the operations are on. -/
theorem candidateOf_congr {key : OperationName.Key}
    (same : Resource.pathItem spec key.1 = Resource.pathItem other key.1) :
    candidateOf spec key = candidateOf other key := by
  unfold candidateOf
  rw [OperationName.candidate_congr same]

theorem operationsOn_congr
    (same : ∀ entry ∈ listing, Resource.pathItem spec entry.1 = Resource.pathItem other entry.1) :
    (keysIn listing).map (operationOf spec
        (OperationName.unique (candidatesFor spec [] (keysIn listing)))) =
      (keysIn listing).map (operationOf other
        (OperationName.unique (candidatesFor other [] (keysIn listing)))) := by
  have sameItem : ∀ key ∈ keysIn listing,
      Resource.pathItem spec key.1 = Resource.pathItem other key.1 := by
    rintro ⟨path, verb⟩ member
    rcases mem_keysIn.mp member with ⟨item, listed, -⟩
    exact same _ listed
  have candidates :
      candidatesFor spec [] (keysIn listing) = candidatesFor other [] (keysIn listing) := by
    apply List.foldl_ext
    intro known key member
    rw [candidateOf_congr (sameItem key member)]
  rw [candidates]
  apply List.map_congr_left
  intro key member
  unfold operationOf
  rw [ContentType.of_congr (sameItem key member)]

end

/-- Both runs find the same paths, and the same items for them. -/
theorem operations_eq_of_isEntryOf_iff {spec other : Value} (distinct : spec.hasDistinctKeys = true)
    (otherDistinct : other.hasDistinctKeys = true) {resources : List String}
    (same : ∀ entry, IsEntryOf spec resources entry ↔ IsEntryOf other resources entry)
    {found otherFound : List Operation} (ended : operations spec resources = .ok found)
    (otherEnded : operations other resources = .ok otherFound) : found = otherFound := by
  rcases operations_eq_ok_iff.mp ended with ⟨listing, isPaths, -, -, isFound⟩
  rcases operations_eq_ok_iff.mp otherEnded with ⟨otherListing, otherPaths, -, -, isOtherFound⟩
  by_cases empty : resources = []
  · rw [empty] at isPaths otherPaths
    cases isPaths
    cases otherPaths
    rw [isFound, isOtherFound]
    rfl
  · rcases exists_lists_of_pathsOf empty isPaths with ⟨entries, lists⟩
    rcases exists_lists_of_pathsOf empty otherPaths with ⟨others, otherLists⟩
    have parts := (pathsOf_eq_ok_iff lists).mp isPaths
    have otherParts := (pathsOf_eq_ok_iff otherLists).mp otherPaths
    have shared : EntriesShared spec other entries others resources :=
      ⟨distinct, otherDistinct, lists, otherLists, parts.1 empty, otherParts.1 empty, same⟩
    rw [parts.2] at isFound
    rw [otherParts.2, ← shared.flatMap_own_eq] at isOtherFound
    rw [isFound, isOtherFound]
    exact operationsOn_congr shared.pathItem_eq

/-! ## Modules with the same entries -/

/-- A path is listed with an item and has a resource with a title. -/
def IsEntryOfTitle (spec : Value) (title path : String) (item : Value) : Prop :=
  ∃ entries resource, Resource.Lists spec entries ∧ Belongs spec entries path item resource ∧
    Naming.pascalCase resource = title

theorem isEntryOf_iff_belongs {spec : Value} {entries : Entries}
    (lists : Resource.Lists spec entries) {resources : List String}
    (notEmpty : ∀ resource ∈ resources, resource ≠ "") {entry : Value × Value} :
    IsEntryOf spec resources entry ↔
      ∃ path resource, entry.1 = .text path ∧ resource ∈ resources ∧
        Belongs spec entries path entry.2 resource := by
  rcases entry with ⟨key, item⟩
  rw [isEntryOf_iff lists]
  constructor
  · rintro ⟨listed, resource, isMember, routed⟩
    cases key with
    | text path => exact ⟨path, resource, rfl, isMember, listed, routed, notEmpty _ isMember⟩
    | _ => cases routed
  · rintro ⟨path, resource, isPath, isMember, belongs⟩
    cases isPath
    exact ⟨belongs.listed, resource, isMember, belongs.routed⟩

/-- A path that both documents list with one item has the same resource in both. -/
theorem Belongs.of_title {spec other : Value} {entries others : Entries} {title : String}
    (lists : Resource.Lists spec entries) (otherLists : Resource.Lists other others)
    (distinct : spec.hasDistinctKeys = true) (otherDistinct : other.hasDistinctKeys = true)
    (same : ∀ path item, IsEntryOfTitle spec title path item → IsEntryOfTitle other title path item)
    {path resource : String} {item : Value} (belongs : Belongs spec entries path item resource)
    (isTitle : Naming.pascalCase resource = title) : Belongs other others path item resource := by
  rcases same path item ⟨entries, resource, lists, belongs, isTitle⟩ with
    ⟨found, _, foundLists, otherBelongs, -⟩
  rw [foundLists.unique otherLists] at otherBelongs
  have sameItem : Resource.pathItem spec path = Resource.pathItem other path := by
    rw [lists.pathItem_of_mem distinct belongs.listed,
      otherLists.pathItem_of_mem otherDistinct otherBelongs.listed]
  exact ⟨otherBelongs.listed, Resource.ofPath_congr sameItem ▸ belongs.routed, belongs.not_empty⟩

/-- The modules of a package are made with the resources of the document. -/
theorem exists_made {spec : Value} (distinct : spec.hasDistinctKeys = true) {package : Package}
    (ended : (ofDocument spec).runLog.1 = .ok package) {entries : Entries}
    (lists : Resource.Lists spec entries) : ∃ resources, Made spec entries resources package := by
  rcases Logged.runLog_fst_eq_ok_iff.mp ended with ⟨log, outcome⟩
  rcases Logged.outcome_bind_eq_some_iff.mp outcome with ⟨resources, _, lookedUp, built⟩
  have found := (Logged.outcome_lift_eq_some_iff.mp lookedUp).1
  exact ⟨resources, distinct, lists, found, emits_of_build built⟩

/-- A package with a module belongs to a document that lists its paths. -/
theorem exists_lists_of_module {spec : Value} {package : Package}
    (ended : (ofDocument spec).runLog.1 = .ok package) {module : AccessorModule}
    (member : module ∈ package.modules) : ∃ entries, Resource.Lists spec entries := by
  rcases Logged.runLog_fst_eq_ok_iff.mp ended with ⟨log, outcome⟩
  rcases Logged.outcome_bind_eq_some_iff.mp outcome with ⟨resources, _, -, built⟩
  rcases (emits_of_build built).exists_group module member with ⟨-, found, notEmpty⟩
  rcases operations_eq_ok_iff.mp found with ⟨listing, isPaths, -, -, same⟩
  have members : module.resources ≠ [] := by
    intro empty
    rw [empty] at isPaths
    cases isPaths
    exact notEmpty same
  exact exists_lists_of_pathsOf members isPaths

namespace Made

variable {spec other : Value} {entries others : Entries} {resources otherResources : List String}
  {package otherPackage : Package} {module otherModule : AccessorModule}

theorem belongs_iff (made : Made spec entries resources package)
    (otherMade : Made other others otherResources otherPackage) {title : String}
    (same : ∀ path item, IsEntryOfTitle spec title path item ↔
      IsEntryOfTitle other title path item)
    {path resource : String} {item : Value} (isTitle : Naming.pascalCase resource = title) :
    Belongs spec entries path item resource ↔ Belongs other others path item resource := by
  constructor
  · intro belongs
    exact .of_title made.lists otherMade.lists made.distinct otherMade.distinct
      (fun path item => (same path item).mp) belongs isTitle
  · intro belongs
    exact .of_title otherMade.lists made.lists otherMade.distinct made.distinct
      (fun path item => (same path item).mpr) belongs isTitle

/-- Modules with the same title have the same resources and the same operations, if both documents
have the same entries for this title. -/
theorem module_eq_of_title (made : Made spec entries resources package)
    (otherMade : Made other others otherResources otherPackage) (member : module ∈ package.modules)
    (otherMember : otherModule ∈ otherPackage.modules) (titles : otherModule.title = module.title)
    (same : ∀ path item, IsEntryOfTitle spec module.title path item ↔
      IsEntryOfTitle other module.title path item) :
    otherModule.resources = module.resources ∧ otherModule.operations = module.operations := by
  have sameResources : otherModule.resources = module.resources := by
    apply Resource.eq_of_increasing id (otherMade.resources_increase otherMember)
      (made.resources_increase member)
    intro resource
    rw [made.mem_resources_iff member, otherMade.mem_resources_iff otherMember, titles]
    apply and_congr_left
    intro isTitle
    simp only [made.belongs_iff otherMade same isTitle]
  refine ⟨sameResources, ?_⟩
  have found := (made.emits.exists_group module member).2.1
  have otherFound := (otherMade.emits.exists_group otherModule otherMember).2.1
  rw [sameResources] at otherFound
  apply operations_eq_of_isEntryOf_iff otherMade.distinct made.distinct _ otherFound found
  have notEmpty := made.resources_ne_empty member
  intro entry
  rw [isEntryOf_iff_belongs made.lists notEmpty, isEntryOf_iff_belongs otherMade.lists notEmpty]
  constructor
  · rintro ⟨path, resource, isPath, isMember, belongs⟩
    have isTitle := ((made.mem_resources_iff member).mp isMember).2
    exact ⟨path, resource, isPath, isMember, (made.belongs_iff otherMade same isTitle).mpr belongs⟩
  · rintro ⟨path, resource, isPath, isMember, belongs⟩
    have isTitle := ((made.mem_resources_iff member).mp isMember).2
    exact ⟨path, resource, isPath, isMember, (made.belongs_iff otherMade same isTitle).mp belongs⟩

end Made

/-- The operations of resources depend on the entries of these resources alone: two documents with
the same entries for them have the same operations, whatever other paths they list.  In the same way
a module has its resources and operations from the entries for its title, and it is there in the
package of every document with these entries. -/
theorem operations_eq_of_same_entries :
    (∀ (spec other : Value) (resources : List String) (found otherFound : List Operation),
      spec.hasDistinctKeys = true → other.hasDistinctKeys = true →
      (∀ entry, IsEntryOf spec resources entry ↔ IsEntryOf other resources entry) →
      operations spec resources = .ok found → operations other resources = .ok otherFound →
      found = otherFound) ∧
    ∀ (spec other : Value) (package otherPackage : Package),
      spec.hasDistinctKeys = true → other.hasDistinctKeys = true →
      (ofDocument spec).runLog.1 = .ok package → (ofDocument other).runLog.1 = .ok otherPackage →
      ∀ module ∈ package.modules,
        (∀ path item, IsEntryOfTitle spec module.title path item ↔
          IsEntryOfTitle other module.title path item) →
        ∃ otherModule ∈ otherPackage.modules, otherModule.title = module.title ∧
          otherModule.resources = module.resources ∧
          otherModule.operations = module.operations := by
  constructor
  · intro spec other resources found otherFound distinct otherDistinct same ended otherEnded
    exact operations_eq_of_isEntryOf_iff distinct otherDistinct same ended otherEnded
  · intro spec other package otherPackage distinct otherDistinct ended otherEnded module member same
    rcases exists_lists_of_module ended member with ⟨entries, lists⟩
    rcases exists_made distinct ended lists with ⟨resources, made⟩
    have notEmpty := (made.emits.exists_group module member).2.2
    rcases List.exists_mem_of_ne_nil _ notEmpty with ⟨operation, isOperation⟩
    have isKey : (operation.path, operation.method) ∈ module.operations.map Operation.key :=
      List.mem_map_of_mem isOperation
    rcases (made.mem_keys_iff member).mp isKey with ⟨item, resource, belongs, isMember, declares⟩
    have isTitle := ((made.mem_resources_iff member).mp isMember).2
    rcases (same _ item).mp ⟨entries, resource, lists, belongs, isTitle⟩ with
      ⟨others, _, otherLists, -, -⟩
    rcases exists_made otherDistinct otherEnded otherLists with ⟨otherResources, otherMade⟩
    have otherBelongs := (made.belongs_iff otherMade same isTitle).mp belongs
    rcases otherMade.exists_module otherBelongs declares with
      ⟨otherModule, otherMember, titles, -⟩
    have sameTitle := titles.trans isTitle
    exact ⟨otherModule, otherMember, sameTitle,
      made.module_eq_of_title otherMade member otherMember sameTitle same⟩

/-- The entries for two paths of one resource, between a path without a resource and a path of
another one. -/
private def tasksAmongOthers : Entries := [
  (.text "/health", .record [("get", .record [])]),
  (.text "/api/tasks/archive/{id}", .record [("get", .record [])]),
  (.text "/api/goals", .record [("post", .record [])]),
  (.text "/api/tasks/{id}", .record [("get", .record [])])]

/-- A document with other paths besides those of one resource. -/
private def crowdedTasks : Value := .record [("paths", .map tasksAmongOthers)]

private def tasksAlone : Entries := [
  (.text "/api/tasks/archive/{id}", .record [("get", .record [])]),
  (.text "/api/tasks/{id}", .record [("get", .record [])])]

private theorem lists_archivedTasks : Resource.Lists archivedTasks tasksAlone :=
  ⟨.map tasksAlone, rfl, rfl⟩

private theorem lists_tasksAmongOthers : Resource.Lists crowdedTasks tasksAmongOthers :=
  ⟨_, rfl, rfl⟩

private theorem ofKey_tasksAlone :
    ∀ entry ∈ tasksAlone, Resource.ofKey archivedTasks entry.1 = .ok "tasks" ∧
      Resource.ofKey crowdedTasks entry.1 = .ok "tasks" := by
  unfold tasksAlone
  decide

/-- Both documents have the same entries for the resource. -/
private theorem isEntryOf_tasks (entry : Value × Value) :
    IsEntryOf archivedTasks ["tasks"] entry ↔ IsEntryOf crowdedTasks ["tasks"] entry := by
  have others : Resource.ofKey crowdedTasks (.text "/health") ≠ .ok "tasks" ∧
      Resource.ofKey crowdedTasks (.text "/api/goals") ≠ .ok "tasks" := by
    decide
  rw [isEntryOf_iff lists_archivedTasks, isEntryOf_iff lists_tasksAmongOthers]
  constructor
  · rintro ⟨listed, -⟩
    refine ⟨?_, "tasks", List.mem_singleton_self _, (ofKey_tasksAlone entry listed).2⟩
    simp only [tasksAlone, tasksAmongOthers, List.mem_cons] at listed ⊢
    tauto
  · rintro ⟨listed, resource, isMember, routed⟩
    cases List.mem_singleton.mp isMember
    have member : entry ∈ tasksAlone := by
      simp only [tasksAlone, tasksAmongOthers, List.mem_cons, List.not_mem_nil,
        or_false] at listed ⊢
      rcases listed with isHealth | isArchive | isGoals | isItem
      · exact False.elim (others.1 (by rw [isHealth] at routed; exact routed))
      · exact Or.inl isArchive
      · exact False.elim (others.2 (by rw [isGoals] at routed; exact routed))
      · exact Or.inr isItem
    exact ⟨member, "tasks", isMember, (ofKey_tasksAlone entry member).1⟩

private theorem pathsOf_tasksAlone :
    Resource.pathsOf archivedTasks "tasks" = .ok [
      ("/api/tasks/archive/{id}", .record [("get", .record [])]),
      ("/api/tasks/{id}", .record [("get", .record [])])] := by
  have routed : Resource.AllRouted archivedTasks tasksAlone := by
    unfold Resource.AllRouted
    decide
  exact lists_archivedTasks.pathsOf_of_pairwise routed "tasks" (by decide)

private theorem names_tasksAlone :
    (operations archivedTasks ["tasks"]).toOption.map (fun found => found.map (·.name)) =
        some ["getArchiveTasksItemApi", "getTasksTasksItemApi"] ∧
      (ofDocument archivedTasks).runLog.1.toOption.map (fun package =>
        package.modules.map (·.title)) = some ["Tasks"] := by
  have found : Resource.all archivedTasks = .ok ["tasks"] := by decide
  have groups : group ["tasks"] = [("Tasks", ["tasks"])] := by
    apply group_of_pairwise
    all_goals decide
  simp only [ofDocument, found, Logged.lift, pure_bind, build, groups, buildModules, buildModule,
    operations, pathsOf, pathsOf_tasksAlone]
  decide

private theorem names_tasksAmongOthers :
    (operations crowdedTasks ["tasks"]).toOption.map (fun found => found.map (·.name)) =
        some ["getArchiveTasksItemApi", "getTasksTasksItemApi"] ∧
      (ofDocument crowdedTasks).runLog.1.toOption.map (fun package =>
        package.modules.map (·.title)) = some ["Goals", "Tasks"] := by
  have routed : Resource.AllRouted crowdedTasks tasksAmongOthers := by
    unfold Resource.AllRouted
    decide
  have found : Resource.all crowdedTasks = .ok ["tasks", "goals"] := by decide
  have groups : group ["tasks", "goals"] = [("Goals", ["goals"]), ("Tasks", ["tasks"])] := by
    rw [group_eq_of_perm (List.Perm.swap _ _ []) (by decide)]
    apply group_of_pairwise
    all_goals decide
  have tasks := lists_tasksAmongOthers.pathsOf_of_pairwise routed "tasks" (by decide)
  have goals := lists_tasksAmongOthers.pathsOf_of_pairwise routed "goals" (by decide)
  simp only [ofDocument, found, Logged.lift, pure_bind, build, groups, buildModules, buildModule,
    operations, pathsOf, tasks, goals]
  decide

private theorem isEntryOfTitle_tasks (path : String) (item : Value) :
    IsEntryOfTitle archivedTasks "Tasks" path item ↔
      IsEntryOfTitle crowdedTasks "Tasks" path item := by
  have alone : ∀ entry ∈ tasksAlone,
      Naming.pascalCase (Resource.nameOf archivedTasks entry.1) = "Tasks" →
        Resource.nameOf archivedTasks entry.1 = "tasks" := by
    unfold tasksAlone
    decide
  have among : ∀ entry ∈ tasksAmongOthers,
      Naming.pascalCase (Resource.nameOf crowdedTasks entry.1) = "Tasks" →
        Resource.nameOf crowdedTasks entry.1 = "tasks" := by
    unfold tasksAmongOthers
    decide
  have titled : ∀ {spec : Value} {entries : Entries}, Resource.Lists spec entries →
      (∀ entry ∈ entries, Naming.pascalCase (Resource.nameOf spec entry.1) = "Tasks" →
        Resource.nameOf spec entry.1 = "tasks") →
      (IsEntryOfTitle spec "Tasks" path item ↔ IsEntryOf spec ["tasks"] (.text path, item)) := by
    intro spec entries lists names
    have notEmpty : ∀ resource ∈ ["tasks"], resource ≠ "" := by decide
    rw [isEntryOf_iff_belongs lists notEmpty]
    constructor
    · rintro ⟨found, resource, foundLists, belongs, isTitle⟩
      rw [foundLists.unique lists] at belongs
      have name := Resource.nameOf_text belongs.routed
      have isTasks := names _ belongs.listed (name ▸ isTitle)
      exact ⟨path, resource, rfl, List.mem_singleton.mpr (name.symm.trans isTasks), belongs⟩
    · rintro ⟨other, resource, isPath, isMember, belongs⟩
      cases isPath
      cases List.mem_singleton.mp isMember
      exact ⟨entries, "tasks", lists, belongs, by decide⟩
  rw [titled lists_archivedTasks alone, titled lists_tasksAmongOthers among, isEntryOf_tasks]

theorem operations_eq_of_same_entries_tasks :
    (∃ found, operations archivedTasks ["tasks"] = .ok found ∧
      operations crowdedTasks ["tasks"] = .ok found ∧
      found.map (·.name) = ["getArchiveTasksItemApi", "getTasksTasksItemApi"]) ∧
    ∃ package otherPackage, (ofDocument archivedTasks).runLog.1 = .ok package ∧
      (ofDocument crowdedTasks).runLog.1 = .ok otherPackage ∧
      package.modules.map (·.title) = ["Tasks"] ∧
      otherPackage.modules.map (·.title) = ["Goals", "Tasks"] ∧
      ∀ module ∈ package.modules, ∃ otherModule ∈ otherPackage.modules,
        otherModule.operations = module.operations := by
  have distinct : archivedTasks.hasDistinctKeys = true := by decide
  have otherDistinct : crowdedTasks.hasDistinctKeys = true := by decide
  constructor
  · rcases Option.map_eq_some_iff.mp names_tasksAlone.1 with ⟨found, ended, names⟩
    rcases Option.map_eq_some_iff.mp names_tasksAmongOthers.1 with ⟨otherFound, otherEnded, -⟩
    have isFound := Outcome.toOption_eq_some_iff.mp ended
    have isOtherFound := Outcome.toOption_eq_some_iff.mp otherEnded
    have same := operations_eq_of_same_entries.1 _ _ _ _ _ distinct otherDistinct isEntryOf_tasks
      isFound isOtherFound
    exact ⟨found, isFound, same ▸ isOtherFound, names⟩
  · rcases Option.map_eq_some_iff.mp names_tasksAlone.2 with ⟨package, ended, titles⟩
    rcases Option.map_eq_some_iff.mp names_tasksAmongOthers.2 with
      ⟨otherPackage, otherEnded, otherTitles⟩
    have made := Outcome.toOption_eq_some_iff.mp ended
    have otherMade := Outcome.toOption_eq_some_iff.mp otherEnded
    refine ⟨package, otherPackage, made, otherMade, titles, otherTitles, ?_⟩
    intro module member
    have isTitle : module.title = "Tasks" := by
      have isListed : module.title ∈ package.modules.map (·.title) := List.mem_map_of_mem member
      rw [titles] at isListed
      exact List.mem_singleton.mp isListed
    have same : ∀ path item, IsEntryOfTitle archivedTasks module.title path item ↔
        IsEntryOfTitle crowdedTasks module.title path item :=
      isTitle ▸ isEntryOfTitle_tasks
    rcases operations_eq_of_same_entries.2 _ _ package otherPackage distinct otherDistinct made
      otherMade module member same with ⟨otherModule, otherMember, -, -, sameOperations⟩
    exact ⟨otherModule, otherMember, sameOperations⟩

end Package
end ApiAccessors
