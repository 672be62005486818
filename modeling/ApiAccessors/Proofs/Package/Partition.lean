import ApiAccessors.Proofs.Package.DistinctOperations
import ApiAccessors.Proofs.Package.Emission

namespace ApiAccessors
namespace Package

/-!
# A package has every operation once

The operations of a package pass through four walks: the resources of a document are collected, put
into groups, and for each group the paths are searched again and the verbs of every path gone
through.  Nothing is lost or doubled on the way.  What comes out is described here only by the
entries of the document, without any of the walks.

For a single group it is enough to know which resources it has.  Operations of different groups
differ because a path has one resource and a resource one title.
-/

/-- All operations of a package, module by module. -/
def records (package : Package) : List OperationName.Key :=
  package.modules.flatMap (fun module => module.operations.map Operation.key)

/-- A path is listed with an item and has a resource. -/
structure Belongs (spec : Value) (entries : Entries) (path : String) (item : Value)
    (resource : String) : Prop where
  listed : (.text path, item) ∈ entries
  routed : Resource.ofPath spec path = .ok resource
  not_empty : resource ≠ ""

/-- One operation stands before another: by resource, then by path, then by declaration. -/
def Precedes (spec : Value) (entries : Entries) (left right : OperationName.Key) : Prop :=
  ∃ leftItem leftResource rightItem rightResource,
    Belongs spec entries left.1 leftItem leftResource ∧
      Belongs spec entries right.1 rightItem rightResource ∧
      (leftResource < rightResource ∨ leftResource = rightResource ∧
        (left.1 < right.1 ∨ left.1 = right.1 ∧
          Resource.DeclaresInOrder leftItem left.2 right.2))

/-- The modules of a package divide the operations that a document declares. -/
structure IsPartition (spec : Value) (entries : Entries) (package : Package) : Prop where
  records_nodup : (records package).Nodup
  mem_records_iff : ∀ path verb, (path, verb) ∈ records package ↔
    ∃ item resource, Belongs spec entries path item resource ∧ Resource.Declares item verb
  home : ∀ module ∈ package.modules, ∀ operation ∈ module.operations,
    ∃ item resource, Belongs spec entries operation.path item resource ∧
      module.title = Naming.pascalCase resource ∧ resource ∈ module.resources
  titles_increase : package.modules.Pairwise (fun left right => left.title < right.title)
  mem_resources_iff : ∀ module ∈ package.modules, ∀ resource, resource ∈ module.resources ↔
    (∃ path item, Belongs spec entries path item resource) ∧
      Naming.pascalCase resource = module.title
  resources_increase : ∀ module ∈ package.modules,
    module.resources.Pairwise (fun left right => left < right)
  operations_in_order : ∀ module ∈ package.modules,
    (module.operations.map Operation.key).Pairwise (Precedes spec entries)
  emitted_iff : ∀ title, (∃ module ∈ package.modules, module.title = title) ↔
    ∃ path item resource verb, Belongs spec entries path item resource ∧
      Naming.pascalCase resource = title ∧ Resource.Declares item verb
  count : package.operationCount = (records package).length

section

variable {spec : Value} {entries : Entries}

theorem ofPath_of_allRouted (routed : Resource.AllRouted spec entries) {path : String}
    {item : Value} (listed : (.text path, item) ∈ entries) :
    Resource.ofPath spec path = .ok (Resource.nameOf spec (.text path)) :=
  routed _ listed

/-- The resources of a document are those that some path has. -/
theorem mem_all_iff_belongs (lists : Resource.Lists spec entries) {resources : List String}
    (found : Resource.all spec = .ok resources) {resource : String} :
    resource ∈ resources ↔ ∃ path item, Belongs spec entries path item resource := by
  have routed := (lists.all_eq_ok_iff.mp found).1
  rw [lists.mem_all_iff found]
  constructor
  · rintro ⟨notEmpty, ⟨key, item⟩, member, name⟩
    rcases routed.exists_text member with ⟨path, isPath⟩
    cases isPath
    exact ⟨path, item, member, name ▸ ofPath_of_allRouted routed member, notEmpty⟩
  · rintro ⟨path, item, belongs⟩
    exact ⟨belongs.not_empty, _, belongs.listed, Resource.nameOf_text belongs.routed⟩

/-- The operations of a group are looked up for all of its paths, in order. -/
theorem operations_keys (lists : Resource.Lists spec entries) {members : List String}
    {found : List Operation} (ended : operations spec members = .ok found) :
    found.map Operation.key = keysIn (members.flatMap (Resource.own spec entries)) ∧
      ∀ key ∈ keysIn (members.flatMap (Resource.own spec entries)), Described spec key := by
  rcases operations_eq_ok_iff.mp ended with ⟨listing, isPaths, -, described, same⟩
  rw [(pathsOf_eq_ok_iff lists).mp isPaths |>.2] at described same
  refine ⟨?_, described⟩
  rw [same, List.map_map]
  exact List.map_id _

/-- Paths are found by resource and, for each resource, in their order. -/
theorem flatMap_own_pairwise (routed : Resource.AllRouted spec entries)
    (differ : entries.TextsDiffer) {members : List String}
    (inOrder : members.Pairwise (fun left right => left < right)) :
    (members.flatMap (Resource.own spec entries)).Pairwise (fun left right =>
      Resource.nameOf spec (.text left.1) < Resource.nameOf spec (.text right.1) ∨
        Resource.nameOf spec (.text left.1) = Resource.nameOf spec (.text right.1) ∧
          left.1 < right.1) := by
  apply List.pairwise_flatMap.mpr
  constructor
  · intro resource _
    apply (routed.own_pairwise_lt differ resource).imp_of_mem
    rintro ⟨path, item⟩ ⟨other, otherItem⟩ owned otherOwned below
    right
    exact ⟨(routed.mem_own.mp owned).2.trans (routed.mem_own.mp otherOwned).2.symm, below⟩
  · apply inOrder.imp
    rintro resource other below ⟨path, item⟩ owned ⟨otherPath, otherItem⟩ otherOwned
    left
    rw [(routed.mem_own.mp owned).2, (routed.mem_own.mp otherOwned).2]
    exact below

section

variable (lists : Resource.Lists spec entries) (distinct : spec.hasDistinctKeys = true)
  (routed : Resource.AllRouted spec entries) {members : List String}
  (described : ∀ key ∈ keysIn (members.flatMap (Resource.own spec entries)), Described spec key)

include lists distinct routed described

theorem mem_keysIn_own_iff {path verb : String} :
    (path, verb) ∈ keysIn (members.flatMap (Resource.own spec entries)) ↔
      ∃ item, (.text path, item) ∈ entries ∧ Resource.nameOf spec (.text path) ∈ members ∧
        Resource.Declares item verb := by
  rw [mem_keysIn]
  constructor
  · rintro ⟨item, listed, isDeclared⟩
    rcases exists_entries_of_described lists distinct routed described listed isDeclared with
      ⟨operations, isMapping⟩
    rcases (mem_flatMap_own routed).mp listed with ⟨isEntry, isMember⟩
    exact ⟨item, isEntry, isMember, (Resource.mem_declared_iff isMapping).mp isDeclared⟩
  · rintro ⟨item, isEntry, isMember, declares⟩
    have isDeclares := declares
    rcases declares with ⟨-, operations, isMapping, -⟩
    exact ⟨item, (mem_flatMap_own routed).mpr ⟨isEntry, isMember⟩,
      (Resource.mem_declared_iff isMapping).mpr isDeclares⟩

/-- The operations of a group whose members are in order are in order. -/
theorem keysIn_own_pairwise (notEmpty : ∀ resource ∈ members, resource ≠ "")
    (inOrder : members.Pairwise (fun left right => left < right)) :
    (keysIn (members.flatMap (Resource.own spec entries))).Pairwise (Precedes spec entries) := by
  have belongs : ∀ path item, (path, item) ∈ members.flatMap (Resource.own spec entries) →
      Belongs spec entries path item (Resource.nameOf spec (.text path)) := by
    intro path item listed
    rcases (mem_flatMap_own routed).mp listed with ⟨isEntry, isMember⟩
    exact ⟨isEntry, ofPath_of_allRouted routed isEntry, notEmpty _ isMember⟩
  have pathsInOrder := flatMap_own_pairwise routed (lists.textsDiffer distinct) inOrder
  apply List.pairwise_flatMap.mpr
  constructor
  · rintro ⟨path, item⟩ listed
    apply List.pairwise_map.mpr
    cases isDeclared : Resource.declared item with
    | nil => exact List.Pairwise.nil
    | cons verb rest =>
        have verbDeclared : verb ∈ Resource.declared item := isDeclared ▸ List.mem_cons_self
        rcases exists_entries_of_described lists distinct routed described listed verbDeclared with
          ⟨operations, isMapping⟩
        rw [← isDeclared]
        apply (Resource.declared_pairwise isMapping).imp
        intro left right before
        exact ⟨item, _, item, _, belongs path item listed, belongs path item listed,
          Or.inr ⟨rfl, Or.inr ⟨rfl, before⟩⟩⟩
  · apply pathsInOrder.imp_of_mem
    rintro ⟨path, item⟩ ⟨other, otherItem⟩ listed otherListed before left leftMember right
      rightMember
    rcases List.mem_map.mp leftMember with ⟨verb, -, isLeft⟩
    rcases List.mem_map.mp rightMember with ⟨otherVerb, -, isRight⟩
    rw [← isLeft, ← isRight]
    refine ⟨item, _, otherItem, _, belongs path item listed,
      belongs other otherItem otherListed, ?_⟩
    rcases before with below | ⟨same, below⟩
    · exact Or.inl below
    · exact Or.inr ⟨same, Or.inl below⟩

end

end

/-- A document whose resources have been found and whose modules have been emitted. -/
structure Made (spec : Value) (entries : Entries) (resources : List String) (package : Package) :
    Prop where
  distinct : spec.hasDistinctKeys = true
  lists : Resource.Lists spec entries
  found : Resource.all spec = .ok resources
  emits : Emits spec [] (group resources) package.modules

namespace Made

variable {spec : Value} {entries : Entries} {resources : List String} {package : Package}

theorem routed (made : Made spec entries resources package) : Resource.AllRouted spec entries :=
  (made.lists.all_eq_ok_iff.mp made.found).1

theorem nodup (made : Made spec entries resources package) : resources.Nodup :=
  made.lists.all_nodup made.found

theorem resources_eq (made : Made spec entries resources package) {module : AccessorModule}
    (member : module ∈ package.modules) :
    module.resources = membersOf (Resource.sortBy id resources) module.title :=
  made.emits.resources_eq member

theorem mem_resources_iff (made : Made spec entries resources package) {module : AccessorModule}
    (member : module ∈ package.modules) {resource : String} :
    resource ∈ module.resources ↔ (∃ path item, Belongs spec entries path item resource) ∧
      Naming.pascalCase resource = module.title := by
  rw [made.resources_eq member, mem_membersOf, mem_all_iff_belongs made.lists made.found]

theorem resources_increase (made : Made spec entries resources package) {module : AccessorModule}
    (member : module ∈ package.modules) :
    module.resources.Pairwise (fun left right => left < right) := by
  rw [made.resources_eq member]
  exact membersOf_pairwise_lt made.nodup module.title

theorem resources_ne_empty (made : Made spec entries resources package) {module : AccessorModule}
    (member : module ∈ package.modules) : ∀ resource ∈ module.resources, resource ≠ "" := by
  intro resource isMember
  rcases (made.mem_resources_iff member).mp isMember with ⟨⟨path, item, belongs⟩, -⟩
  exact belongs.not_empty

/-- The operations of a module are those of its resources. -/
theorem keys_eq (made : Made spec entries resources package) {module : AccessorModule}
    (member : module ∈ package.modules) :
    module.operations.map Operation.key =
        keysIn (module.resources.flatMap (Resource.own spec entries)) ∧
      ∀ key ∈ keysIn (module.resources.flatMap (Resource.own spec entries)), Described spec key :=
  operations_keys made.lists (made.emits.exists_group module member).2.1

theorem mem_keys_iff (made : Made spec entries resources package) {module : AccessorModule}
    (member : module ∈ package.modules) {path verb : String} :
    (path, verb) ∈ module.operations.map Operation.key ↔
      ∃ item resource, Belongs spec entries path item resource ∧ resource ∈ module.resources ∧
        Resource.Declares item verb := by
  rw [(made.keys_eq member).1,
    mem_keysIn_own_iff made.lists made.distinct made.routed (made.keys_eq member).2]
  constructor
  · rintro ⟨item, listed, isMember, declares⟩
    exact ⟨item, _, ⟨listed, ofPath_of_allRouted made.routed listed,
      made.resources_ne_empty member _ isMember⟩, isMember, declares⟩
  · rintro ⟨item, resource, belongs, isMember, declares⟩
    exact ⟨item, belongs.listed, (Resource.nameOf_text belongs.routed).symm ▸ isMember, declares⟩

/-- A resource with a declared verb has a module. -/
theorem exists_module (made : Made spec entries resources package) {path verb resource : String}
    {item : Value} (belongs : Belongs spec entries path item resource)
    (declares : Resource.Declares item verb) :
    ∃ module ∈ package.modules, module.title = Naming.pascalCase resource ∧
      resource ∈ module.resources := by
  have isResource : resource ∈ resources :=
    (mem_all_iff_belongs made.lists made.found).mpr ⟨path, item, belongs⟩
  have isMember : resource ∈
      membersOf (Resource.sortBy id resources) (Naming.pascalCase resource) :=
    mem_membersOf.mpr ⟨isResource, rfl⟩
  rcases made.emits.exists_module (mem_group_of_mem isResource) with
    empty | ⟨module, member, isTitle, isMembers⟩
  · have keys := operations_keys made.lists empty
    have isKey : (path, verb) ∈ keysIn (List.flatMap (Resource.own spec entries)
        (membersOf (Resource.sortBy id resources) (Naming.pascalCase resource))) := by
      apply (mem_keysIn_own_iff made.lists made.distinct made.routed keys.2).mpr
      exact ⟨item, belongs.listed, (Resource.nameOf_text belongs.routed).symm ▸ isMember, declares⟩
    rw [← keys.1] at isKey
    cases isKey
  · exact ⟨module, member, isTitle, isMembers ▸ isMember⟩

theorem titles_increase (made : Made spec entries resources package) :
    package.modules.Pairwise (fun left right => left.title < right.title) :=
  made.emits.titles_increase

/-- An operation lies in the module with the title of its resource. -/
theorem home (made : Made spec entries resources package) {module : AccessorModule}
    (member : module ∈ package.modules) {key : OperationName.Key}
    (isKey : key ∈ module.operations.map Operation.key) :
    ∃ item resource, Belongs spec entries key.1 item resource ∧
      module.title = Naming.pascalCase resource ∧ resource ∈ module.resources := by
  rcases (made.mem_keys_iff member).mp isKey with ⟨item, resource, belongs, isMember, -⟩
  exact ⟨item, resource, belongs, ((made.mem_resources_iff member).mp isMember).2.symm, isMember⟩

/-- Within a module no operation is there twice, and operations of different modules have different
titles. -/
theorem records_nodup (made : Made spec entries resources package) : (records package).Nodup := by
  apply List.pairwise_flatMap.mpr
  constructor
  · intro module member
    have membersDiffer : module.resources.Nodup :=
      (made.resources_increase member).imp String.ne_of_lt
    rw [(made.keys_eq member).1]
    exact keysIn_nodup made.lists made.distinct made.routed membersDiffer (made.keys_eq member).2
  · apply made.titles_increase.imp_of_mem
    intro left right leftMember rightMember below key isKey other isOther same
    rcases made.home leftMember isKey with ⟨_, resource, belongs, isTitle, -⟩
    rcases made.home rightMember isOther with ⟨_, otherResource, otherBelongs, isOtherTitle, -⟩
    have routedSame := belongs.routed
    rw [same, otherBelongs.routed] at routedSame
    cases routedSame
    exact String.ne_of_lt below (isTitle.trans isOtherTitle.symm)

theorem mem_records_iff (made : Made spec entries resources package) {path verb : String} :
    (path, verb) ∈ records package ↔
      ∃ item resource, Belongs spec entries path item resource ∧ Resource.Declares item verb := by
  unfold records
  rw [List.mem_flatMap]
  constructor
  · rintro ⟨module, member, isKey⟩
    rcases (made.mem_keys_iff member).mp isKey with ⟨item, resource, belongs, -, declares⟩
    exact ⟨item, resource, belongs, declares⟩
  · rintro ⟨item, resource, belongs, declares⟩
    rcases made.exists_module belongs declares with ⟨module, member, -, isMember⟩
    exact ⟨module, member,
      (made.mem_keys_iff member).mpr ⟨item, resource, belongs, isMember, declares⟩⟩

theorem operations_in_order (made : Made spec entries resources package) {module : AccessorModule}
    (member : module ∈ package.modules) :
    (module.operations.map Operation.key).Pairwise (Precedes spec entries) := by
  rw [(made.keys_eq member).1]
  exact keysIn_own_pairwise made.lists made.distinct made.routed (made.keys_eq member).2
    (made.resources_ne_empty member) (made.resources_increase member)

/-- A title is missing only if no path with this title declares a verb. -/
theorem emitted_iff (made : Made spec entries resources package) {title : String} :
    (∃ module ∈ package.modules, module.title = title) ↔
      ∃ path item resource verb, Belongs spec entries path item resource ∧
        Naming.pascalCase resource = title ∧ Resource.Declares item verb := by
  constructor
  · rintro ⟨module, member, isTitle⟩
    rcases List.exists_mem_of_ne_nil _ (made.emits.exists_group module member).2.2 with
      ⟨operation, isOperation⟩
    have isKey : (operation.path, operation.method) ∈ module.operations.map Operation.key :=
      List.mem_map_of_mem isOperation
    rcases (made.mem_keys_iff member).mp isKey with ⟨item, resource, belongs, isMember, declares⟩
    exact ⟨_, item, resource, _, belongs,
      ((made.mem_resources_iff member).mp isMember).2.trans isTitle, declares⟩
  · rintro ⟨path, item, resource, verb, belongs, isTitle, declares⟩
    rcases made.exists_module belongs declares with ⟨module, member, same, -⟩
    exact ⟨module, member, same.trans isTitle⟩

end Made

theorem operationCount_eq_length (package : Package) :
    package.operationCount = (records package).length := by
  have counted : ∀ (modules : List AccessorModule) (count : Nat),
      modules.foldl (fun count module => count + module.operations.length) count = count +
        (modules.flatMap (fun module => module.operations.map Operation.key)).length := by
    intro modules
    induction modules with
    | nil => exact fun _ => rfl
    | cons module rest ih =>
        intro count
        rw [List.foldl_cons, ih, List.flatMap_cons, List.length_append, List.length_map,
          Nat.add_assoc]
  exact (counted package.modules 0).trans (Nat.zero_add _)

/-- If a package is made for a document that lists its paths as a mapping, its modules divide the
declared operations among them: every operation of a path with a resource is there once, in the
module with the title of this resource, and the order of modules, resources, paths and verbs is
fixed. -/
theorem isPartition_of_ofDocument {spec : Value} {entries : Entries} {package : Package}
    (distinct : spec.hasDistinctKeys = true) (lists : Resource.Lists spec entries)
    (ended : (ofDocument spec).runLog.1 = .ok package) : IsPartition spec entries package := by
  rcases Logged.runLog_fst_eq_ok_iff.mp ended with ⟨log, outcome⟩
  rcases Logged.outcome_bind_eq_some_iff.mp outcome with ⟨resources, between, lookedUp, built⟩
  have found := (Logged.outcome_lift_eq_some_iff.mp lookedUp).1
  have made : Made spec entries resources package := ⟨distinct, lists, found, emits_of_build built⟩
  constructor
  case records_nodup => exact made.records_nodup
  case mem_records_iff => exact fun _ _ => made.mem_records_iff
  case home =>
    intro module member operation isOperation
    exact made.home member (List.mem_map_of_mem isOperation)
  case titles_increase => exact made.titles_increase
  case mem_resources_iff => exact fun _ member _ => made.mem_resources_iff member
  case resources_increase => exact fun _ member => made.resources_increase member
  case operations_in_order => exact fun _ member => made.operations_in_order member
  case emitted_iff => exact fun _ => made.emitted_iff
  case count => exact operationCount_eq_length package

/-- A document with a path that has no resource, a resource without operations, and two resources
with the same title. -/
def teamEntries : Entries := [
  (.text "/", .record [("get", .record [])]),
  (.text "/api/tags/", .record [("summary", .text "Tags")]),
  (.text "/api/tasks/", .record [("post", .record [])]),
  (.text "/api/team-mates/", .record [("get", .record [])]),
  (.text "/api/team_mates/{id}", .record [("delete", .record []), ("get", .record [])])]

private theorem records_team :
    (ofDocument (.record [("paths", .map teamEntries)])).runLog.1.toOption.map records = some [
      ("/api/tasks/", "post"), ("/api/team-mates/", "get"), ("/api/team_mates/{id}", "delete"),
      ("/api/team_mates/{id}", "get")] := by
  generalize isSpec : Value.record [("paths", .map teamEntries)] = spec
  have lists : Resource.Lists spec teamEntries := by
    rw [← isSpec]
    exact ⟨_, rfl, rfl⟩
  have routed : Resource.AllRouted spec teamEntries := by
    rw [← isSpec]
    unfold Resource.AllRouted
    decide
  have found : Resource.all spec = .ok ["tags", "tasks", "team-mates", "team_mates"] := by
    rw [← isSpec]
    decide
  have inOrder : ∀ resource ∈ ["tags", "tasks", "team-mates", "team_mates"],
      ((Resource.listed spec teamEntries resource).map (·.1)).Pairwise
        (fun left right => Resource.textLe left right = true) := by
    rw [← isSpec]
    decide
  have groups : group ["tags", "tasks", "team-mates", "team_mates"] =
      [("Tags", ["tags"]), ("Tasks", ["tasks"]), ("TeamMates", ["team-mates", "team_mates"])] := by
    apply group_of_pairwise
    all_goals decide
  have tags := lists.pathsOf_of_pairwise routed "tags" (inOrder _ (by decide))
  have tasks := lists.pathsOf_of_pairwise routed "tasks" (inOrder _ (by decide))
  have first := lists.pathsOf_of_pairwise routed "team-mates" (inOrder _ (by decide))
  have second := lists.pathsOf_of_pairwise routed "team_mates" (inOrder _ (by decide))
  simp only [ofDocument, found, Logged.lift, pure_bind, build, groups, buildModules, buildModule,
    operations, pathsOf, tags, tasks, first, second]
  rw [← isSpec]
  decide

theorem isPartition_of_ofDocument_team :
    ∃ package, (ofDocument (.record [("paths", .map teamEntries)])).runLog.1 = .ok package ∧
      records package = [("/api/tasks/", "post"), ("/api/team-mates/", "get"),
        ("/api/team_mates/{id}", "delete"), ("/api/team_mates/{id}", "get")] ∧
      IsPartition (.record [("paths", .map teamEntries)]) teamEntries package := by
  rcases Option.map_eq_some_iff.mp records_team with ⟨package, ended, isRecords⟩
  have made := Outcome.toOption_eq_some_iff.mp ended
  exact ⟨package, made, isRecords,
    isPartition_of_ofDocument (by decide) ⟨_, rfl, rfl⟩ made⟩

end Package
end ApiAccessors
