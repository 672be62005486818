import ApiAccessors.Proofs.Package.Comparison
import ApiAccessors.Proofs.Package.DistinctOperations
import ApiAccessors.Proofs.Resource.Reordered

namespace ApiAccessors
namespace Package

/-!
# Where the order of verbs shows

The verbs of a path come in the order in which its item declares them.  Nothing that is looked up
for a path or for one of its operations depends on that order: tags are asked for in an order of
their own, and everything else by name.  So in a document with reordered path items the modules are
the same, up to the order of the operations within each path.

Names are the exception.  Candidates that are equal are told apart one after the other, and which of
them is changed depends on which comes first.  In a module where all candidates differ nothing is
changed, and then the names are the same as well.
-/

/-- The operations of two modules: the paths come in the same order, each operation has its content
type, and if no two candidates are equal, each has its name. -/
structure SameOperations (spec : Value) (left right : List Operation) : Prop where
  paths : left.map (·.path) = right.map (·.path)
  types : (left.map (fun operation => (operation.key, operation.contentType))).Perm
    (right.map (fun operation => (operation.key, operation.contentType)))
  all : (left.map (fun operation => candidateOf spec operation.key)).Nodup → left.Perm right

/-- Two modules that differ in their operations only. -/
structure SameModule (spec : Value) (left right : AccessorModule) : Prop where
  outside : right = { left with operations := right.operations }
  operations : SameOperations spec left.operations right.operations

/-- Two packages that differ in the operations of their modules only. -/
structure SamePackage (spec : Value) (left right : Package) : Prop where
  outside : right = { left with modules := right.modules }
  modules : List.Forall₂ (SameModule spec) left.modules right.modules

/-- Related paths have the same operations, in another order within each path. -/
theorem keysIn_related {listing others : List (String × Value)}
    (related : List.Forall₂ SamePlace listing others) :
    (keysIn listing).Perm (keysIn others) ∧
      (keysIn listing).map (·.1) = (keysIn others).map (·.1) := by
  have paths : ∀ (path : String) (verbs : List String),
      (verbs.map (fun verb => (path, verb))).map (·.1) = List.replicate verbs.length path := by
    intro path verbs
    rw [List.map_map]
    exact List.map_const'
  unfold keysIn
  induction related with
  | nil => exact ⟨List.Perm.refl _, rfl⟩
  | cons same later ih =>
      have verbs := Resource.declared_perm same.2
      rw [List.flatMap_cons, List.flatMap_cons, List.map_append, List.map_append, paths, paths,
        ih.2, same.1, verbs.length_eq]
      exact ⟨(verbs.map _).append ih.1, rfl⟩

theorem allListed_of_related {listing others : List (String × Value)}
    (related : List.Forall₂ SamePlace listing others) (listed : AllListed listing) :
    AllListed others := by
  induction related with
  | nil => exact List.forall_mem_nil _
  | cons same later ih =>
      have parts := List.forall_mem_cons.mp listed
      exact List.forall_mem_cons.mpr
        ⟨Resource.declaredVerbs_of_reordered same.2 parts.1, ih parts.2⟩

/-- Operations whose candidates all differ have their candidates for names. -/
theorem operationOf_of_candidates_nodup {spec : Value} {keys : List OperationName.Key}
    (differ : (keys.map (candidateOf spec)).Nodup) :
    keys.map (operationOf spec (OperationName.unique (candidatesFor spec [] keys))) =
      keys.map (fun key =>
        ⟨candidateOf spec key, key.1, key.2, Outcome.value (ContentType.of spec key.1 key.2)⟩) := by
  have kept : OperationName.unique (keys.map (fun key => (key, candidateOf spec key))) =
      keys.map (fun key => (key, candidateOf spec key)) := by
    apply OperationName.unique_eq_self_iff.mpr
    rw [List.map_map]
    exact differ
  have named : (keys.map (operationOf spec (OperationName.unique
      (candidatesFor spec [] keys)))).map (fun operation => (operation.key, operation.name)) =
        keys.map (fun key => (key, candidateOf spec key)) :=
    (map_name_operationOf (differ.of_map _)).trans kept
  rw [List.map_map] at named
  apply List.map_congr_left
  intro key member
  have isName := (Prod.ext_iff.mp (List.map_inj_left.mp named key member)).2
  exact congrArg (fun name => Operation.mk name key.1 key.2 _) isName

section

variable {spec other : Value} {entries others : Entries}
  (reordered : Resource.VerbsReordered spec other entries others)
  (distinct : spec.hasDistinctKeys = true)

include reordered distinct

theorem sameLookups_reordered : SameLookups spec other :=
  ⟨fun path => (reordered.itemsAgree distinct path).candidate_eq,
    fun path => (reordered.itemsAgree distinct path).contentType_eq⟩

theorem exists_operations_reordered {resources : List String} {found : List Operation}
    (ended : operations spec resources = .ok found) :
    ∃ otherFound, operations other resources = .ok otherFound ∧
      SameOperations spec found otherFound := by
  rcases operations_eq_ok_iff.mp ended with ⟨listing, isPaths, listed, described, same⟩
  rcases (pathsOf_eq_ok_iff reordered.lists).mp isPaths with ⟨routed, isListing⟩
  have related := reordered.flatMap_own_related distinct resources
  rw [← isListing] at related
  have otherPaths := (pathsOf_eq_ok_iff reordered.other_lists).mpr
    ⟨fun notEmpty => reordered.allRouted distinct (routed notEmpty), rfl⟩
  rcases keysIn_related related with ⟨keys, paths⟩
  have lookups := sameLookups_reordered reordered distinct
  have otherDescribed : ∀ key ∈ keysIn (resources.flatMap (Resource.own other others)),
      Described other key := by
    intro key member
    rw [← lookups.described_eq]
    exact described key (keys.mem_iff.mpr member)
  refine ⟨_, operations_eq_ok_iff.mpr
    ⟨_, otherPaths, allListed_of_related related listed, otherDescribed, rfl⟩, ?_⟩
  rw [same, ← lookups.operationOf_eq, ← lookups.candidatesFor_eq]
  constructor
  case paths =>
    rw [List.map_map, List.map_map]
    exact paths
  case types =>
    rw [List.map_map, List.map_map]
    exact keys.map (fun key => (key, Outcome.value (ContentType.of spec key.1 key.2)))
  case all =>
    intro differ
    rw [List.map_map] at differ
    have otherDiffer := (keys.map (candidateOf spec)).nodup_iff.mp differ
    rw [operationOf_of_candidates_nodup differ, operationOf_of_candidates_nodup otherDiffer]
    exact keys.map _

/-- A run on one document that makes a module, or none, makes one on the other document as well and
reports the same. -/
theorem exists_buildModule_reordered {title : String} {members : List String}
    {result : Option AccessorModule} {log after : List LogEntry}
    (ended : (buildModule spec title members).outcome log = some (result, after)) :
    ∃ otherResult, (buildModule other title members).outcome log = some (otherResult, after) ∧
      Option.Rel (SameModule spec) result otherResult := by
  rcases Logged.outcome_bind_eq_some_iff.mp ended with ⟨found, between, lookedUp, later⟩
  rcases Logged.outcome_lift_eq_some_iff.mp lookedUp with ⟨isFound, sameLog⟩
  rcases exists_operations_reordered reordered distinct isFound with ⟨otherFound, isOther, same⟩
  have otherLookedUp := Logged.outcome_lift_eq_some_iff.mpr ⟨isOther, sameLog⟩
  cases found with
  | nil =>
      have isEmpty : otherFound = [] := List.map_eq_nil_iff.mp same.paths.symm
      rw [isEmpty] at otherLookedUp
      rcases Logged.outcome_bind_eq_some_iff.mp later with ⟨_, _, reported, ends⟩
      cases ends
      exact ⟨none, (Logged.outcome_bind_of_some otherLookedUp).trans
        (Logged.outcome_bind_of_some reported), .none⟩
  | cons first rest =>
      cases otherFound with
      | nil => cases same.paths
      | cons otherFirst otherRest =>
          rcases Logged.outcome_bind_eq_some_iff.mp later with ⟨apiTitle, _, isTitle, version⟩
          rcases Logged.outcome_bind_eq_some_iff.mp version with ⟨apiVersion, _, isVersion, ends⟩
          cases ends
          rw [information_congr (reordered.elsewhere "info" (by decide))] at isTitle isVersion
          exact ⟨_, (Logged.outcome_bind_of_some otherLookedUp).trans
            ((Logged.outcome_bind_of_some isTitle).trans (Logged.outcome_bind_of_some isVersion)),
            .some ⟨rfl, same⟩⟩

theorem compares_reordered : Compares spec other (SameModule spec) where
  made := exists_buildModule_reordered reordered distinct
  sameNames := by
    intro left right same
    unfold SameNames
    rw [same.outside]
  renamed := by
    intro left right className fileName same
    exact ⟨by rw [same.outside], same.operations⟩

theorem exists_build_reordered {resources : List String} {package : Package}
    {log after : List LogEntry}
    (ended : (build spec resources).outcome log = some (package, after)) :
    ∃ otherPackage, (build other resources).outcome log = some (otherPackage, after) ∧
      SamePackage spec package otherPackage := by
  rcases Logged.outcome_bind_eq_some_iff.mp ended with ⟨modules, between, built, later⟩
  rcases (compares_reordered reordered distinct).exists_buildModules built with
    ⟨otherModules, otherBuilt, related⟩
  rcases Logged.outcome_bind_eq_some_iff.mp later with ⟨apiTitle, _, isTitle, version⟩
  rcases Logged.outcome_bind_eq_some_iff.mp version with ⟨apiVersion, _, isVersion, ends⟩
  cases ends
  rw [information_congr (reordered.elsewhere "info" (by decide))] at isTitle isVersion
  exact ⟨_, (Logged.outcome_bind_of_some otherBuilt).trans
    ((Logged.outcome_bind_of_some isTitle).trans (Logged.outcome_bind_of_some isVersion)),
    rfl, related⟩

end

/-- If the keys inside the path items of a document are reordered, every path keeps its resource and
every operation its candidate and its content type.  The package is made just as before, with the
same reports; its modules keep their members and their names, and where the candidates of a module
all differ, its operations keep their names and change their places within each path only. -/
theorem ofDocument_verb_order {spec other : Value} {entries others : Entries}
    (reordered : Resource.VerbsReordered spec other entries others)
    (distinct : spec.hasDistinctKeys = true) {package : Package} {log : List LogEntry}
    (made : (ofDocument spec).runLog = (.ok package, log)) :
    (∀ path, Resource.ofPath spec path = Resource.ofPath other path) ∧
      (∀ path verb, OperationName.candidate spec path verb =
          OperationName.candidate other path verb ∧
        ContentType.of spec path verb = ContentType.of other path verb) ∧
      ∃ otherPackage, (ofDocument other).runLog = (.ok otherPackage, log) ∧
        SamePackage spec package otherPackage := by
  refine ⟨fun path => (reordered.itemsAgree distinct path).ofPath_eq, ?_, ?_⟩
  · intro path verb
    have lookups := sameLookups_reordered reordered distinct
    exact ⟨lookups.candidate_eq path verb, lookups.contentType_eq path verb⟩
  · have ended := Logged.runLog_eq_ok_iff.mp made
    rcases Logged.outcome_bind_eq_some_iff.mp ended with ⟨resources, between, lookedUp, built⟩
    rcases Logged.outcome_lift_eq_some_iff.mp lookedUp with ⟨found, sameLog⟩
    rcases exists_build_reordered reordered distinct built with ⟨otherPackage, otherBuilt, same⟩
    have otherLookedUp := Logged.outcome_lift_eq_some_iff.mpr
      ⟨reordered.all_eq distinct found, sameLog⟩
    exact ⟨otherPackage, Logged.runLog_eq_ok_iff.mpr
      ((Logged.outcome_bind_of_some otherLookedUp).trans otherBuilt), same⟩

/-- A path whose verbs have these tags. -/
def taggedEntries (tags : List (String × String)) : Entries :=
  [(.text "/custom/{id}", .record (tags.map (fun verb =>
    (verb.1, .record [("tags", .list [.text verb.2])]))))]

/-- A document with one path, whose resource is named by a tag. -/
def taggedPath (tags : List (String × String)) : Value :=
  .record [("paths", .map (taggedEntries tags))]

private theorem verbsReordered_taggedPath {tags others : List (String × String)}
    (order : tags.Perm others) :
    Resource.VerbsReordered (taggedPath tags) (taggedPath others) (taggedEntries tags)
      (taggedEntries others) :=
  .of_items [] [] List.not_mem_nil (.cons ⟨rfl, .keys rfl rfl ((order.map _).map _)⟩ .nil)

private theorem build_taggedPath :
    (build (taggedPath [("delete", "Old Tasks"), ("get", "Tasks")]) ["tasks"]).runLog.1.toOption.map
      (fun package => package.modules.map (fun module => module.operations.map (·.name))) =
        some [["deleteTasksItemApi", "getTasksItemApi"]] := by
  have groups : group ["tasks"] = [("Tasks", ["tasks"])] := by
    apply group_of_pairwise
    all_goals decide
  have routed : Resource.AllRouted (taggedPath [("delete", "Old Tasks"), ("get", "Tasks")])
      (taggedEntries [("delete", "Old Tasks"), ("get", "Tasks")]) := by
    unfold Resource.AllRouted
    decide
  have lists : Resource.Lists (taggedPath [("delete", "Old Tasks"), ("get", "Tasks")])
      (taggedEntries [("delete", "Old Tasks"), ("get", "Tasks")]) := ⟨_, rfl, rfl⟩
  have tasks := lists.pathsOf_of_pairwise routed "tasks" (by decide)
  simp only [build, groups, buildModules, buildModule, operations, pathsOf, tasks]
  decide

/-- The tag of the verb that is asked for first names the resource, wherever the verb stands. -/
theorem ofDocument_verb_order_taggedPath :
    ∃ package otherPackage log,
      (ofDocument (taggedPath [("delete", "Old Tasks"), ("get", "Tasks")])).runLog =
        (.ok package, log) ∧
      package.modules.map (fun module => module.operations.map (·.name)) =
        [["deleteTasksItemApi", "getTasksItemApi"]] ∧
      (ofDocument (taggedPath [("get", "Tasks"), ("delete", "Old Tasks")])).runLog =
        (.ok otherPackage, log) ∧
      SamePackage (taggedPath [("delete", "Old Tasks"), ("get", "Tasks")])
        package otherPackage := by
  rcases Option.map_eq_some_iff.mp build_taggedPath with ⟨package, ended, names⟩
  rcases Logged.runLog_fst_eq_ok_iff.mp (Outcome.toOption_eq_some_iff.mp ended) with ⟨log, built⟩
  have found : Resource.all (taggedPath [("delete", "Old Tasks"), ("get", "Tasks")]) =
      .ok ["tasks"] := by decide
  have made : (ofDocument (taggedPath [("delete", "Old Tasks"), ("get", "Tasks")])).runLog =
      (.ok package, log) := by
    have lookedUp := Logged.outcome_lift_eq_some_iff.mpr ⟨found, Eq.refl []⟩
    exact Logged.runLog_eq_ok_iff.mpr ((Logged.outcome_bind_of_some lookedUp).trans built)
  have reordered := verbsReordered_taggedPath
    (List.Perm.swap ("get", "Tasks") ("delete", "Old Tasks") [])
  rcases (ofDocument_verb_order reordered (by decide) made).2.2 with
    ⟨otherPackage, otherMade, same⟩
  exact ⟨package, otherPackage, log, made, names, otherMade, same⟩

end Package
end ApiAccessors
