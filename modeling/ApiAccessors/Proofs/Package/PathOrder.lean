import ApiAccessors.Generator.Output
import ApiAccessors.Proofs.Package.OperationNames
import ApiAccessors.Proofs.Resource.PathItem
import ApiAccessors.Proofs.Resource.Reordered

namespace ApiAccessors
namespace Package

/-!
# The order of paths has no influence

A document lists its paths in some order, which the reader of the document keeps.  Wherever this
order could show it is replaced by another one: resources and their paths are sorted before anything
depends on their order, and everything else is looked up by name.  So two documents that list the
same paths in different orders have the same package, down to the numbers behind colliding names.

Both runs are compared step by step.  A run that stops may stop with another fault, as the first
path that does not fit may be another one; therefore results are compared and faults are not.
-/

/-- Two documents that list the same entries as their paths, in any order, and have the same fields
otherwise. -/
structure PathsReordered (spec other : Value) (entries others : Entries) : Prop where
  lists : Resource.Lists spec entries
  other_lists : Resource.Lists other others
  order : entries.Perm others
  elsewhere : ∀ name, name ≠ "paths" → spec.field? name = other.field? name

def texts (config : Config) (package : Package) : Except Fault (List (String × String)) := do
  let modules ← package.modules.mapM (fun module => do
    let text ← Template.accessors config.runtimeImport module.toValue
    pure (module.fileName, text))
  let factory ← Template.factory package.toValue (Output.factorySettings config)
  let contents ← Template.contents package.toValue
  pure (modules ++ [("client.py", factory), ("__init__.py", contents)])

def textsOfDocument (config : Config) (spec : Value) : Logged (List (String × String)) := do
  let package ← ofDocument spec
  Logged.lift (texts config package)

namespace PathsReordered

variable {spec other : Value} {entries others : Entries}

/-- To reorder the paths of a document is to put a permutation of them in their place. -/
theorem of_perm (before after : Entries) (unlisted : .text "paths" ∉ before.map (·.1))
    (order : entries.Perm others) :
    PathsReordered (.map (before ++ (.text "paths", .map entries) :: after))
      (.map (before ++ (.text "paths", .map others) :: after)) entries others where
  lists := Resource.lists_append_cons unlisted entries
  other_lists := Resource.lists_append_cons unlisted others
  order := order
  elsewhere := fun _ notPaths => Resource.field?_elsewhere before after notPaths

theorem symm (reordered : PathsReordered spec other entries others) :
    PathsReordered other spec others entries :=
  ⟨reordered.other_lists, reordered.lists, reordered.order.symm,
    fun name notPaths => (reordered.elsewhere name notPaths).symm⟩

section

variable (reordered : PathsReordered spec other entries others) (differ : entries.TextsDiffer)

include reordered differ

theorem pathItem_eq (path : String) :
    Resource.pathItem spec path = Resource.pathItem other path := by
  rw [reordered.lists.pathItem_eq, reordered.other_lists.pathItem_eq,
    differ.field?_perm reordered.order]

theorem ofKey_eq : Resource.ofKey spec = Resource.ofKey other :=
  Resource.ofKey_congr (reordered.pathItem_eq differ)

theorem nameOf_eq : Resource.nameOf spec = Resource.nameOf other := by
  unfold Resource.nameOf
  rw [reordered.ofKey_eq differ]

theorem allRouted (routed : Resource.AllRouted spec entries) : Resource.AllRouted other others := by
  intro entry member
  rw [← reordered.ofKey_eq differ, ← reordered.nameOf_eq differ]
  exact routed entry (reordered.order.mem_iff.mpr member)

/-- The same resources are found, perhaps in another order. -/
theorem all_perm {resources : List String} (found : Resource.all spec = .ok resources) :
    ∃ otherResources, Resource.all other = .ok otherResources ∧
      resources.Perm otherResources := by
  have routed := (reordered.lists.all_eq_ok_iff.mp found).1
  have otherFound := reordered.other_lists.all_eq_ok_iff.mpr
    ⟨reordered.allRouted differ routed, rfl⟩
  refine ⟨_, otherFound, ?_⟩
  apply (List.perm_ext_iff_of_nodup (reordered.lists.all_nodup found)
    (reordered.other_lists.all_nodup otherFound)).mpr
  intro resource
  rw [reordered.lists.mem_all_iff found, reordered.other_lists.mem_all_iff otherFound,
    reordered.nameOf_eq differ]
  have sameEntries : ∀ entry, entry ∈ entries ↔ entry ∈ others :=
    fun _ => reordered.order.mem_iff
  simp only [sameEntries]

/-- The paths of a resource are sorted, so they are found in the same order. -/
theorem own_eq (routed : Resource.AllRouted spec entries) :
    Resource.own spec entries = Resource.own other others := by
  funext resource
  have listed : (Resource.listed spec entries resource).Perm
      (Resource.listed other others resource) := by
    unfold Resource.listed
    rw [reordered.nameOf_eq differ]
    exact (reordered.order.filter _).map _
  exact Resource.sortBy_eq_of_perm _ listed (routed.listed_nodup differ resource)

theorem pathsOf_eq {resources : List String} {found : List (String × Value)}
    (ended : pathsOf spec resources = .ok found) : pathsOf other resources = .ok found := by
  rcases (pathsOf_eq_ok_iff reordered.lists).mp ended with ⟨routed, same⟩
  apply (pathsOf_eq_ok_iff reordered.other_lists).mpr
  refine ⟨fun notEmpty => reordered.allRouted differ (routed notEmpty), ?_⟩
  by_cases empty : resources = []
  · rw [same, empty]
    rfl
  · rw [same, reordered.own_eq differ (routed empty)]

/-- The same operations are found, in the same order and with the same names. -/
theorem operations_eq {resources : List String} {found : List Operation}
    (ended : operations spec resources = .ok found) : operations other resources = .ok found := by
  have lookups : SameLookups spec other :=
    ⟨fun path => OperationName.candidate_congr (reordered.pathItem_eq differ path),
      fun path => ContentType.of_congr (reordered.pathItem_eq differ path)⟩
  rcases operations_eq_ok_iff.mp ended with ⟨listing, isPaths, listed, described, same⟩
  rw [lookups.operationOf_eq, lookups.candidatesFor_eq] at same
  rw [lookups.described_eq] at described
  exact operations_eq_ok_iff.mpr
    ⟨listing, reordered.pathsOf_eq differ isPaths, listed, described, same⟩

end

theorem operations_toOption (reordered : PathsReordered spec other entries others)
    (differ : entries.TextsDiffer) (resources : List String) :
    (operations spec resources).toOption = (operations other resources).toOption :=
  Outcome.toOption_eq_of_imp (fun _ => reordered.operations_eq differ)
    (fun _ => reordered.symm.operations_eq (differ.perm reordered.order))

theorem information_eq (reordered : PathsReordered spec other entries others) :
    information spec = information other :=
  information_congr (reordered.elsewhere "info" (by decide))

section

variable (reordered : PathsReordered spec other entries others) (differ : entries.TextsDiffer)

include reordered differ

theorem buildModule_outcome (title : String) (members : List String) (log : List LogEntry) :
    (buildModule spec title members).outcome log =
      (buildModule other title members).outcome log := by
  unfold buildModule
  rw [Logged.outcome_bind, Logged.outcome_bind, Logged.outcome_lift, Logged.outcome_lift,
    reordered.operations_toOption differ, reordered.information_eq]

theorem buildModules_outcome (taken : List String) (groups : List (String × List String))
    (log : List LogEntry) :
    (buildModules spec taken groups).outcome log =
      (buildModules other taken groups).outcome log := by
  induction groups generalizing taken log with
  | nil => rfl
  | cons group rest ih =>
      rcases group with ⟨title, members⟩
      unfold buildModules
      rw [Logged.outcome_bind, Logged.outcome_bind, reordered.buildModule_outcome differ]
      congr 1
      funext middle
      rcases middle with ⟨result, between⟩
      cases result with
      | none => exact ih taken between
      | some plain =>
          dsimp only
          rw [Logged.outcome_bind, Logged.outcome_bind]
          congr 1
          funext named
          rw [Logged.outcome_bind, Logged.outcome_bind, ih]

theorem build_outcome {resources otherResources : List String}
    (order : resources.Perm otherResources) (different : resources.Nodup) (log : List LogEntry) :
    (build spec resources).outcome log = (build other otherResources).outcome log := by
  unfold build
  rw [group_eq_of_perm order different, reordered.information_eq, Logged.outcome_bind,
    Logged.outcome_bind, reordered.buildModules_outcome differ]

/-- A run on one document that ends has a counterpart on the other one. -/
theorem ofDocument_outcome {log after : List LogEntry} {package : Package}
    (ended : (ofDocument spec).outcome log = some (package, after)) :
    (ofDocument other).outcome log = some (package, after) := by
  rcases Logged.outcome_bind_eq_some_iff.mp ended with ⟨resources, between, lookedUp, built⟩
  rcases Logged.outcome_lift_eq_some_iff.mp lookedUp with ⟨found, sameLog⟩
  rcases reordered.all_perm differ found with ⟨otherResources, otherFound, order⟩
  have different := reordered.lists.all_nodup found
  rw [reordered.build_outcome differ order different] at built
  exact Logged.outcome_bind_eq_some_iff.mpr ⟨otherResources, between,
    Logged.outcome_lift_eq_some_iff.mpr ⟨otherFound, sameLog⟩, built⟩

end

theorem textsOfDocument_outcome (reordered : PathsReordered spec other entries others)
    (differ : entries.TextsDiffer) (config : Config) {log after : List LogEntry}
    {files : List (String × String)}
    (ended : (textsOfDocument config spec).outcome log = some (files, after)) :
    (textsOfDocument config other).outcome log = some (files, after) := by
  rcases Logged.outcome_bind_eq_some_iff.mp ended with ⟨package, between, made, later⟩
  exact Logged.outcome_bind_eq_some_iff.mpr
    ⟨package, between, reordered.ofDocument_outcome differ made, later⟩

end PathsReordered

/-- If the paths of a document are listed in another order, the package is the same one, and so are
the texts of all its files. -/
theorem ofDocument_path_order {spec other : Value} {entries others : Entries}
    (reordered : PathsReordered spec other entries others) (differ : entries.TextsDiffer) :
    (∀ package log, (ofDocument spec).runLog = (.ok package, log) ↔
      (ofDocument other).runLog = (.ok package, log)) ∧
    ∀ config files log, (textsOfDocument config spec).runLog = (.ok files, log) ↔
      (textsOfDocument config other).runLog = (.ok files, log) := by
  have otherDiffer := differ.perm reordered.order
  constructor
  · intro package log
    rw [Logged.runLog_eq_ok_iff, Logged.runLog_eq_ok_iff]
    exact ⟨reordered.ofDocument_outcome differ, reordered.symm.ofDocument_outcome otherDiffer⟩
  · intro config files log
    rw [Logged.runLog_eq_ok_iff, Logged.runLog_eq_ok_iff]
    exact ⟨reordered.textsOfDocument_outcome differ config,
      reordered.symm.textsOfDocument_outcome otherDiffer config⟩

/-- The document with two paths of one resource, listed the other way round. -/
def archivedTasksReversed : Value :=
  .record [("paths", .record [
    ("/api/tasks/{id}", .record [("get", .record [])]),
    ("/api/tasks/archive/{id}", .record [("get", .record [])])])]

theorem ofDocument_path_order_archivedTasks :
    ∃ package log, (ofDocument archivedTasks).runLog = (.ok package, log) ∧
      (ofDocument archivedTasksReversed).runLog = (.ok package, log) ∧
      package.modules.map (fun module => module.operations.map (·.name)) =
        [["getArchiveTasksItemApi", "getTasksTasksItemApi"]] := by
  rcases Option.map_eq_some_iff.mp build_archivedTasks with ⟨package, ended, names⟩
  rcases Logged.runLog_fst_eq_ok_iff.mp (Outcome.toOption_eq_some_iff.mp ended) with ⟨log, built⟩
  have found : Resource.all archivedTasks = .ok ["tasks"] := by decide
  have made : (ofDocument archivedTasks).runLog = (.ok package, log) :=
    Logged.runLog_eq_ok_iff.mpr (Logged.outcome_bind_eq_some_iff.mpr
      ⟨_, _, Logged.outcome_lift_eq_some_iff.mpr ⟨found, rfl⟩, built⟩)
  have reordered : PathsReordered archivedTasks archivedTasksReversed _ _ :=
    .of_perm [] [] List.not_mem_nil (List.Perm.swap _ _ [])
  have differ := reordered.lists.textsDiffer (by decide)
  have otherMade := ((ofDocument_path_order reordered differ).1 package log).mp made
  exact ⟨package, log, made, otherMade, names⟩

end Package
end ApiAccessors
