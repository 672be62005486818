import ApiAccessors.Proofs.Package.DistinctOperations
import ApiAccessors.Proofs.Package.Emission
import ApiAccessors.Proofs.Package.Groups

namespace ApiAccessors
namespace Package

/-!
# Names inside a module

The accessors of a module are attributes of one object, so no two of them may have the same name.
Final names of candidates differ.  For the operations of a module this is only half of the
argument: their names are looked up by path and method, so they differ only because no operation is
met twice.
-/

/-- Operations of different resources have different names. -/
theorem operations_names_nodup {spec : Value} (distinct : spec.hasDistinctKeys = true)
    {resources : List String} (different : resources.Nodup) {found : List Operation}
    (ended : operations spec resources = .ok found) : (found.map (·.name)).Nodup := by
  have named := (operations_named distinct different ended).2
  have names : found.map (·.name) =
      (found.map (fun operation => (operation.key, operation.name))).map (·.2) := by
    rw [List.map_map]
    rfl
  rw [names, named]
  exact OperationName.unique_nodup _

/-- Final names belong to the same operations as the candidates, in the same order, and no two of
them are equal, whatever the candidates are.  As a consequence the operations of every module of a
package have different names, for every document and every set of resources. -/
theorem final_names_differ :
    (∀ candidates : List (OperationName.Key × String),
      (OperationName.unique candidates).map (·.1) = candidates.map (·.1) ∧
        ((OperationName.unique candidates).map (·.2)).Nodup) ∧
    ∀ (spec : Value) (resources : List String) (package : Package),
      spec.hasDistinctKeys = true → resources.Nodup →
      (build spec resources).runLog.1 = .ok package →
      ∀ module ∈ package.modules, (module.operations.map (·.name)).Nodup := by
  constructor
  · intro candidates
    exact ⟨OperationName.unique_keys candidates, OperationName.unique_nodup candidates⟩
  · intro spec resources package distinct different ended module member
    rcases Logged.runLog_fst_eq_ok_iff.mp ended with ⟨log, built⟩
    rcases (emits_of_build built).exists_group module member with ⟨isGroup, found, -⟩
    have members := ((mem_group_iff resources).mp isGroup).1
    have membersDiffer := membersOf_nodup different module.title
    rw [← members] at membersDiffer
    exact operations_names_nodup distinct membersDiffer found

/-- A document with two paths whose operations have the same candidate. -/
def archivedTasks : Value :=
  .record [("paths", .record [
    ("/api/tasks/archive/{id}", .record [("get", .record [])]),
    ("/api/tasks/{id}", .record [("get", .record [])])])]

private theorem pathsOf_archivedTasks :
    Resource.pathsOf archivedTasks "tasks" = .ok [
      ("/api/tasks/archive/{id}", .record [("get", .record [])]),
      ("/api/tasks/{id}", .record [("get", .record [])])] := by
  have lists : Resource.Lists archivedTasks [
      (.text "/api/tasks/archive/{id}", .record [("get", .record [])]),
      (.text "/api/tasks/{id}", .record [("get", .record [])])] := ⟨_, rfl, rfl⟩
  have routed : Resource.AllRouted archivedTasks [
      (.text "/api/tasks/archive/{id}", .record [("get", .record [])]),
      (.text "/api/tasks/{id}", .record [("get", .record [])])] := by
    unfold Resource.AllRouted
    decide
  exact lists.pathsOf_of_pairwise routed "tasks" (by decide)

theorem build_archivedTasks :
    (build archivedTasks ["tasks"]).runLog.1.toOption.map (fun package =>
      package.modules.map (fun module => module.operations.map (·.name))) =
        some [["getArchiveTasksItemApi", "getTasksTasksItemApi"]] := by
  have groups : group ["tasks"] = [("Tasks", ["tasks"])] := by
    apply group_of_pairwise
    · decide
    · decide
    · decide
  simp only [build, groups, buildModules, buildModule, operations, pathsOf, pathsOf_archivedTasks]
  decide

theorem final_names_differ_archivedTasks :
    ∃ package, (build archivedTasks ["tasks"]).runLog.1 = .ok package ∧
      package.modules.map (fun module => module.operations.map (·.name)) =
        [["getArchiveTasksItemApi", "getTasksTasksItemApi"]] ∧
      ∀ module ∈ package.modules, (module.operations.map (·.name)).Nodup := by
  rcases Option.map_eq_some_iff.mp build_archivedTasks with ⟨package, ended, names⟩
  have built := Outcome.toOption_eq_some_iff.mp ended
  exact ⟨package, built, names, final_names_differ.2 archivedTasks ["tasks"] package
    (by decide) (List.nodup_singleton _) built⟩

end Package
end ApiAccessors
