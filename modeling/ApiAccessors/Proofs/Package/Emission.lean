import ApiAccessors.Api.Package
import ApiAccessors.Proofs.Outcome
import ApiAccessors.Proofs.Package.Groups

namespace ApiAccessors
namespace Package

/-!
# Emitted modules

The groups of resources are gone through in order.  A group without operations is skipped with a
warning; from every other group a module is made, whose names are taken for all groups behind it.
What is emitted can be described without the log and without the faults: the description is a
relation with one rule for each of the two kinds of groups.

The relation says everything that a step does.  What holds of all modules of a package is shown by
induction on it, and the computation is not looked into again.
-/

/-- The package of a document: it has the resources that the document has. -/
def ofDocument (spec : Value) : Logged Package := do
  let resources ← Logged.lift (Resource.all spec)
  build spec resources

/-- The class name of a title with a number. -/
def numberedClass (title : String) (number : Nat) : String := className title ++ suffix number

/-- The file name of a title with a number, which stands in front of the extension. -/
def numberedFile (title : String) (number : Nat) : String :=
  fileStem title ++ suffix number ++ extension

/-- The plain names are those with the number zero. -/
theorem numberedClass_zero (title : String) : numberedClass title 0 = className title :=
  String.append_empty

theorem numberedFile_zero (title : String) : numberedFile title 0 = fileName title :=
  congrArg (fun stem => stem ++ extension) String.append_empty

/-- What is emitted for groups of resources when some names are taken. -/
inductive Emits (spec : Value) :
    List String → List (String × List String) → List AccessorModule → Prop
  | nothing (taken : List String) : Emits spec taken [] []
  | skipped {taken : List String} {title : String} {members : List String}
      {rest : List (String × List String)} {modules : List AccessorModule}
      (found : operations spec members = .ok [])
      (later : Emits spec taken rest modules) :
      Emits spec taken ((title, members) :: rest) modules
  | emitted {taken : List String} {title className fileName : String} {members : List String}
      {rest : List (String × List String)} {modules : List AccessorModule} {number : Nat}
      {operations : List Operation} {apiTitle apiVersion : Value}
      (found : Package.operations spec members = .ok operations) (notEmpty : operations ≠ [])
      (isNumber : number = freeNumber taken (Package.className title) (fileStem title))
      (isClassName : className = numberedClass title number)
      (isFileName : fileName = numberedFile title number)
      (later : Emits spec (fileName :: className :: taken) rest modules) :
      Emits spec taken ((title, members) :: rest)
        (⟨title, className, fileName, members, operations, apiTitle, apiVersion⟩ :: modules)

/-- The title and the version of a document are read from a field of their own. -/
theorem information_congr {spec other : Value} (same : spec.field? "info" = other.field? "info") :
    information spec = information other := by
  funext name missing
  unfold information Value.fieldOrEmpty
  rw [same]

section

variable {spec : Value} {log after : List LogEntry}

/-- A unit without operations has no module; the module of another one has its plain names. -/
theorem buildModule_cases {title : String} {members : List String}
    {result : Option AccessorModule}
    (ended : (buildModule spec title members).outcome log = some (result, after)) :
    (operations spec members = .ok [] ∧ result = none) ∨
      ∃ found apiTitle apiVersion, operations spec members = .ok found ∧ found ≠ [] ∧
        result = some
          ⟨title, className title, fileName title, members, found, apiTitle, apiVersion⟩ := by
  rcases Logged.outcome_bind_eq_some_iff.mp ended with ⟨found, between, lookedUp, later⟩
  have isFound := (Logged.outcome_lift_eq_some_iff.mp lookedUp).1
  cases found with
  | nil =>
      left
      rcases Logged.outcome_bind_eq_some_iff.mp later with ⟨_, _, -, same⟩
      cases same
      exact ⟨isFound, rfl⟩
  | cons first others =>
      right
      rcases Logged.outcome_bind_eq_some_iff.mp later with ⟨apiTitle, _, -, version⟩
      rcases Logged.outcome_bind_eq_some_iff.mp version with ⟨apiVersion, _, -, same⟩
      cases same
      exact ⟨_, apiTitle, apiVersion, isFound, List.cons_ne_nil _ _, rfl⟩

/-- A module is given the names with the first free number; for the number zero they are the names
that it has, and nothing is reported. -/
theorem claimNames_outcome (taken : List String) (plain : AccessorModule)
    (isClassName : plain.className = className plain.title)
    (isFileName : plain.fileName = fileName plain.title) {number : Nat}
    (isNumber : freeNumber taken (className plain.title) (fileStem plain.title) = number)
    (log : List LogEntry) :
    ∃ after, (claimNames taken plain).outcome log = some ({ plain with
        className := numberedClass plain.title number,
        fileName := numberedFile plain.title number }, after) ∧ (number = 0 → after = log) := by
  unfold claimNames
  rw [isClassName, isNumber]
  by_cases zero : number = 0
  · refine ⟨log, ?_, fun _ => rfl⟩
    rw [if_pos zero, zero, numberedClass_zero, numberedFile_zero, ← isClassName, ← isFileName]
    rfl
  · rw [if_neg zero]
    exact ⟨_, rfl, fun equal => False.elim (zero equal)⟩

theorem emits_of_buildModules {taken : List String} {groups : List (String × List String)}
    {modules : List AccessorModule}
    (ended : (buildModules spec taken groups).outcome log = some (modules, after)) :
    Emits spec taken groups modules := by
  induction groups generalizing taken log after modules with
  | nil =>
      cases ended
      exact .nothing taken
  | cons group rest ih =>
      rcases group with ⟨title, members⟩
      rcases Logged.outcome_bind_eq_some_iff.mp ended with ⟨result, between, built, later⟩
      rcases buildModule_cases built with
        ⟨found, same⟩ | ⟨found, apiTitle, apiVersion, isFound, notEmpty, same⟩
      · rw [same] at later
        exact .skipped found (ih later)
      · rw [same] at later
        rcases Logged.outcome_bind_eq_some_iff.mp later with ⟨claimed, _, named, others⟩
        rcases Logged.outcome_bind_eq_some_iff.mp others with ⟨restModules, _, restEnded, equal⟩
        cases equal
        have plainNames := claimNames_outcome taken
          ⟨title, className title, fileName title, members, found, apiTitle, apiVersion⟩
          rfl rfl rfl between
        rcases plainNames with ⟨_, claims, -⟩
        rw [claims] at named
        cases named
        exact .emitted isFound notEmpty rfl rfl rfl (ih restEnded)

/-- The modules of a package are what is emitted for the groups of its resources. -/
theorem emits_of_build {resources : List String} {package : Package}
    (ended : (build spec resources).outcome log = some (package, after)) :
    Emits spec [] (group resources) package.modules := by
  rcases Logged.outcome_bind_eq_some_iff.mp ended with ⟨modules, _, built, later⟩
  rcases Logged.outcome_bind_eq_some_iff.mp later with ⟨_, _, -, version⟩
  rcases Logged.outcome_bind_eq_some_iff.mp version with ⟨_, _, -, same⟩
  cases same
  exact emits_of_buildModules built

end

section

variable {spec : Value} {taken : List String} {groups : List (String × List String)}
  {modules : List AccessorModule}

/-- Every module belongs to a group, of which it has all operations. -/
theorem Emits.exists_group (emits : Emits spec taken groups modules) :
    ∀ module ∈ modules, (module.title, module.resources) ∈ groups ∧
      operations spec module.resources = .ok module.operations ∧ module.operations ≠ [] := by
  induction emits with
  | nothing taken => exact List.forall_mem_nil _
  | skipped found later ih =>
      intro module member
      have parts := ih module member
      exact ⟨List.mem_cons_of_mem _ parts.1, parts.2⟩
  | emitted found notEmpty isNumber isClassName isFileName later ih =>
      intro module member
      rcases List.mem_cons.mp member with same | member
      · rw [same]
        exact ⟨List.mem_cons_self, found, notEmpty⟩
      · have parts := ih module member
        exact ⟨List.mem_cons_of_mem _ parts.1, parts.2⟩

/-- A group that has no module has no operations. -/
theorem Emits.exists_module (emits : Emits spec taken groups modules) {title : String}
    {members : List String} (isGroup : (title, members) ∈ groups) :
    operations spec members = .ok [] ∨
      ∃ module ∈ modules, module.title = title ∧ module.resources = members := by
  induction emits with
  | nothing taken => cases isGroup
  | skipped found later ih =>
      rcases List.mem_cons.mp isGroup with same | isGroup
      · cases same
        exact Or.inl found
      · exact ih isGroup
  | emitted found notEmpty isNumber isClassName isFileName later ih =>
      rcases List.mem_cons.mp isGroup with same | isGroup
      · cases same
        exact Or.inr ⟨_, List.mem_cons_self, rfl, rfl⟩
      · rcases ih isGroup with empty | ⟨module, member, isModule⟩
        · exact Or.inl empty
        · exact Or.inr ⟨module, List.mem_cons_of_mem _ member, isModule⟩

/-- Modules stand in the order of their groups, at most one for each group. -/
theorem Emits.sublist (emits : Emits spec taken groups modules) :
    (modules.map (fun module => (module.title, module.resources))).Sublist groups := by
  induction emits with
  | nothing taken => exact List.Sublist.refl _
  | skipped found later ih => exact ih.cons _
  | emitted found notEmpty isNumber isClassName isFileName later ih => exact ih.cons_cons _

/-- The modules for the groups of resources stand in the strict order of their titles. -/
theorem Emits.titles_increase {resources : List String}
    (emits : Emits spec taken (group resources) modules) :
    modules.Pairwise (fun left right => left.title < right.title) := by
  have titles := (group_pairwise_lt resources).sublist emits.sublist
  have inOrder := List.pairwise_map.mp titles
  exact inOrder

/-- A module has all resources with its title. -/
theorem Emits.resources_eq {resources : List String}
    (emits : Emits spec taken (group resources) modules) {module : AccessorModule}
    (member : module ∈ modules) :
    module.resources = membersOf (Resource.sortBy id resources) module.title :=
  ((mem_group_iff resources).mp (emits.exists_group module member).1).1

end

end Package
end ApiAccessors
