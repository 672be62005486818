import ApiAccessors.Proofs.Package.Comparison
import ApiAccessors.Proofs.Package.ModuleNames
import ApiAccessors.Proofs.Package.PathOrder
import ApiAccessors.Proofs.Template.Docstrings

namespace ApiAccessors
namespace Package

/-!
# Title and version of a document

The title and the version of a document are shown inside docstrings and nowhere else.  So the texts
of two documents that only differ there have the same code, laid out around other docstrings.  What
is laid out as a docstring is read as one unless a value that it shows ends it.
-/

open Text.Docstring (IsQuiet read)

/-- A module that shows another title and another version. -/
def retitle (title version : Value) (module : AccessorModule) : AccessorModule :=
  { module with apiTitle := title, apiVersion := version }

/-- Another document that differs at most in what it says about itself, and the title and the
version that it has. -/
structure Retitled (spec other title version : Value) : Prop where
  elsewhere : ∀ name, name ≠ "info" → spec.field? name = other.field? name
  title_eq : information other "title" "API" = .ok title
  version_eq : information other "version" "unknown" = .ok version

namespace Retitled

variable {spec other title version : Value} {log after : List LogEntry}

theorem paths_eq (retitled : Retitled spec other title version) :
    Resource.paths spec = Resource.paths other := by
  unfold Resource.paths Value.fieldOrEmpty
  rw [retitled.elsewhere "paths" (by decide)]

theorem pathItem_eq (retitled : Retitled spec other title version) (path : String) :
    Resource.pathItem spec path = Resource.pathItem other path := by
  unfold Resource.pathItem
  rw [retitled.paths_eq]

theorem ofKey_eq (retitled : Retitled spec other title version) :
    Resource.ofKey spec = Resource.ofKey other :=
  Resource.ofKey_congr retitled.pathItem_eq

theorem all_eq (retitled : Retitled spec other title version) :
    Resource.all spec = Resource.all other := by
  unfold Resource.all
  rw [retitled.paths_eq, retitled.ofKey_eq]

theorem pathsOf_eq (retitled : Retitled spec other title version) :
    pathsOf spec = pathsOf other := by
  funext resources
  induction resources with
  | nil => rfl
  | cons resource rest ih =>
      unfold pathsOf Resource.pathsOf
      rw [ih, retitled.paths_eq, retitled.ofKey_eq]

theorem operations_eq (retitled : Retitled spec other title version) :
    operations spec = operations other := by
  have candidates : addCandidates spec = addCandidates other := by
    funext known entry
    unfold addCandidates
    simp only [OperationName.candidate_congr (retitled.pathItem_eq _)]
  have found : operation spec = operation other := by
    funext names key
    unfold operation
    rw [ContentType.of_congr (retitled.pathItem_eq key.1)]
  unfold operations finalNames operationsAt
  rw [retitled.pathsOf_eq, candidates, found]

theorem buildModule_outcome (retitled : Retitled spec other title version) {unit : String}
    {members : List String} {result : Option AccessorModule}
    (ended : (buildModule spec unit members).outcome log = some (result, after)) :
    (buildModule other unit members).outcome log =
      some (result.map (retitle title version), after) := by
  unfold buildModule at ended ⊢
  rw [← retitled.operations_eq]
  rcases Logged.outcome_bind_eq_some_iff.mp ended with ⟨found, between, lookedUp, later⟩
  refine Logged.outcome_bind_eq_some_iff.mpr ⟨found, between, lookedUp, ?_⟩
  rw [retitled.title_eq, retitled.version_eq]
  cases found with
  | nil =>
      rcases Logged.outcome_bind_eq_some_iff.mp later with ⟨_, _, reported, same⟩
      cases same
      exact Logged.outcome_bind_eq_some_iff.mpr ⟨_, _, reported, rfl⟩
  | cons first others =>
      rcases Logged.outcome_bind_eq_some_iff.mp later with ⟨_, _, isTitle, version⟩
      rcases Logged.outcome_bind_eq_some_iff.mp version with ⟨_, _, isVersion, same⟩
      cases (Logged.outcome_lift_eq_some_iff.mp isTitle).2
      cases (Logged.outcome_lift_eq_some_iff.mp isVersion).2
      cases same
      rfl

theorem compares (retitled : Retitled spec other title version) :
    Compares spec other (fun left right => retitle title version left = right) where
  made := by
    intro unit members result log after ended
    refine ⟨_, retitled.buildModule_outcome ended, ?_⟩
    cases result with
    | none => exact .none
    | some module => exact .some rfl
  sameNames := by
    rintro left _ rfl
    rfl
  renamed := by
    rintro left _ className fileName rfl
    rfl

theorem buildModules_outcome (retitled : Retitled spec other title version) {taken : List String}
    {groups : List (String × List String)} {modules : List AccessorModule}
    (ended : (buildModules spec taken groups).outcome log = some (modules, after)) :
    (buildModules other taken groups).outcome log =
      some (modules.map (retitle title version), after) := by
  rcases retitled.compares.exists_buildModules ended with ⟨otherModules, otherEnded, related⟩
  have same : List.Forall₂ (· = ·) (modules.map (retitle title version)) otherModules :=
    List.forall₂_map_left_iff.mpr related
  rw [List.forall₂_eq_eq_eq] at same
  rw [same]
  exact otherEnded

/-- The package of the other document is the same one with other title and version. -/
theorem ofDocument_outcome (retitled : Retitled spec other title version) {package : Package}
    (ended : (ofDocument spec).outcome log = some (package, after)) :
    (ofDocument other).outcome log =
      some (⟨package.modules.map (retitle title version), title, version⟩, after) := by
  rcases Logged.outcome_bind_eq_some_iff.mp ended with ⟨resources, between, lookedUp, built⟩
  rcases Logged.outcome_bind_eq_some_iff.mp built with ⟨modules, _, isMade, later⟩
  rcases Logged.outcome_bind_eq_some_iff.mp later with ⟨_, _, isTitle, later⟩
  rcases Logged.outcome_bind_eq_some_iff.mp later with ⟨_, _, isVersion, same⟩
  cases (Logged.outcome_lift_eq_some_iff.mp isTitle).2
  cases (Logged.outcome_lift_eq_some_iff.mp isVersion).2
  cases same
  rw [retitled.all_eq] at lookedUp
  refine Logged.outcome_bind_eq_some_iff.mpr ⟨resources, between, lookedUp, ?_⟩
  refine Logged.outcome_bind_eq_some_iff.mpr ⟨_, _, retitled.buildModules_outcome isMade, ?_⟩
  rw [retitled.title_eq, retitled.version_eq]
  rfl

end Retitled

open Template (Layout textsOf factoryLayout contentsLayout contentsOf)

def layouts (config : Config) (package : Package) : List (String × Layout) :=
  package.modules.map (fun module =>
      (module.fileName, (textsOf module).layout config.runtimeImport)) ++
    [("client.py", factoryLayout package.apiTitle.display (Output.factorySettings config)),
      ("__init__.py", contentsOf package)]

/-- No value that a docstring shows ends it. -/
structure QuietValues (config : Config) (package : Package) : Prop where
  title : IsQuiet package.apiTitle.display
  version : IsQuiet package.apiVersion.display
  tokenVariable : IsQuiet config.tokenVariable.display
  resources : ∀ module ∈ package.modules, ∀ resource ∈ module.resources, IsQuiet resource

/-- The name of a class ends no docstring. -/
theorem read_numberedClass (title : String) (number : Nat) :
    read .plain (numberedClass title number).toList = some .plain := by
  apply Text.Docstring.read_eq_plain
  intro c member
  constructor
  · rintro rfl
    revert member
    exact not_mem_numberedClass (by decide) (by decide) (by decide) (by decide) title number
  · rintro rfl
    revert member
    exact not_mem_numberedClass (by decide) (by decide) (by decide) (by decide) title number

/-- Whatever the other title and version are, the code around the docstrings is the same. -/
theorem outside_layouts_retitle (config : Config) (package : Package) (title version : Value) :
    (layouts config ⟨package.modules.map (retitle title version), title, version⟩).map
        (fun file => (file.1, file.2.outside)) =
      (layouts config package).map (fun file => (file.1, file.2.outside)) := by
  have imports : (package.modules.map (retitle title version)).map
      (fun module => Outcome.value (Template.importLine module.toValue)) =
        package.modules.map (fun module => Outcome.value (Template.importLine module.toValue)) := by
    rw [List.map_map]
    rfl
  have classes : (package.modules.map (retitle title version)).map
      (fun module => Template.classLine module.toValue) =
        package.modules.map (fun module => Template.classLine module.toValue) := by
    rw [List.map_map]
    rfl
  unfold layouts
  rw [List.map_append, List.map_append, List.map_map, List.map_map, List.map_map]
  unfold contentsOf contentsLayout
  simp only [imports, classes]
  rfl

section

variable {spec : Value} {package : Package} {log after : List LogEntry}

theorem retitled_self (ended : (ofDocument spec).outcome log = some (package, after)) :
    Retitled spec spec package.apiTitle package.apiVersion := by
  rcases Logged.outcome_bind_eq_some_iff.mp ended with ⟨resources, _, -, built⟩
  rcases Logged.outcome_bind_eq_some_iff.mp built with ⟨modules, _, -, later⟩
  rcases Logged.outcome_bind_eq_some_iff.mp later with ⟨_, _, isTitle, later⟩
  rcases Logged.outcome_bind_eq_some_iff.mp later with ⟨_, _, isVersion, same⟩
  cases same
  exact ⟨fun _ _ => rfl, (Logged.outcome_lift_eq_some_iff.mp isTitle).1,
    (Logged.outcome_lift_eq_some_iff.mp isVersion).1⟩

/-- All modules show the title and the version of their package. -/
theorem eq_retitle_of_mem (ended : (ofDocument spec).outcome log = some (package, after)) :
    ∀ module ∈ package.modules, retitle package.apiTitle package.apiVersion module = module := by
  have again := (retitled_self ended).ofDocument_outcome ended
  rw [ended] at again
  have same := congrArg (fun result => result.1.modules) (Option.some.inj again)
  exact List.map_inj_left.mp (same.symm.trans (List.map_id _).symm)

theorem exists_emits_of_ofDocument (ended : (ofDocument spec).outcome log = some (package, after)) :
    ∃ groups, Emits spec [] groups package.modules := by
  rcases Logged.outcome_bind_eq_some_iff.mp ended with ⟨resources, _, -, built⟩
  exact ⟨_, emits_of_build built⟩

theorem texts_eq_layouts (ended : (ofDocument spec).outcome log = some (package, after))
    (config : Config) :
    texts config package =
      .ok ((layouts config package).map (fun file => (file.1, file.2.text))) := by
  rcases exists_emits_of_ofDocument ended with ⟨groups, emits⟩
  have haveStems : ∀ module ∈ package.modules, ∃ stem, module.fileName = stem ++ ".py" := by
    intro module member
    rcases emits.numbered module member with ⟨number, -, isFile⟩
    exact ⟨_, isFile⟩
  have modules : package.modules.mapM (fun module => do
      let text ← Template.accessors config.runtimeImport module.toValue
      pure (module.fileName, text)) = (.ok (package.modules.map (fun module =>
        (module.fileName, ((textsOf module).layout config.runtimeImport).text))) :
          Except Fault (List (String × String))) := by
    apply Outcome.mapM_eq_map
    intro module member
    rw [Template.accessors_eq_layout (emits.exists_group module member).2.2]
    rfl
  unfold texts layouts
  rw [modules, Template.factory_eq_layout, Template.contents_eq_layout haveStems, List.map_append,
    List.map_map]
  rfl

theorem docstringsEnd_layouts_iff (ended : (ofDocument spec).outcome log = some (package, after))
    (config : Config) :
    (∀ file ∈ layouts config package, file.2.DocstringsEnd) ↔ QuietValues config package := by
  rcases exists_emits_of_ofDocument ended with ⟨groups, emits⟩
  have ofModule : ∀ module ∈ package.modules,
      ((textsOf module).layout config.runtimeImport).DocstringsEnd ↔
        (∀ resource ∈ module.resources, IsQuiet resource) ∧
          IsQuiet package.apiTitle.display ∧ IsQuiet package.apiVersion.display := by
    intro module member
    rcases emits.numbered module member with ⟨number, isClass, -⟩
    have className := isClass ▸ read_numberedClass module.title number
    rw [Template.docstringsEnd_layout_iff className, ← eq_retitle_of_mem ended module member]
    exact Iff.rfl
  unfold layouts
  rw [List.forall_mem_append, List.forall_mem_map, List.forall_mem_cons, List.forall_mem_singleton,
    Template.docstringsEnd_factoryLayout_iff, contentsOf,
    Template.docstringsEnd_contentsLayout_iff]
  constructor
  · rintro ⟨modules, ⟨title, tokenVariable⟩, -, version⟩
    exact ⟨title, version, tokenVariable,
      fun module member => ((ofModule module member).mp (modules module member)).1⟩
  · intro quiet
    exact ⟨fun module member =>
        (ofModule module member).mpr ⟨quiet.resources module member, quiet.title, quiet.version⟩,
      ⟨quiet.title, quiet.tokenVariable⟩, quiet.title, quiet.version⟩

end

/-- Values in which no three quotes stand in a row end no docstring. -/
theorem QuietValues.of_not_isInfix {config : Config} {package : Package}
    (apart : ∀ value ∈ package.apiTitle.display :: package.apiVersion.display ::
      config.tokenVariable.display :: package.modules.flatMap (·.resources),
        ¬Text.Docstring.quotes <:+: value.toList) :
    QuietValues config package := by
  simp only [List.forall_mem_cons, List.forall_mem_flatMap] at apart
  rcases apart with ⟨title, version, tokenVariable, resources⟩
  exact ⟨Text.Docstring.isQuiet_of_not_isInfix title, Text.Docstring.isQuiet_of_not_isInfix version,
    Text.Docstring.isQuiet_of_not_isInfix tokenVariable,
    fun module member resource isResource =>
      Text.Docstring.isQuiet_of_not_isInfix (resources module member resource isResource)⟩

/-- The document with two paths of one resource, with a title. -/
def titledTasks (title : String) : Value :=
  .record [("info", .record [("title", .text title), ("version", .text "1")]),
    ("paths", .record [
      ("/api/tasks/archive/{id}", .record [("get", .record [])]),
      ("/api/tasks/{id}", .record [("get", .record [])])])]

theorem retitled_titledTasks (title : String) :
    Retitled archivedTasks (titledTasks title) (.text title) (.text "1") := by
  refine ⟨?_, rfl, rfl⟩
  intro name notInfo
  have apart : ¬(Value.text "info").sameKey (.text name) = true := by
    intro same
    cases Entries.sameKey_text_iff.mp same
    exact notInfo rfl
  exact congrArg Except.ok (if_neg apart).symm

theorem exists_ofDocument_archivedTasks :
    ∃ package log, (ofDocument archivedTasks).runLog = (.ok package, log) := by
  rcases Option.map_eq_some_iff.mp build_archivedTasks with ⟨package, ended, -⟩
  rcases Logged.runLog_fst_eq_ok_iff.mp (Outcome.toOption_eq_some_iff.mp ended) with ⟨log, built⟩
  have found : Resource.all archivedTasks = .ok ["tasks"] := by decide
  exact ⟨package, log, Logged.runLog_eq_ok_iff.mpr (Logged.outcome_bind_eq_some_iff.mpr
    ⟨_, _, Logged.outcome_lift_eq_some_iff.mpr ⟨found, rfl⟩, built⟩)⟩

def plainConfig : Config :=
  ⟨none, none, .text Config.defaultRuntime, .text "", .text Config.defaultBaseUrl,
    .text Config.defaultTokenVariable, .bool false, none, none⟩

/-- The texts of a package are laid out as code and docstrings, which end where they are laid out to
end exactly if no value that they show ends one.  The code is the same for all documents that differ
at most in their title and their version. -/
theorem docstrings_end_iff {spec : Value} {package : Package} {log : List LogEntry}
    (made : (ofDocument spec).runLog = (.ok package, log)) (config : Config) :
    texts config package =
        .ok ((layouts config package).map (fun file => (file.1, file.2.text))) ∧
      ((∀ file ∈ layouts config package, file.2.DocstringsEnd) ↔ QuietValues config package) ∧
      ∀ other title version, Retitled spec other title version →
        ∃ otherPackage, (ofDocument other).runLog = (.ok otherPackage, log) ∧
          otherPackage.apiTitle = title ∧ otherPackage.apiVersion = version ∧
          (layouts config otherPackage).map (fun file => (file.1, file.2.outside)) =
            (layouts config package).map (fun file => (file.1, file.2.outside)) := by
  have ended := Logged.runLog_eq_ok_iff.mp made
  refine ⟨texts_eq_layouts ended config, docstringsEnd_layouts_iff ended config, ?_⟩
  intro other title version retitled
  exact ⟨_, Logged.runLog_eq_ok_iff.mpr (retitled.ofDocument_outcome ended), rfl, rfl,
    outside_layouts_retitle config package title version⟩

theorem docstrings_end_archivedTasks :
    ∃ package log, (ofDocument archivedTasks).runLog = (.ok package, log) ∧
      texts plainConfig package =
        .ok ((layouts plainConfig package).map (fun file => (file.1, file.2.text))) ∧
      ((∀ file ∈ layouts plainConfig package, file.2.DocstringsEnd) ↔
        QuietValues plainConfig package) ∧
      ∃ otherPackage, (ofDocument (titledTasks "Tasks")).runLog = (.ok otherPackage, log) ∧
        otherPackage.apiTitle = .text "Tasks" ∧
        (layouts plainConfig otherPackage).map (fun file => (file.1, file.2.outside)) =
          (layouts plainConfig package).map (fun file => (file.1, file.2.outside)) := by
  rcases exists_ofDocument_archivedTasks with ⟨package, log, made⟩
  rcases docstrings_end_iff made plainConfig with ⟨same, ends, others⟩
  rcases others _ _ _ (retitled_titledTasks "Tasks") with
    ⟨otherPackage, otherMade, isTitle, -, outside⟩
  exact ⟨package, log, made, same, ends, otherPackage, otherMade, isTitle, outside⟩

/-- Three quotes in a title end the docstrings that show it. -/
theorem quoted_title_ends_docstring :
    ¬∀ (spec : Value) (config : Config) (package : Package) (log : List LogEntry),
      (ofDocument spec).runLog = (.ok package, log) →
        ∀ file ∈ layouts config package, file.2.DocstringsEnd := by
  intro allEnd
  rcases exists_ofDocument_archivedTasks with ⟨package, log, made⟩
  have titled := (retitled_titledTasks "A\"\"\"B").ofDocument_outcome
    (Logged.runLog_eq_ok_iff.mp made)
  have ends := allEnd _ plainConfig _ _ (Logged.runLog_eq_ok_iff.mpr titled) ("__init__.py", _)
    (List.mem_append_right _ (List.mem_cons_of_mem _ List.mem_cons_self))
  have quiet : IsQuiet "A\"\"\"B" := ((Template.docstringsEnd_contentsLayout_iff _ _ _ _).mp ends).1
  exact absurd quiet (by decide)

end Package
end ApiAccessors
