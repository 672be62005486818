import ApiAccessors.Generator.Output
import ApiAccessors.Proofs.Package.ModuleNames
import ApiAccessors.Proofs.Run
import ApiAccessors.Proofs.Template.Layout

namespace ApiAccessors
namespace Output

/-!
# Written packages

Writing a package that was built from a document is writing one list of files, all into one
directory: the client factory, a file for each module, and the contents.  None of the modules is
skipped, as all of them have operations.
-/

/-- Where a module is written. -/
def modulePath (directory : FilePath) (module : AccessorModule) : FilePath :=
  directory.join (FilePath.ofText module.fileName)

def moduleFile (runtimeImport : Value) (module : AccessorModule) : String × List UInt8 :=
  (module.fileName,
    Text.Utf8.encode (Outcome.value (Template.accessors runtimeImport module.toValue)).toList)

/-- The report that a module was written. -/
def moduleEntry (directory : FilePath) (module : AccessorModule) : LogEntry :=
  ⟨.debug, logger, "Wrote " ++ (modulePath directory module).name ++ " (" ++
    toString module.operations.length ++ " methods)"⟩

/-- The text of a module is made without a fault, and its path is one that a file can have. -/
structure IsWritable (directory : FilePath) (runtimeImport : Value)
    (module : AccessorModule) : Prop where
  ends : Template.accessors runtimeImport module.toValue =
    .ok (Outcome.value (Template.accessors runtimeImport module.toValue))
  possible : Run.isImpossible (modulePath directory module) = false

section

variable {directory : FilePath} {runtimeImport : Value} {machine after : Machine} {β : Type}
  {result : β}

theorem ends_writeModule_bind_iff {module : AccessorModule} (notEmpty : module.operations ≠ [])
    {next : Option FilePath → Run β} :
    Run.Ends (writeModule directory runtimeImport module.toValue >>= next) machine result after ↔
      IsWritable directory runtimeImport module ∧ ∃ files,
        machine.files.writeFile machine.home (modulePath directory module)
            (moduleFile runtimeImport module).2 = .ok files ∧
          Run.Ends (next (some (modulePath directory module)))
            { machine with files, log := machine.log ++ [moduleEntry directory module] }
            result after := by
  unfold writeModule
  cases isText : Template.accessors runtimeImport module.toValue with
  | error fault =>
      apply iff_of_false Run.not_ends_stop_bind
      rintro ⟨⟨ends, -⟩, -⟩
      rw [isText] at ends
      cases ends
  | ok text =>
      have content : (moduleFile runtimeImport module).2 = Text.Utf8.encode text.toList := by
        rw [moduleFile, isText, Outcome.value_ok]
      have writable : IsWritable directory runtimeImport module ↔
          Run.isImpossible (modulePath directory module) = false :=
        ⟨IsWritable.possible, fun possible => ⟨by rw [isText, Outcome.value_ok], possible⟩⟩
      have isName : module.toValue.entry "file_name" = .ok (.text module.fileName) := rfl
      have isPath : below directory (.text module.fileName) = .ok (modulePath directory module) :=
        rfl
      have areOperations : module.toValue.entry "methods" =
          .ok (.list (module.operations.map Operation.toValue)) := rfl
      have isCount : (Value.list (module.operations.map Operation.toValue)).size =
          .ok (module.operations.map Operation.toValue).length := rfl
      simp only [Run.lift_ok, pure_bind, Template.isEmpty_of_accessors notEmpty isText,
        Bool.false_eq_true, if_false, isName, isPath, areOperations, isCount, bind_assoc,
        List.length_map]
      rw [content, writable, Run.ends_writeText_bind_iff]
      exact Iff.rfl

/-- Modules are written one after the other, and each is reported. -/
theorem ends_writeModules_bind_iff {modules : List AccessorModule}
    (notEmpty : ∀ module ∈ modules, module.operations ≠ [])
    {next : List (Value × FilePath) → Run β} :
    Run.Ends (writeModules directory runtimeImport (modules.map AccessorModule.toValue) >>= next)
        machine result after ↔
      (∀ module ∈ modules, IsWritable directory runtimeImport module) ∧ ∃ files,
        FileTree.writeFiles machine.home directory (modules.map (moduleFile runtimeImport))
            machine.files = .ok files ∧
          Run.Ends (next (modules.map (fun module =>
              (module.toValue, modulePath directory module))))
            { machine with files, log := machine.log ++ modules.map (moduleEntry directory) }
            result after := by
  induction modules generalizing machine next with
  | nil =>
      simp only [List.map_nil, writeModules, pure_bind, FileTree.writeFiles, Except.ok.injEq,
        exists_eq_left', List.append_nil, List.not_mem_nil, false_implies, implies_true, true_and]
  | cons module rest ih =>
      have parts := List.forall_mem_cons.mp notEmpty
      rw [List.map_cons, writeModules, bind_assoc, ends_writeModule_bind_iff parts.1,
        List.forall_mem_cons, and_assoc]
      apply and_congr_right'
      simp only [bind_assoc, pure_bind, ih parts.2, List.map_cons, moduleFile, modulePath,
        FileTree.writeFiles, Outcome.bind_eq_ok_iff, List.append_assoc, List.singleton_append]
      constructor
      · rintro ⟨between, wrote, writable, files, others, later⟩
        exact ⟨writable, files, ⟨between, wrote, others⟩, later⟩
      · rintro ⟨writable, files, ⟨between, wrote, others⟩, later⟩
        exact ⟨between, wrote, writable, files, others, later⟩

end

/-- All files of a package, in the order in which they are written. -/
def packageFiles (config : Config) (package : Package) : List (String × List UInt8) :=
  ("client.py", Text.Utf8.encode
    (Outcome.value (Template.factory package.toValue (factorySettings config))).toList) ::
  (package.modules.map (moduleFile config.runtimeImport) ++
    [("__init__.py",
      Text.Utf8.encode (Outcome.value (Template.contents package.toValue)).toList)])

theorem exists_outputDirectory_of_ends {config : Config} {package : Value}
    {machine after : Machine} {written : List FilePath}
    (ended : Run.Ends (write config package) machine written after) :
    ∃ directory, config.outputDirectory = some directory := by
  cases given : config.outputDirectory with
  | none =>
      unfold write at ended
      rw [given] at ended
      cases ended
  | some directory => exact ⟨directory, rfl⟩

theorem write_eq {config : Config} {directory : FilePath}
    (given : config.outputDirectory = some directory) (package : Value) :
    write config package = (do
      if (← Run.entryAt directory).isNone then
        Run.makeDirectories directory false
        Run.report .info logger ("Created output directory: " ++ directory.text)
      writeInto config directory package) := by
  unfold write
  rw [given]

section

variable (config : Config) (package : Package)

theorem factory_mem_packageFiles : ("client.py", Text.Utf8.encode
    (Outcome.value (Template.factory package.toValue (factorySettings config))).toList) ∈
      packageFiles config package :=
  List.mem_cons_self

theorem contents_mem_packageFiles : ("__init__.py", Text.Utf8.encode
    (Outcome.value (Template.contents package.toValue)).toList) ∈ packageFiles config package :=
  List.mem_cons_of_mem _ (List.mem_append_right _ List.mem_cons_self)

theorem moduleFile_mem_packageFiles {module : AccessorModule} (member : module ∈ package.modules) :
    moduleFile config.runtimeImport module ∈ packageFiles config package :=
  List.mem_cons_of_mem _ (List.mem_append_left _ (List.mem_map_of_mem member))

end

/-- All texts of a package are made without a fault, and all its paths are ones that a file can
have. -/
structure CanWrite (config : Config) (directory : FilePath) (package : Package) : Prop where
  factory_ends : Template.factory package.toValue (factorySettings config) =
    .ok (Outcome.value (Template.factory package.toValue (factorySettings config)))
  factory_possible : Run.isImpossible (directory.join (FilePath.ofText "client.py")) = false
  modules : ∀ module ∈ package.modules, IsWritable directory config.runtimeImport module
  contents_ends : Template.contents package.toValue =
    .ok (Outcome.value (Template.contents package.toValue))
  contents_possible : Run.isImpossible (directory.join (FilePath.ofText "__init__.py")) = false

/-- The texts of a package can always be made; only the paths may be refused. -/
theorem canWrite_of_possible {config : Config} {directory : FilePath} {package : Package}
    (notEmpty : ∀ module ∈ package.modules, module.operations ≠ [])
    (haveStems : ∀ module ∈ package.modules, ∃ stem, module.fileName = stem ++ ".py")
    (possible : ∀ name ∈ "client.py" :: "__init__.py" :: package.modules.map (·.fileName),
      Run.isImpossible (directory.join (FilePath.ofText name)) = false) :
    CanWrite config directory package := by
  have isPossible : ∀ {name}, name ∈ "client.py" :: "__init__.py" ::
      package.modules.map (·.fileName) →
      Run.isImpossible (directory.join (FilePath.ofText name)) = false := possible _
  rcases Template.exists_factory package (factorySettings config) with ⟨factory, isFactory⟩
  rcases Template.exists_contents haveStems with ⟨contents, areContents⟩
  constructor
  case factory_ends => exact Outcome.eq_ok_value isFactory
  case factory_possible => exact isPossible List.mem_cons_self
  case modules =>
    intro module member
    rcases Template.exists_accessors (notEmpty module member) config.runtimeImport with
      ⟨text, ended⟩
    have named : module.fileName ∈ package.modules.map (·.fileName) := List.mem_map_of_mem member
    exact ⟨Outcome.eq_ok_value ended,
      isPossible (List.mem_cons_of_mem _ (List.mem_cons_of_mem _ named))⟩
  case contents_ends => exact Outcome.eq_ok_value areContents
  case contents_possible => exact isPossible (List.mem_cons_of_mem _ List.mem_cons_self)

theorem CanWrite.possible {config : Config} {directory : FilePath} {package : Package}
    (can : CanWrite config directory package) : Run.isImpossible directory = false := by
  have plain : IsPlainName "client.py" := ⟨by decide, by decide, by decide, by decide⟩
  have within := can.factory_possible
  rw [FilePath.join_ofText_of_isPlainName plain, Run.isImpossible, List.any_append,
    Bool.or_eq_false_iff] at within
  exact within.1

/-- What is reported when a package has been written into its directory. -/
def packageEntries (directory : FilePath) (package : Package) : List LogEntry :=
  ⟨.debug, logger, "Wrote client.py"⟩ :: (package.modules.map (moduleEntry directory) ++
    [⟨.info, logger, "Generated " ++ toString package.modules.length ++ " modules in " ++
      directory.text ++ " (" ++ (Value.int package.operationCount).display ++ " methods)"⟩])

theorem ends_writeInto_iff {config : Config} {directory : FilePath} {package : Package}
    (notEmpty : ∀ module ∈ package.modules, module.operations ≠ []) {machine after : Machine}
    {written : List FilePath} :
    Run.Ends (writeInto config directory package.toValue) machine written after ↔
      CanWrite config directory package ∧
        written = package.modules.map (modulePath directory) ∧ ∃ files,
        FileTree.writeFiles machine.home directory (packageFiles config package) machine.files =
            .ok files ∧
          after = { machine with
            files, log := machine.log ++ packageEntries directory package } := by
  have areUnits : (do (← package.toValue.entry "units").elements) =
      Except.ok (package.modules.map AccessorModule.toValue) := rfl
  have isCount : package.toValue.entry "method_count" = .ok (.int package.operationCount) := rfl
  have same : withModules (package.modules.map AccessorModule.toValue) package.toValue =
      package.toValue := rfl
  unfold writeInto
  simp only [Run.ends_lift_bind_iff, Outcome.exists_eq_ok_iff, Run.ends_writeText_bind_iff,
    Run.ends_report_bind_iff, areUnits, Outcome.value_ok, true_and,
    ends_writeModules_bind_iff notEmpty, List.map_map, Function.comp_def, same, isCount,
    Run.ends_pure_iff, packageFiles, FileTree.writeFiles, Outcome.bind_eq_ok_iff,
    FileTree.writeFiles_append, List.length_map, packageEntries, List.append_assoc,
    List.singleton_append]
  constructor
  · rintro ⟨factory, possible, first, wroteFactory, modules, second, wroteModules, contents,
      lastPossible, files, wroteContents, isWritten, isAfter⟩
    exact ⟨⟨factory, possible, modules, contents, lastPossible⟩, isWritten, files,
      ⟨first, wroteFactory, second, wroteModules, files, wroteContents, rfl⟩, isAfter⟩
  · rintro ⟨⟨factory, possible, modules, contents, lastPossible⟩, isWritten, files,
      ⟨first, wroteFactory, second, wroteModules, _, wroteContents, isLast⟩, isAfter⟩
    cases isLast
    exact ⟨factory, possible, first, wroteFactory, modules, second, wroteModules, contents,
      lastPossible, files, wroteContents, isWritten, isAfter⟩

/-- A run that writes a package makes the directory, if it is missing, and then writes into it. -/
theorem ends_writeInto_of_ends_write {config : Config} {directory : FilePath}
    (given : config.outputDirectory = some directory) {package : Value} {machine after : Machine}
    {written : List FilePath} (ended : Run.Ends (write config package) machine written after) :
    ∃ files log, FileTree.Grows machine.files files ∧ files.refusal = machine.files.refusal ∧
      (∃ entry, Run.found machine directory = .ok entry) ∧
      (Run.found machine directory ≠ .ok none → files = machine.files) ∧
      Run.Ends (writeInto config directory package) { machine with files, log } written after := by
  rw [write_eq given, Run.ends_entryAt_bind_iff] at ended
  rcases ended with ⟨entry, isFound, ended⟩
  cases entry with
  | some entry =>
      exact ⟨machine.files, machine.log, FileTree.Grows.refl _, rfl, ⟨_, isFound⟩, fun _ => rfl,
        ended⟩
  | none =>
      rcases Run.grows_of_ends_makeDirectories_bind ended with ⟨files, grows, refusal, later⟩
      exact ⟨files, _, grows, refusal, ⟨_, isFound⟩, fun there => absurd isFound there,
        Run.ends_report_bind_iff.mp later⟩

/-- Where the directory is there, a package is written into it at once. -/
theorem ends_write_iff_of_found {config : Config} {directory : FilePath}
    (given : config.outputDirectory = some directory) {package : Value} {machine after : Machine}
    {entry : Entry} (there : Run.found machine directory = .ok (some entry))
    {written : List FilePath} :
    Run.Ends (write config package) machine written after ↔
      Run.Ends (writeInto config directory package) machine written after := by
  rw [write_eq given, Run.ends_entryAt_bind_iff, there]
  constructor
  · rintro ⟨_, same, ended⟩
    cases same
    exact ended
  · exact fun ended => ⟨_, rfl, ended⟩

end Output
end ApiAccessors
