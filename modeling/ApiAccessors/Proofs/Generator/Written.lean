import ApiAccessors.Proofs.Generator.Output
import ApiAccessors.Proofs.Template.Imports

namespace ApiAccessors
namespace Output

/-!
# What a written package leaves

The files of a package have different names, each one part of a path, so they have different places
in their directory where no link leads away.  Then each of them holds its text in the end, whatever
the files were before; nothing else changes, and to write the package again changes nothing at all.

The contents import the classes of the modules by lines in which names are looked up in their normal
form.  A file whose name has another form is not found by its line.
-/

/-! ## Names of files -/

def fileNames (package : Package) : List String :=
  "client.py" :: (package.modules.map (·.fileName) ++ ["__init__.py"])

theorem map_packageFiles (config : Config) (package : Package) :
    (packageFiles config package).map (·.1) = fileNames package := by
  simp only [packageFiles, fileNames, List.map_cons, List.map_append, List.map_map, List.map_nil]
  rfl

theorem mem_fileNames {config : Config} {package : Package} {file : String × List UInt8}
    (member : file ∈ packageFiles config package) : file.1 ∈ fileNames package := by
  rw [← map_packageFiles config]
  exact List.mem_map.mpr ⟨file, member, rfl⟩

theorem isPlainName_of_isModuleFile {name : String} (isModule : Package.IsModuleFile name) :
    IsPlainName name := by
  rcases isModule.form with ⟨stem, digits, same, -⟩
  have letter : 'a' ∈ name.toList := by
    rw [same]
    simp only [String.toList_append, List.mem_append]
    exact Or.inl (Or.inl (Or.inr (by decide)))
  have other : ∀ text : String, 'a' ∉ text.toList → name ≠ text := by
    intro text absent same
    exact absent (same ▸ letter)
  exact ⟨isModule.no_slash, other _ (by decide), other _ (by decide), other _ (by decide)⟩

section

variable {spec : Value} {groups : List (String × List String)} {taken : List String}
  {package : Package}

theorem operations_ne_nil_of_emits (emits : Package.Emits spec taken groups package.modules) :
    ∀ module ∈ package.modules, module.operations ≠ [] :=
  fun module member => (emits.exists_group module member).2.2

theorem isModuleFile_of_emits (emits : Package.Emits spec taken groups package.modules) :
    ∀ module ∈ package.modules, Package.IsModuleFile module.fileName := by
  intro module member
  rcases emits.numbered module member with ⟨number, -, isFile⟩
  rw [isFile]
  exact Package.isModuleFile_numberedFile module.title number

theorem exists_stem_of_emits (emits : Package.Emits spec taken groups package.modules) :
    ∀ module ∈ package.modules, ∃ stem, module.fileName = stem ++ ".py" := by
  intro module member
  rcases (isModuleFile_of_emits emits module member).form with ⟨stem, digits, same, -⟩
  exact ⟨_, same⟩

theorem isPlainName_of_emits (emits : Package.Emits spec taken groups package.modules) :
    ∀ name ∈ fileNames package, IsPlainName name := by
  intro name member
  rcases List.mem_cons.mp member with isFactory | member
  · rw [isFactory]
    exact ⟨by decide, by decide, by decide, by decide⟩
  rcases List.mem_append.mp member with isModule | isContents
  · rcases List.mem_map.mp isModule with ⟨module, isModule, same⟩
    rw [← same]
    exact isPlainName_of_isModuleFile (isModuleFile_of_emits emits module isModule)
  · rw [List.mem_singleton.mp isContents]
    exact ⟨by decide, by decide, by decide, by decide⟩

theorem nodup_fileNames_of_emits (emits : Package.Emits spec taken groups package.modules) :
    (fileNames package).Nodup := by
  have others : ∀ name ∈ package.modules.map (·.fileName),
      name ≠ "client.py" ∧ name ≠ "__init__.py" := by
    intro name member
    rcases List.mem_map.mp member with ⟨module, isModule, same⟩
    rw [← same]
    exact (isModuleFile_of_emits emits module isModule).other
  rw [fileNames, List.nodup_cons, List.nodup_append]
  refine ⟨?_, emits.names_differ.2.2, List.nodup_singleton _, ?_⟩
  · intro member
    rcases List.mem_append.mp member with isModule | isContents
    · exact (others _ isModule).1 rfl
    · revert isContents
      decide
  · intro name member contents isContents
    rw [List.mem_singleton.mp isContents]
    exact (others name member).2

end

/-! ## What has been written -/

/-- A text stands in a file. -/
def Holds (tree : FileTree) (place : Location) (text : String) : Prop :=
  tree.get? place = some (.file (Text.Utf8.encode text.toList))

/-- The files of a package have different places. -/
def AreApart (package : Package) (place : String → Location) : Prop :=
  ((fileNames package).map place).Nodup

/-- What is true of the machine, and of the paths that were given, when a package has been written
into a directory.  A file is put where its path leads, and this is its name in the directory unless
a link stands there. -/
structure IsWritten (config : Config) (directory : FilePath) (package : Package)
    (before after : Machine) (written : List FilePath) (base : Location)
    (place : String → Location) : Prop where
  leads : after.files.LeadsTo after.home directory base
  located : ∀ name ∈ fileNames package,
    after.files.locate after.home (directory.join (FilePath.ofText name)) = .ok (place name)
  unlinked : ∀ name ∈ fileNames package, ¬ before.files.HasLink (base ++ [name]) →
    place name = base ++ [name]
  apart : (∀ name ∈ fileNames package, ¬ before.files.HasLink (base ++ [name])) →
    AreApart package place
  factory : ∃ text, Template.factory package.toValue (factorySettings config) = .ok text ∧
    (AreApart package place → Holds after.files (place "client.py") text)
  contents : ∃ text lines, Template.contents package.toValue = .ok text ∧
    (AreApart package place → Holds after.files (place "__init__.py") text) ∧
    Template.HasImportLines package lines text ∧
    (Template.ImportModules package.modules lines ↔
      ∀ module ∈ package.modules, Template.IsImportable module)
  modules : ∀ module ∈ package.modules, ∃ text,
    Template.accessors config.runtimeImport module.toValue = .ok text ∧
      (AreApart package place → Holds after.files (place module.fileName) text) ∧
      ∃ front behind, text = front ++ Template.classLines module.className ++ behind
  names_differ : (fileNames package).Nodup
  paths : written = package.modules.map (fun module =>
    ⟨directory.slashes, directory.parts ++ [module.fileName]⟩)
  /-- Elsewhere nothing changes, except that directories are made if the one of the package was
  missing. -/
  elsewhere : ∀ location, (∀ name ∈ fileNames package, location ≠ place name) →
    after.files.get? location = before.files.get? location ∨
      Run.found before directory = .ok none ∧ before.files.get? location = none ∧
        after.files.get? location = some .directory
  only_files : ∃ files log, after = { before with files, log }
  /-- To write the package again gives the same paths and leaves all files as they are. -/
  again : AreApart package place →
    ∃ log, Run.Ends (write config package.toValue) after written { after with log }

section

variable {config : Config} {directory : FilePath} {package : Package}

/-- A directory that has been looked at can be looked at again. -/
theorem found_of_leadsTo {before after : Machine} {entry : Option Entry} {base : Location}
    (possible : Run.isImpossible directory = false)
    (wasFound : Run.found before directory = .ok entry)
    (refusal : after.files.refusal = before.files.refusal)
    (leads : after.files.LeadsTo after.home directory base) :
    Run.found after directory = .ok (some .directory) := by
  unfold Run.found at wasFound ⊢
  rw [possible, if_neg Bool.false_ne_true] at wasFound ⊢
  unfold FileTree.look FileTree.allow at wasFound ⊢
  rw [refusal, leads.at?_eq]
  cases refused : before.files.refusal .look directory with
  | some cause =>
      rw [refused] at wasFound
      cases wasFound
  | none => rfl

theorem holds_of_mem {tree : FileTree} {place : String → Location}
    (held : ∀ file ∈ packageFiles config package,
      tree.get? (place file.1) = some (.file file.2)) {name text : String}
    (member : (name, Text.Utf8.encode text.toList) ∈ packageFiles config package) :
    Holds tree (place name) text :=
  held _ member

theorem map_place_packageFiles (place : String → Location) :
    (packageFiles config package).map (fun file => place file.1) =
      (fileNames package).map place := by
  rw [← map_packageFiles config, List.map_map]
  rfl

theorem exists_mem_packageFiles (config : Config) {name : String}
    (member : name ∈ fileNames package) : ∃ file ∈ packageFiles config package, file.1 = name := by
  rw [← map_packageFiles config] at member
  exact List.mem_map.mp member

/-- The names in the directory differ as the names do. -/
theorem areApart_of_unlinked {place : String → Location} {base : Location}
    (differ : (fileNames package).Nodup)
    (unlinked : ∀ name ∈ fileNames package, place name = base ++ [name]) :
    AreApart package place := by
  refine List.Nodup.map_on (fun name member other otherMember same => ?_) differ
  rw [unlinked _ member, unlinked _ otherMember] at same
  exact List.singleton_inj.mp (List.append_cancel_left same)

variable {start files : FileTree} {home base : Location}

/-- Where no link stood, a file is put under its name in the directory. -/
theorem place_eq_of_not_hasLink {tree : FileTree} (grows : FileTree.Grows tree start)
    (same : FileTree.SameWays start files) (leads : files.LeadsTo home directory base)
    {name : String} {place : Location} (plain : IsPlainName name)
    (located : files.locate home (directory.join (FilePath.ofText name)) = .ok place)
    (noLink : ¬ tree.HasLink (base ++ [name])) : place = base ++ [name] := by
  have stillNone : ¬ files.HasLink (base ++ [name]) := fun ⟨path, isLink⟩ =>
    noLink ⟨path, (grows.keeps.link _ _).mpr ((same.forth.link _ _).mpr isLink)⟩
  exact Except.ok.inj (located.symm.trans (leads.locate_join plain stillNone))

/-- Away from the places of the files nothing changes, except that directories are made. -/
theorem get?_putFiles_of_grows {before : Machine} {place : String → Location}
    (grows : FileTree.Grows before.files start)
    (kept : Run.found before directory ≠ .ok none → start = before.files)
    (places : start.HavePlaces home directory (packageFiles config package) place)
    {location : Location} (apart : ∀ name ∈ fileNames package, location ≠ place name) :
    let after := FileTree.putFiles place (packageFiles config package) start
    after.get? location = before.files.get? location ∨
      Run.found before directory = .ok none ∧ before.files.get? location = none ∧
        after.get? location = some .directory := by
  intro after
  have unchanged : after.get? location = start.get? location :=
    FileTree.get?_putFiles_of_ne (fun file member => (places file member).inside)
      (fun file member => apart _ (mem_fileNames member))
  rcases grows location with asBefore | ⟨missing, made⟩
  · exact Or.inl (unchanged.trans asBefore)
  · refine Or.inr ⟨?_, missing, unchanged.trans made⟩
    by_contra there
    rw [kept there, missing] at made
    cases made

end

theorem isWritten_of_ends {spec : Value} {resources : List String} {package : Package}
    (built : (Package.build spec resources).runLog.1 = .ok package) {config : Config}
    {before after : Machine} {written : List FilePath}
    (ended : Run.Ends (write config package.toValue) before written after) :
    ∃ directory base place, config.outputDirectory = some directory ∧
      IsWritten config directory package before after written base place := by
  rcases Logged.runLog_fst_eq_ok_iff.mp built with ⟨_, isBuilt⟩
  have emits := Package.emits_of_build isBuilt
  have notEmpty := operations_ne_nil_of_emits emits
  have differ := nodup_fileNames_of_emits emits
  have plain := isPlainName_of_emits emits
  rcases exists_outputDirectory_of_ends ended with ⟨directory, given⟩
  rcases ends_writeInto_of_ends_write given ended with
    ⟨start, _, grows, refusal, ⟨entry, wasFound⟩, kept, into⟩
  rcases (ends_writeInto_iff notEmpty).mp into with ⟨can, areWritten, files, wrote, isAfter⟩
  rcases FileTree.writeFiles_eq_ok_iff.mp wrote with ⟨place, places, isFiles⟩
  have same := places.sameWays_putFiles
  rw [← isFiles] at same
  have places' := places.of_sameWays same
  have placed (name : String) (member : name ∈ fileNames package) :
      files.IsPlace before.home (directory.join (FilePath.ofText name)) (place name) := by
    rcases exists_mem_packageFiles config member with ⟨file, isFile, rfl⟩
    exact places' file isFile
  have factoryPlaced := placed "client.py" List.mem_cons_self
  rcases FileTree.exists_leadsTo_of_locate (plain _ List.mem_cons_self) factoryPlaced.located with
    ⟨base, leads, -⟩
  have unlinked (name : String) (member : name ∈ fileNames package)
      (noLink : ¬ before.files.HasLink (base ++ [name])) : place name = base ++ [name] :=
    place_eq_of_not_hasLink grows same leads (plain name member) (placed name member).located noLink
  have holds (apart : AreApart package place) := by
    refine places.holds (?_ : ((packageFiles config package).map _).Nodup)
    rw [map_place_packageFiles]
    exact apart
  rw [← isFiles] at holds
  -- The log is the only other part of the machine that changes, and nothing depends on it.
  have changed : ∃ log, after = { before with files, log } := ⟨_, isAfter⟩
  rcases changed with ⟨log, rfl⟩
  refine ⟨directory, base, place, given, ?_⟩
  constructor
  case leads => exact leads
  case located => exact fun name member => (placed name member).located
  case unlinked => exact unlinked
  case apart =>
    exact fun noLinks => areApart_of_unlinked differ (fun name member =>
      unlinked name member (noLinks name member))
  case factory =>
    exact ⟨_, can.factory_ends, fun apart =>
      holds_of_mem (holds apart).1 (factory_mem_packageFiles config package)⟩
  case contents =>
    rcases Template.exists_importLines_of_contents (exists_stem_of_emits emits)
      can.contents_ends with ⟨lines, hasLines⟩
    exact ⟨_, lines, can.contents_ends, fun apart =>
      holds_of_mem (holds apart).1 (contents_mem_packageFiles config package),
      hasLines, Template.importModules_iff hasLines.areImports⟩
  case modules =>
    intro module member
    have ends := (can.modules module member).ends
    exact ⟨_, ends, fun apart =>
      holds_of_mem (holds apart).1 (moduleFile_mem_packageFiles config package member),
      Template.exists_classLines (notEmpty module member) ends⟩
  case names_differ => exact differ
  case paths =>
    rw [areWritten]
    apply List.map_congr_left
    intro module member
    exact FilePath.join_ofText_of_isPlainName
      (isPlainName_of_isModuleFile (isModuleFile_of_emits emits module member)) directory
  case elsewhere =>
    intro location apart
    have found := get?_putFiles_of_grows grows kept places apart
    rw [← isFiles] at found
    exact found
  case only_files => exact ⟨files, log, rfl⟩
  case again =>
    intro apart
    have there : Run.found { before with files, log } directory = .ok (some .directory) :=
      found_of_leadsTo can.possible wasFound (same.refusal.symm.trans refusal) leads
    have again : Run.Ends (writeInto config directory package.toValue)
        { before with files, log } written
        { before with files, log := log ++ packageEntries directory package } :=
      (ends_writeInto_iff notEmpty).mpr ⟨can, areWritten, files, (holds apart).2, rfl⟩
    exact ⟨_, (ends_write_iff_of_found given there).mpr again⟩

/-- A package is written into a directory that is there and has nothing of its names in it. -/
theorem ends_write_of_unused {config : Config} {directory : FilePath}
    (given : config.outputDirectory = some directory) {spec : Value}
    {groups : List (String × List String)} {taken : List String} {package : Package}
    (emits : Package.Emits spec taken groups package.modules)
    (possible : ∀ name ∈ "client.py" :: "__init__.py" :: package.modules.map (·.fileName),
      Run.isImpossible (directory.join (FilePath.ofText name)) = false)
    {machine : Machine} {base : Location}
    (leads : machine.files.LeadsTo machine.home directory base)
    (there : Run.found machine directory = .ok (some .directory))
    (allowed : ∀ name ∈ fileNames package,
      machine.files.refusal .write (directory.join (FilePath.ofText name)) = none)
    (unused : ∀ name ∈ fileNames package, machine.files.get? (base ++ [name]) = none) :
    Run.Ends (write config package.toValue) machine (package.modules.map (modulePath directory))
      { machine with
        files := FileTree.putFiles (fun name => base ++ [name]) (packageFiles config package)
          machine.files
        log := machine.log ++ packageEntries directory package } := by
  have notEmpty := operations_ne_nil_of_emits emits
  have places : machine.files.HavePlaces machine.home directory (packageFiles config package)
      (fun name => base ++ [name]) := by
    intro file isFile
    have member := mem_fileNames isFile
    have noLink : ¬ machine.files.HasLink (base ++ [file.1]) := fun ⟨_, isLink⟩ => by
      rw [unused _ member] at isLink
      cases isLink
    refine ⟨allowed _ member, leads.locate_join (isPlainName_of_emits emits _ member) noLink, ?_⟩
    rw [unused _ member]
    exact fun isDirectory => by cases isDirectory
  exact (ends_write_iff_of_found given there).mpr ((ends_writeInto_iff notEmpty).mpr
    ⟨canWrite_of_possible notEmpty (exists_stem_of_emits emits) possible, rfl, _,
      FileTree.writeFiles_eq_ok_iff.mpr ⟨_, places, rfl⟩, rfl⟩)

/-- A machine with one directory, in which there is one file. -/
private def machineWithNotes : Machine :=
  .start .usual { entries := [(["out"], .directory), (["out", "notes"], .file [])] } []
    ⟨none, 0, none⟩

private def configOfOut : Config where
  schemaPath := none
  outputDirectory := some ⟨1, ["out"]⟩
  runtimeImport := .text Config.defaultRuntime
  apiPrefix := .text ""
  baseUrl := .text Config.defaultBaseUrl
  tokenVariable := .text Config.defaultTokenVariable
  generateTypes := .bool false
  typesPath := none
  manifestPath := none

/-- A package can be written beside the notes if its names are ones that files can have. -/
private theorem exists_ends_write {spec : Value} {groups : List (String × List String)}
    {taken : List String} {package : Package}
    (emits : Package.Emits spec taken groups package.modules)
    (possible : ∀ name ∈ "client.py" :: "__init__.py" :: package.modules.map (·.fileName),
      Run.isImpossible (FilePath.join ⟨1, ["out"]⟩ (FilePath.ofText name)) = false)
    (unused : ∀ name ∈ fileNames package, machineWithNotes.files.get? ["out", name] = none) :
    ∃ written after, Run.Ends (write configOfOut package.toValue) machineWithNotes written after :=
  ⟨_, _, ends_write_of_unused rfl emits possible ⟨rfl, rfl⟩ rfl (fun _ _ => rfl) unused⟩

theorem isWritten_of_ends_twoVersions :
    ∃ package written after base place,
      (Package.build Package.twoVersions ["v1.2", "v12"]).runLog.1 = .ok package ∧
      package.modules.map (·.fileName) = ["v12_api.py", "v12_api1.py"] ∧
      Run.Ends (write configOfOut package.toValue) machineWithNotes written after ∧
      IsWritten configOfOut ⟨1, ["out"]⟩ package machineWithNotes after written base place := by
  rcases Option.map_eq_some_iff.mp Package.build_twoVersions with ⟨package, ended, names⟩
  have built := Outcome.toOption_eq_some_iff.mp ended
  have areNames : package.modules.map (·.fileName) = ["v12_api.py", "v12_api1.py"] := by
    have second := congrArg (List.map Prod.snd) names
    rw [List.map_map] at second
    exact second
  rcases Logged.runLog_fst_eq_ok_iff.mp built with ⟨_, isBuilt⟩
  have writable : ∃ written after,
      Run.Ends (write configOfOut package.toValue) machineWithNotes written after := by
    apply exists_ends_write (Package.emits_of_build isBuilt)
    · rw [areNames]
      decide
    · rw [fileNames, areNames]
      decide
  rcases writable with ⟨written, after, ended⟩
  rcases isWritten_of_ends built ended with ⟨directory, base, place, given, isWritten⟩
  cases given
  exact ⟨package, written, after, base, place, built, areNames, ended, isWritten⟩

/-- A document with a resource whose name has a ligature. -/
def ligature : Value :=
  .record [("paths", .record [("/api/oﬃce", .record [("get", .record [])])])]

private theorem build_ligature :
    (Package.build ligature ["oﬃce"]).runLog.1.toOption.map (fun package =>
      package.modules.map (fun module => (module.className, module.fileName))) =
        some [("OﬃceApi", "oﬃce_api.py")] := by
  have lists : Resource.Lists ligature [
      (.text "/api/oﬃce", .record [("get", .record [])])] := ⟨_, rfl, rfl⟩
  have routed : Resource.AllRouted ligature [
      (.text "/api/oﬃce", .record [("get", .record [])])] := by
    unfold Resource.AllRouted
    decide
  have paths := lists.pathsOf_of_pairwise routed "oﬃce" (by decide)
  have groups : Package.group ["oﬃce"] = [("Oﬃce", ["oﬃce"])] := by
    apply Package.group_of_pairwise
    all_goals decide +kernel
  simp only [Package.build, groups, Package.buildModules, Package.buildModule, Package.operations,
    Package.pathsOf, paths]
  decide +kernel

/-- The line that imports the module of a resource with a ligature in its name asks for another
file than the one that is written. -/
theorem ligature_not_imported :
    ∃ package written after text,
      (Package.build ligature ["oﬃce"]).runLog.1 = .ok package ∧
      Run.Ends (write configOfOut package.toValue) machineWithNotes written after ∧
      fileNames package = ["client.py", "oﬃce_api.py", "__init__.py"] ∧
      Template.contents package.toValue = .ok text ∧
      Template.HasImportLines package ["from .oﬃce_api import OﬃceApi\n"] text ∧
      Template.Imports "from .oﬃce_api import OﬃceApi\n" "office_api" "OfficeApi" ∧
      ¬ Template.ImportModules package.modules ["from .oﬃce_api import OﬃceApi\n"] := by
  rcases Option.map_eq_some_iff.mp build_ligature with ⟨package, ended, names⟩
  have built := Outcome.toOption_eq_some_iff.mp ended
  rcases Logged.runLog_fst_eq_ok_iff.mp built with ⟨_, isBuilt⟩
  have emits := Package.emits_of_build isBuilt
  rcases List.map_eq_singleton_iff.mp names with ⟨module, modules, isNamed⟩
  rcases Prod.mk.inj isNamed with ⟨isClass, isFile⟩
  have areNames : fileNames package = ["client.py", "oﬃce_api.py", "__init__.py"] := by
    rw [fileNames, modules, List.map_singleton, isFile]
    rfl
  have writable : ∃ written after,
      Run.Ends (write configOfOut package.toValue) machineWithNotes written after := by
    apply exists_ends_write emits
    · rw [modules, List.map_singleton, isFile]
      decide +kernel
    · rw [areNames]
      decide
  rcases writable with ⟨written, after, ended⟩
  rcases Template.exists_contents (exists_stem_of_emits emits) with ⟨text, isText⟩
  rcases Template.exists_importLines_of_contents (exists_stem_of_emits emits) isText with
    ⟨lines, hasLines⟩
  have areLines := hasLines.areImports
  rw [modules, List.forall₂_cons_left_iff] at areLines
  rcases areLines with ⟨line, rest, ⟨stem, isStem, isLine⟩, noMore, rfl⟩
  cases noMore
  have sameStem : stem = "oﬃce_api" :=
    (String.append_left_inj ".py").mp (isStem.symm.trans isFile)
  rw [sameStem, isClass] at isLine
  change line = "from .oﬃce_api import OﬃceApi\n" at isLine
  have imports : Template.Imports "from .oﬃce_api import OﬃceApi\n"
      (Text.lookedUp "oﬃce_api") (Text.lookedUp "OﬃceApi") :=
    .intro (by decide +kernel) (by decide +kernel) (by decide +kernel)
  have stemForm : Text.lookedUp "oﬃce_api" = "office_api" := by decide +kernel
  have classForm : Text.lookedUp "OﬃceApi" = "OfficeApi" := by decide +kernel
  rw [stemForm, classForm] at imports
  rw [isLine] at hasLines
  refine ⟨package, written, after, text, built, ended, areNames, isText, hasLines, imports, ?_⟩
  rw [Template.importModules_iff hasLines.areImports, modules, List.forall_mem_singleton]
  rintro ⟨other, isOther, -, -, isNormal⟩
  have same : other = "oﬃce_api" := (String.append_left_inj ".py").mp (isOther.symm.trans isFile)
  rw [same, stemForm] at isNormal
  exact absurd isNormal (by decide)

end Output
end ApiAccessors
