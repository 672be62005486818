import ApiAccessors.Proofs.Generator.Failure
import ApiAccessors.Proofs.Json.Fits
import ApiAccessors.Proofs.Package.Operations

namespace ApiAccessors

/-!
# Manifests

A manifest lists the modules of a package with their operations.  Everything in it is a text, except
that the content type of an operation comes from the document and is whatever stands there.  It
stands deeper in the document than in the manifest, so that the manifest fits if the document does.

A run with resources ends with the manifest, so what has been written there is what is found there.
-/

open Json (Fits)

namespace ContentType

variable {room : Nat} {spec : Value}

theorem choose_cases (declared : List Value) (preferred : List String) :
    (∃ name, choose declared preferred = .text name) ∨ choose declared preferred ∈ declared := by
  unfold choose
  split
  · rename_i type _ isPreferred
    unfold preferred? at isPreferred
    rcases Option.map_eq_some_iff.mp isPreferred with ⟨name, -, rfl⟩
    exact Or.inl ⟨name, rfl⟩
  · exact Or.inr List.mem_cons_self
  · exact Or.inl ⟨json, rfl⟩

theorem fits_choose {declared : List Value} (fit : ∀ type ∈ declared, Fits room type)
    (preferred : List String) : Fits room (choose declared preferred) := by
  rcases choose_cases declared preferred with ⟨name, isText⟩ | isDeclared
  · rw [isText]
    exact .text room name
  · exact fit _ isDeclared

theorem fits_declaredIn {part : Value} {types : List Value} (fits : Fits (room + 2) part)
    (found : declaredIn part = .ok types) : ∀ type ∈ types, Fits room type := by
  rcases Outcome.bind_eq_ok_iff.mp found with ⟨content, isContent, areTypes⟩
  rw [(Value.fieldOrEmpty_eq_ok_iff.mp isContent).2] at areTypes
  exact (fits.given "content").elements areTypes

theorem fits_success {operation response : Value} (fits : Fits (room + 3) operation)
    (found : success operation = .ok response) : Fits (room + 1) response := by
  rcases Outcome.bind_eq_ok_iff.mp found with ⟨responses, areResponses, later⟩
  have responsesFit := fits.given "responses"
  rw [← (Value.fieldOrEmpty_eq_ok_iff.mp areResponses).2] at responsesFit
  split at later
  · rename_i entries areEntries
    cases later
    have fit := responsesFit.of_entries? areEntries
    exact .orElse (fun _ isFound => .get? fit isFound)
      (.orElse (fun _ isFound => .get? fit isFound) (.empty room))
  · cases later

/-- The types of a request stand less deep than those of a response. -/
theorem fits_ofOperation {operation type : Value} {path method : String}
    (fits : Fits (room + 4) operation) (found : ofOperation path method operation = .ok type) :
    Fits (room + 1) type := by
  rcases Outcome.bind_eq_ok_iff.mp found with ⟨body, isBody, later⟩
  rcases Outcome.bind_eq_ok_iff.mp later with ⟨requested, areRequested, later⟩
  split at later
  · have bodyFits := fits.given "requestBody"
    rw [← (Value.fieldOrEmpty_eq_ok_iff.mp isBody).2] at bodyFits
    split at later
    · cases later
      exact .text (room + 1) mergePatch
    · cases later
      exact fits_choose (fits_declaredIn bodyFits areRequested) _
  · rcases Outcome.bind_eq_ok_iff.mp later with ⟨response, isResponse, later⟩
    rcases Outcome.bind_eq_ok_iff.mp later with ⟨answered, areAnswered, later⟩
    have fit := fits_declaredIn (fits_success fits isResponse) areAnswered
    have anyFits := fun preferred => (fits_choose fit preferred).mono (Nat.le_succ room)
    split at later
    · cases later
      exact anyFits _
    · cases later
      exact anyFits _

theorem fits_of {type : Value} {path method : String} (fits : Fits (room + 7) spec)
    (found : of spec path method = .ok type) : Fits (room + 1) type := by
  rcases Outcome.bind_eq_ok_iff.mp found with ⟨item, isItem, later⟩
  rcases Outcome.bind_eq_ok_iff.mp isItem with ⟨items, areItems, isOwn⟩
  rcases Outcome.bind_eq_ok_iff.mp later with ⟨operation, isOperation, later⟩
  have itemsFit := fits.given "paths"
  rw [← (Value.fieldOrEmpty_eq_ok_iff.mp areItems).2] at itemsFit
  have itemFits := itemsFit.given path
  rw [← (Value.fieldOrEmpty_eq_ok_iff.mp isOwn).2] at itemFits
  have operationFits := itemFits.member method
  rw [← (Value.field_eq_ok_iff.mp isOperation).2] at operationFits
  split at later
  · exact fits_ofOperation operationFits later
  · cases later
    exact .text (room + 1) json

end ContentType

theorem Operation.fits_toValue {room : Nat} {operation : Operation}
    (fits : Fits room operation.contentType) : Fits (room + 1) operation.toValue := by
  refine Fits.record ?_ ?_
  · exact (by decide : ["name", "path", "method", "content_type"].Nodup)
  · simp only [List.forall_mem_cons]
    exact ⟨.text _ _, .text _ _, .text _ _, fits, List.forall_mem_nil _⟩

theorem AccessorModule.fits_summary {room : Nat} {module : AccessorModule}
    (fit : ∀ operation ∈ module.operations, Fits room operation.contentType) :
    Fits (room + 3) module.summary := by
  refine Fits.record ?_ ?_
  · exact (by decide : ["file_name", "class_name", "resources", "methods"].Nodup)
  · simp only [List.forall_mem_cons]
    refine ⟨.text _ _, .text _ _, .list ?_, .list ?_, List.forall_mem_nil _⟩
    · intro name member
      rcases List.mem_map.mp member with ⟨resource, -, rfl⟩
      exact .text _ resource
    · intro value member
      rcases List.mem_map.mp member with ⟨operation, isOperation, rfl⟩
      exact operation.fits_toValue (fit operation isOperation)

namespace Package

variable {room : Nat} {spec : Value}

theorem fits_contentType {resources : List String} {found : List Operation}
    (fits : Fits (room + 7) spec) (ended : operations spec resources = .ok found) :
    ∀ operation ∈ found, Fits (room + 1) operation.contentType := by
  rcases operations_eq_ok_iff.mp ended with ⟨entries, -, -, described, rfl⟩
  intro operation member
  rcases List.mem_map.mp member with ⟨key, isKey, rfl⟩
  exact ContentType.fits_of fits (described key isKey).2

/-- The summaries of the modules of a document that fits, in a list, fit as well. -/
theorem fits_summaries {resources : List String} {package : Package}
    (fits : Fits (room + 7) spec) (built : (build spec resources).runLog.1 = .ok package) :
    Fits (room + 5) (.list (package.modules.map AccessorModule.summary)) := by
  rcases Logged.runLog_fst_eq_ok_iff.mp built with ⟨_, isBuilt⟩
  have emits := emits_of_build isBuilt
  apply Fits.list
  intro summary member
  rcases List.mem_map.mp member with ⟨module, isModule, rfl⟩
  exact module.fits_summary (fits_contentType fits (emits.exists_group module isModule).2.1)

end Package

namespace Output

open Run (Ends)

variable {machine after : Machine} {path : FilePath} {summaries : List Value}

/-- What the writing of a manifest needs, and what it leaves. -/
theorem ends_writeManifest_iff :
    Ends (writeManifest path summaries) machine () after ↔
      Run.isImpossible path.parent = false ∧ ∃ made,
        FileTree.makeAll machine.home path.parent true machine.files = (none, made) ∧ ∃ text,
        Json.write machine.platform.writingRoom (Json.indented 2) (.list summaries) = .ok text ∧
        Run.isImpossible path = false ∧ ∃ files,
        made.writeFile machine.home path (Text.Utf8.encode (text ++ "\n").toList) = .ok files ∧
        after = { machine with
          files
          log := machine.log ++
            [⟨.info, "resourcegen.generator", "Wrote manifest to " ++ path.text⟩] } := by
  unfold writeManifest
  simp only [Run.ends_makeDirectories_bind_iff, Run.ends_get_bind_iff, Run.ends_lift_bind_iff,
    Run.ends_writeText_bind_iff, Run.ends_report_iff]

/-- A manifest that has been written is the written form of the summaries and the end of a line. -/
theorem at?_of_ends_writeManifest (ended : Ends (writeManifest path summaries) machine () after) :
    ∃ text, Json.write machine.platform.writingRoom (Json.indented 2) (.list summaries) = .ok text ∧
      after.files.at? after.home path = some (.file (Text.Utf8.encode (text ++ "\n").toList)) := by
  rcases ends_writeManifest_iff.mp ended with ⟨-, made, -, text, isText, -, files, wrote, rfl⟩
  exact ⟨text, isText, FileTree.at?_of_writeFile wrote⟩

end Output

namespace Generator

open Run (Ends)

variable {config : Config} {effect : Types.Effect} {machine after : Machine}
  {summaries : List Value}

/-- The machine from which a package is written. -/
def informed (machine : Machine) (spec : Value) (resources : List String) : Machine :=
  { machine with
    log := machine.log ++ [⟨.info, logger,
      "Found " ++ toString resources.length ++ " resources: " ++
        ", ".intercalate (resources.mergeSort Resource.textLe)⟩] ++
      (Package.build spec resources).runLog.2 }

/-- A run with resources writes the package, and then the manifest if there is to be one. -/
theorem ends_emit_iff {spec : Value} {resources : List String} :
    Ends (emit config spec resources) machine summaries after ↔
      ∃ package written between, (Package.build spec resources).runLog.1 = .ok package ∧
        Ends (Output.write config package.toValue) (informed machine spec resources)
          written between ∧
        summaries = package.modules.map AccessorModule.summary ∧
        match config.manifestPath with
        | some path => Ends (Output.writeManifest path summaries) between () after
        | none => after = between := by
  have last : ∀ (package : Package) (between : Machine),
      Ends (do
        match config.manifestPath with
        | some path =>
            Output.writeManifest path (package.modules.map AccessorModule.summary)
        | none => pure ()
        pure (package.modules.map AccessorModule.summary)) between summaries after ↔
      summaries = package.modules.map AccessorModule.summary ∧
        match config.manifestPath with
        | some path => Ends (Output.writeManifest path summaries) between () after
        | none => after = between := by
    intro package between
    cases config.manifestPath with
    | none => exact Run.ends_pure_iff
    | some path =>
        refine Run.ends_bind_iff.trans ?_
        constructor
        · rintro ⟨_, _, wrote, ended⟩
          rcases Run.ends_pure_iff.mp ended with ⟨rfl, rfl⟩
          exact ⟨rfl, wrote⟩
        · rintro ⟨rfl, wrote⟩
          exact ⟨_, after, wrote, rfl⟩
  unfold emit
  rw [Run.ends_report_bind_iff, Run.ends_bind_iff]
  constructor
  · rintro ⟨package, _, built, ended⟩
    rcases Run.ends_logged_iff.mp built with ⟨isBuilt, rfl⟩
    rcases Run.ends_bind_iff.mp ended with ⟨written, between, wrote, ended⟩
    exact ⟨package, written, between, isBuilt, wrote, (last package between).mp ended⟩
  · rintro ⟨package, written, between, isBuilt, wrote, parts⟩
    exact ⟨package, _, Run.ends_logged_iff.mpr ⟨isBuilt, rfl⟩, Run.ends_bind_iff.mpr
      ⟨written, between, wrote, (last package between).mpr parts⟩⟩

/-- The result of a run is the summaries of a package of its document, and these are in the manifest
if there is to be one. -/
theorem exists_package_of_ends (ended : Ends (generate config effect) machine summaries after) :
    ∃ schema content spec resources package, config.schemaPath = some schema ∧
      SpecFile.contentAt machine schema = some content ∧
      SpecFile.decode machine.platform schema content = .ok spec ∧
      (Package.build spec resources).runLog.1 = .ok package ∧
      summaries = package.modules.map AccessorModule.summary ∧
      ∀ path, config.manifestPath = some path →
        ∃ between, Ends (Output.writeManifest path summaries) between () after := by
  cases checked : config.check with
  | error cause =>
      unfold generate at ended
      rw [checked] at ended
      cases ended
  | ok _ =>
      cases given : config.schemaPath with
      | none =>
          unfold generate at ended
          rw [checked, given] at ended
          cases ended
      | some schema =>
          rw [generate_eq checked given] at ended
          rcases Run.ends_bind_iff.mp ended with ⟨spec, _, loaded, ended⟩
          rcases SpecFile.ends_load_iff.mp loaded with ⟨content, found, isSpec, -⟩
          rcases Run.ends_bind_iff.mp ended with ⟨_, _, -, ended⟩
          rcases Run.ends_bind_iff.mp ended with ⟨_, _, -, ended⟩
          rcases Run.ends_lift_bind_iff.mp ended with ⟨resources, -, ended⟩
          have emitted := (Run.ends_unless_iff.mp ended).2
          rcases ends_emit_iff.mp emitted with ⟨package, _, between, built, -, areSummaries, last⟩
          refine ⟨schema, content, spec, resources, package, rfl, found, isSpec, built,
            areSummaries, ?_⟩
          intro path wanted
          rw [wanted] at last
          exact ⟨between, last⟩

end Generator

end ApiAccessors
