import ApiAccessors.Generator.Generate
import ApiAccessors.Proofs.Generator.Accepted
import ApiAccessors.Proofs.Generator.Loading
import ApiAccessors.Proofs.Generator.Output

namespace ApiAccessors

/-!
# Runs that fail

What a run leaves of the files when it stops with one of the problems that it tells its user about.
Reading and checking the document only reports.  The place of the types is prepared before their
program is looked for and before the resources are counted, so directories that were made for them
stay.  Once there are resources, a run can only stop at faults.
-/

open Run (Ends Stops OnlyReports OnlyFaults)

namespace SpecFile

theorem onlyReports_load (path : FilePath) : OnlyReports (load path) := by
  unfold load
  apply (OnlyReports.entryAt path).bind
  intro entry
  split
  · apply (OnlyReports.report _ _ _).bind
    intro _
    refine OnlyReports.get.bind (fun _ => (OnlyReports.permit _).bind (fun _ => ?_))
    split
    · exact OnlyReports.pure _
    · exact OnlyReports.throw _
  · exact OnlyReports.throw _

theorem onlyReports_check (spec : Value) : OnlyReports (check spec) := by
  unfold check
  refine (OnlyReports.lift _).bind (fun _ => (OnlyReports.lift _).bind (fun _ => ?_))
  apply OnlyReports.guarded
  refine (OnlyReports.lift _).bind (fun _ => ?_)
  apply OnlyReports.guarded
  refine (OnlyReports.lift _).bind (fun _ => (OnlyReports.report _ _ _).bind (fun _ => ?_))
  refine (OnlyReports.lift _).bind (fun _ => (OnlyReports.report _ _ _).bind (fun _ => ?_))
  exact (OnlyReports.lift _).bind (fun _ => OnlyReports.report _ _ _)

end SpecFile

namespace Output

theorem onlyFaults_writeModule (directory : FilePath) (runtimeImport unit : Value) :
    OnlyFaults (writeModule directory runtimeImport unit) := by
  unfold writeModule
  refine (OnlyFaults.lift _).bind (fun text => OnlyFaults.ite ?_ ?_)
  · refine (OnlyFaults.lift _).bind (fun _ => (OnlyFaults.report _ _ _).bind (fun _ => ?_))
    exact OnlyFaults.pure _
  · refine (OnlyFaults.lift _).bind (fun _ => (OnlyFaults.lift _).bind (fun _ => ?_))
    refine (OnlyFaults.writeText _ _).bind (fun _ => (OnlyFaults.lift _).bind (fun _ => ?_))
    refine (OnlyFaults.lift _).bind (fun _ => (OnlyFaults.report _ _ _).bind (fun _ => ?_))
    exact OnlyFaults.pure _

theorem onlyFaults_writeModules (directory : FilePath) (runtimeImport : Value)
    (units : List Value) : OnlyFaults (writeModules directory runtimeImport units) := by
  induction units with
  | nil => exact OnlyFaults.pure _
  | cons unit rest ih =>
      exact (onlyFaults_writeModule _ _ unit).bind
        (fun _ => ih.bind (fun _ => OnlyFaults.pure _))

theorem onlyFaults_writeInto (config : Config) (directory : FilePath) (package : Value) :
    OnlyFaults (writeInto config directory package) := by
  unfold writeInto
  refine (OnlyFaults.lift _).bind (fun _ => (OnlyFaults.writeText _ _).bind (fun _ => ?_))
  refine (OnlyFaults.report _ _ _).bind (fun _ => (OnlyFaults.lift _).bind (fun _ => ?_))
  refine (onlyFaults_writeModules _ _ _).bind (fun _ => (OnlyFaults.lift _).bind (fun _ => ?_))
  refine (OnlyFaults.writeText _ _).bind (fun _ => (OnlyFaults.lift _).bind (fun _ => ?_))
  exact (OnlyFaults.report _ _ _).bind (fun _ => OnlyFaults.pure _)

theorem onlyFaults_write (config : Config) (package : Value) :
    OnlyFaults (write config package) := by
  cases given : config.outputDirectory with
  | none =>
      unfold write
      rw [given]
      exact OnlyFaults.stop _
  | some directory =>
      have later := onlyFaults_writeInto config directory package
      rw [write_eq given]
      refine (OnlyFaults.entryAt _).bind (fun entry => OnlyFaults.ite ?_ later)
      exact (OnlyFaults.makeDirectories _ _).bind
        (fun _ => (OnlyFaults.report _ _ _).bind (fun _ => later))

theorem onlyFaults_writeManifest (path : FilePath) (summaries : List Value) :
    OnlyFaults (writeManifest path summaries) := by
  unfold writeManifest
  refine (OnlyFaults.makeDirectories _ _).bind (fun _ => OnlyFaults.get.bind (fun _ => ?_))
  refine (OnlyFaults.lift _).bind (fun _ => (OnlyFaults.writeText _ _).bind (fun _ => ?_))
  exact OnlyFaults.report _ _ _

end Output

namespace Types

variable {schema target : FilePath} {effect : Effect} {machine after : Machine}
  {outcome : Except Problem Unit}

/-- What comes of the external program, and which files it leaves, once the place of the types is
there. -/
inductive Yields (tool : Tool) (effect : Effect) (schema target : FilePath) (made : FileTree) :
    Except Problem Unit → FileTree → Prop
  | missing (nowhere : tool.place = none) :
      Yields tool effect schema target made (.error (.generation .noTool)) made
  | failed {place : String} (found : tool.place = some place) (fails : tool.status ≠ 0) :
      Yields tool effect schema target made (.error (.generation (.toolFailed (detail tool))))
        (effect (command place schema target) made)
  | ended {place : String} (found : tool.place = some place) (succeeds : tool.status = 0) :
      Yields tool effect schema target made (.ok ()) (effect (command place schema target) made)

namespace Yields

variable {tool : Tool} {made left : FileTree} {problem : Problem}

/-- A program that leaves files alone when it fails leaves those that it found. -/
theorem of_error (leavesAlone : tool.status ≠ 0 → ∀ arguments files, effect arguments files = files)
    (yields : Yields tool effect schema target made (.error problem) left) :
    (∃ cause, problem = .generation cause) ∧ left = made := by
  cases yields with
  | missing nowhere => exact ⟨⟨_, rfl⟩, rfl⟩
  | failed found fails => exact ⟨⟨_, rfl⟩, leavesAlone fails _ _⟩

theorem of_ok (yields : Yields tool effect schema target made (.ok ()) left) :
    tool.status = 0 ∧ ∃ place, tool.place = some place ∧
      left = effect (command place schema target) made := by
  cases yields with
  | ended found succeeds => exact ⟨succeeds, _, found, rfl⟩

end Yields

theorem cases_generate (ran : (generate schema target effect).run.run machine = (outcome, after)) :
    (∃ cause, outcome = .error (.fault cause)) ∨
      ∃ made, FileTree.makeAll machine.home target.parent true machine.files = (none, made) ∧
        Yields machine.tool effect schema target made outcome after.files := by
  rcases machine with ⟨platform, files, home, ⟨place?, status, complaint⟩, commands, log⟩
  unfold generate at ran
  rw [ExceptT.run_bind, StateT.run_bind] at ran
  rcases making : (Run.makeDirectories target.parent true).run.run _ with ⟨problem | _, between⟩
  · rw [making] at ran
    rcases OnlyFaults.makeDirectories _ _ _ _ _ making with ⟨cause, isFault⟩
    cases ran
    exact Or.inl ⟨cause, by rw [isFault]⟩
  · rcases Run.ends_makeDirectories_iff.mp making with ⟨-, made, made_eq, same⟩
    rw [making, same] at ran
    refine Or.inr ⟨made, made_eq, ?_⟩
    cases place? with
    | none =>
        cases ran
        exact .missing rfl
    | some place =>
        change StateT.run (ExceptT.run (if (status != 0) = true then _ else _)) _ = _ at ran
        by_cases succeeds : status = 0
        · rw [if_neg (by simpa using succeeds)] at ran
          cases ran
          exact .ended rfl succeeds
        · rw [if_pos (by simpa using succeeds)] at ran
          cases ran
          exact .failed rfl succeeds

end Types

namespace Generator

variable {config : Config} {schema : FilePath} {effect : Types.Effect} {machine after : Machine}
  {problem : Problem}

/-- The place of the types has been made, with the directories above it that were missing. -/
structure Prepares (config : Config) (machine : Machine) (target : FilePath)
    (made : FileTree) : Prop where
  target_eq : config.typesTarget = .ok target
  made_eq : FileTree.makeAll machine.home target.parent true machine.files = (none, made)

theorem Prepares.growsAlong {target : FilePath} {made : FileTree}
    (prepares : Prepares config machine target made) :
    FileTree.GrowsAlong machine.home target.parent machine.files made := by
  have along := FileTree.GrowsAlong.makeAll machine.home target.parent true machine.files
  rwa [prepares.made_eq] at along

theorem makeTypes_eq_pure (unasked : config.generateTypes.truthy = false) :
    makeTypes config schema effect = pure () := by
  unfold makeTypes
  rw [unasked]
  rfl

theorem cases_makeTypes (asked : config.generateTypes.truthy = true) {outcome : Except Problem Unit}
    (ran : (makeTypes config schema effect).run.run machine = (outcome, after)) :
    (∃ cause, outcome = .error (.fault cause)) ∨
      ∃ target made, Prepares config machine target made ∧
        Types.Yields machine.tool effect schema target made outcome after.files := by
  unfold makeTypes at ran
  rw [if_pos asked] at ran
  cases isTarget : config.typesTarget with
  | error fault =>
      rw [isTarget] at ran
      cases ran
      exact Or.inl ⟨fault, rfl⟩
  | ok target =>
      rw [isTarget] at ran
      rcases Types.cases_generate ran with isFault | ⟨made, made_eq, yields⟩
      · exact Or.inl isFault
      · exact Or.inr ⟨target, made, ⟨isTarget, made_eq⟩, yields⟩

theorem generate_eq (checked : config.check = .ok ()) (given : config.schemaPath = some schema) :
    generate config effect = (do
      let spec ← SpecFile.load schema
      SpecFile.check spec
      finish config schema effect spec) := by
  unfold generate
  rw [checked, given]

theorem onlyFaults_emit (config : Config) (spec : Value) (resources : List String) :
    OnlyFaults (emit config spec resources) := by
  unfold emit
  refine (OnlyFaults.report _ _ _).bind (fun _ => (OnlyFaults.logged _).bind (fun package => ?_))
  refine (Output.onlyFaults_write _ _).bind (fun _ => ?_)
  cases config.manifestPath with
  | some path =>
      exact (Output.onlyFaults_writeManifest _ _).bind (fun _ => OnlyFaults.pure _)
  | none => exact (OnlyFaults.pure ()).bind (fun _ => OnlyFaults.pure _)

theorem cases_of_stops_finish {spec : Value} (foreseen : ∀ cause, problem ≠ .fault cause)
    (stopped : Stops (finish config schema effect spec) machine problem after) :
    Stops (makeTypes config schema effect) machine problem after ∨
      problem = .generation .noResources ∧
        Ends (makeTypes config schema effect) machine () after := by
  rcases Run.stops_bind_iff.mp stopped with stopped | ⟨_, typed, made, stopped⟩
  · exact Or.inl stopped
  · rcases Run.stops_bind_iff.mp stopped with stopped | ⟨resources, found, isFound, stopped⟩
    · rcases OnlyFaults.lift _ _ _ _ stopped with ⟨cause, isFault⟩
      exact False.elim (foreseen cause isFault)
    · rw [(Run.ends_lift_iff.mp isFound).2] at stopped
      cases empty : resources.isEmpty with
      | true =>
          rw [empty] at stopped
          cases stopped
          exact Or.inr ⟨rfl, made⟩
      | false =>
          rw [empty] at stopped
          rcases onlyFaults_emit _ _ _ _ _ _ stopped with ⟨cause, isFault⟩
          exact False.elim (foreseen cause isFault)

theorem stops_finish_of_all_eq_nil {spec : Value}
    (made : Ends (makeTypes config schema effect) machine () after)
    (noResources : Resource.all spec = .ok []) :
    Stops (finish config schema effect spec) machine (.generation .noResources) after := by
  unfold finish
  rw [noResources]
  exact Run.stops_bind_iff.mpr (Or.inr ⟨(), after, made, rfl⟩)

/-- Where a run stops that does not stop at a fault: before the types are made, while they are, or
right after that for want of resources. -/
theorem cases_of_stops (foreseen : ∀ cause, problem ≠ .fault cause)
    (stopped : Stops (generate config effect) machine problem after) :
    after.files = machine.files ∨ ∃ schema log, config.schemaPath = some schema ∧
      (Stops (makeTypes config schema effect) { machine with log } problem after ∨
        problem = .generation .noResources ∧
          Ends (makeTypes config schema effect) { machine with log } () after) := by
  cases checked : config.check with
  | error cause =>
      unfold generate at stopped
      rw [checked] at stopped
      cases stopped
      exact Or.inl rfl
  | ok _ =>
      cases given : config.schemaPath with
      | none =>
          unfold generate at stopped
          rw [checked, given] at stopped
          cases stopped
          exact Or.inl rfl
      | some schema =>
          rw [generate_eq checked given] at stopped
          have loads := SpecFile.onlyReports_load schema
          rcases Run.stops_bind_iff.mp stopped with stopped | ⟨spec, loaded, ended, stopped⟩
          · rcases loads.of_stops stopped with ⟨log, rfl⟩
            exact Or.inl rfl
          · rcases loads.of_ends ended with ⟨log, rfl⟩
            have checks := SpecFile.onlyReports_check spec
            rcases Run.stops_bind_iff.mp stopped with stopped | ⟨_, accepted, ended, stopped⟩
            · rcases checks.of_stops stopped with ⟨log, rfl⟩
              exact Or.inl rfl
            · rcases checks.of_ends ended with ⟨log, rfl⟩
              exact Or.inr ⟨schema, log, rfl, cases_of_stops_finish foreseen stopped⟩

/-- A run that gets as far as an accepted document goes on as if it had begun there. -/
theorem exists_generate_eq_finish {content : List UInt8} {spec : Value}
    (checked : config.check = .ok ()) (given : config.schemaPath = some schema)
    (found : SpecFile.contentAt machine schema = some content)
    (decoded : SpecFile.decode machine.platform schema content = .ok spec)
    (accepted : SpecFile.IsAccepted spec) :
    ∃ log, (generate config effect).run.run machine =
      (finish config schema effect spec).run.run { machine with log } := by
  have loaded := SpecFile.ends_load_iff.mpr ⟨content, found, decoded, rfl⟩
  rcases SpecFile.exists_ends_check_iff.mpr accepted with ⟨between, isChecked⟩
  rcases (SpecFile.onlyReports_check spec).of_ends isChecked with ⟨log, rfl⟩
  refine ⟨log, ?_⟩
  rw [generate_eq checked given, Run.run_bind_of_ends loaded, Run.run_bind_of_ends isChecked]
  rfl

/-- A document with one path that belongs to no resource. -/
def strayPath : Value :=
  .map [(.text "openapi", .text "3.1.0"), (.text "paths", .map [(.text "/health", .map [])])]

def strayPathText : List Char :=
  "\x7b\"openapi\":\"3.1.0\",\"paths\":\x7b\"/health\":\x7b\x7d\x7d\x7d".toList

theorem decode_strayPath :
    SpecFile.decode .usual ⟨0, ["api.json"]⟩ (Text.Utf8.encode strayPathText) = .ok strayPath := by
  have isInterchange : SpecFile.IsInterchange ⟨0, ["api.json"]⟩ := by
    unfold SpecFile.IsInterchange
    decide
  have characters : strayPathText = _ := String.toList_ofList
  have read : Json.read Platform.usual.readingRoom (Text.unifyLines strayPathText) =
      .ok strayPath := by
    rw [characters]
    rfl
  have isRead := (SpecFile.readText_eq_ok_iff isInterchange).mpr read
  rw [SpecFile.decode_encode_of_ok isRead]
  rfl

theorem isAccepted_strayPath : SpecFile.IsAccepted strayPath :=
  ⟨rfl, by decide, ⟨_, rfl, by decide⟩, rfl⟩

/-- A place where the document is, and nothing else. -/
def bareMachine (tool : Tool) : Machine :=
  Machine.start .usual ⟨[(["api.json"], .file (Text.Utf8.encode strayPathText))], fun _ _ => none⟩
    [] tool

/-- The same place with the program that makes types. -/
def furnishedMachine : Machine :=
  bareMachine ⟨some "tool", 0, none⟩

/-- Settings that ask for the types. -/
def typedConfig : Config :=
  ⟨some ⟨0, ["api.json"]⟩, some ⟨0, ["out"]⟩, .text "runtime", .text "", .text "", .text "",
    .bool true, none, none⟩

theorem exists_generate_bareMachine (effect : Types.Effect) (tool : Tool) :
    ∃ log, (generate typedConfig effect).run.run (bareMachine tool) =
      (finish typedConfig ⟨0, ["api.json"]⟩ effect strayPath).run.run
        { bareMachine tool with log } :=
  exists_generate_eq_finish rfl rfl rfl decode_strayPath isAccepted_strayPath

/-- A program that writes one file. -/
def writesTypes : Types.Effect :=
  fun _ files => files.put ["out", "models.py"] (.file [])

theorem exists_stops_without_resources :
    ∃ after, Stops (generate typedConfig writesTypes) furnishedMachine
      (.generation .noResources) after := by
  rcases exists_generate_bareMachine writesTypes ⟨some "tool", 0, none⟩ with ⟨log, same⟩
  have noResources : Resource.all strayPath = .ok [] := by decide
  have made : ∃ after, Ends (makeTypes typedConfig ⟨0, ["api.json"]⟩ writesTypes)
      { furnishedMachine with log } () after := ⟨_, rfl⟩
  rcases made with ⟨after, made⟩
  exact ⟨after, same.trans (stops_finish_of_all_eq_nil made noResources)⟩

/-- A run that stops with one of the problems it tells its user about leaves the files as they were,
unless the types are asked for.  Then it may have made directories on the way to their place, and
the program that makes them has done its work if only the resources were missing after that. -/
theorem files_of_stops
    (leavesAlone : machine.tool.status ≠ 0 → ∀ arguments files, effect arguments files = files)
    (foreseen : ∀ cause, problem ≠ .fault cause)
    (stopped : Stops (generate config effect) machine problem after) :
    after.files = machine.files ∨
      config.generateTypes.truthy = true ∧ ∃ cause schema target made,
        problem = .generation cause ∧ config.schemaPath = some schema ∧
          Prepares config machine target made ∧
          FileTree.GrowsAlong machine.home target.parent machine.files made ∧
          (after.files = made ∨ cause = .noResources ∧ machine.tool.status = 0 ∧
            ∃ place, machine.tool.place = some place ∧
              after.files = effect (Types.command place schema target) made) := by
  rcases cases_of_stops foreseen stopped with same | ⟨schema, log, given, stopped⟩
  · exact Or.inl same
  · cases asked : config.generateTypes.truthy with
    | false =>
        rw [makeTypes_eq_pure asked] at stopped
        rcases stopped with stopped | ⟨-, ended⟩
        · exact False.elim (Run.not_stops_pure stopped)
        · rw [(Run.ends_pure_iff.mp ended).2]
          exact Or.inl rfl
    | true =>
        rcases stopped with stopped | ⟨isProblem, ended⟩
        · rcases cases_makeTypes asked stopped with
            ⟨cause, isFault⟩ | ⟨target, made, prepares, yields⟩
          · exact False.elim (foreseen cause (Except.error.inj isFault))
          · rcases yields.of_error leavesAlone with ⟨⟨cause, isProblem⟩, left⟩
            exact Or.inr ⟨rfl, cause, schema, target, made, isProblem, given,
              ⟨prepares.target_eq, prepares.made_eq⟩, prepares.growsAlong, Or.inl left⟩
        · rcases cases_makeTypes asked ended with
            ⟨cause, isFault⟩ | ⟨target, made, prepares, yields⟩
          · cases isFault
          · rcases yields.of_ok with ⟨succeeds, place, found, left⟩
            exact Or.inr ⟨rfl, .noResources, schema, target, made, isProblem, given,
              ⟨prepares.target_eq, prepares.made_eq⟩, prepares.growsAlong,
              Or.inr ⟨rfl, succeeds, place, found, left⟩⟩

/-- A document without resources is only noticed as one after its types were made. -/
theorem files_of_stops_without_resources :
    ∃ after, Stops (generate typedConfig writesTypes) furnishedMachine
        (.generation .noResources) after ∧
      (after.files = furnishedMachine.files ∨
        typedConfig.generateTypes.truthy = true ∧ ∃ cause schema target made,
          Problem.generation .noResources = .generation cause ∧
            typedConfig.schemaPath = some schema ∧
            Prepares typedConfig furnishedMachine target made ∧
            FileTree.GrowsAlong furnishedMachine.home target.parent furnishedMachine.files made ∧
            (after.files = made ∨ cause = .noResources ∧ furnishedMachine.tool.status = 0 ∧
              ∃ place, furnishedMachine.tool.place = some place ∧
                after.files = writesTypes (Types.command place schema target) made)) := by
  rcases exists_stops_without_resources with ⟨after, stopped⟩
  have leavesAlone : furnishedMachine.tool.status ≠ 0 →
      ∀ arguments files, writesTypes arguments files = files :=
    fun fails => absurd rfl fails
  exact ⟨after, stopped, files_of_stops leavesAlone (by simp) stopped⟩

/-- A program that cannot be found is only noticed once the place of the types is there. -/
theorem missing_tool_leaves_directory :
    ¬∀ (config : Config) (effect : Types.Effect) (machine after : Machine) (problem : Problem),
      (machine.tool.status ≠ 0 → ∀ arguments files, effect arguments files = files) →
        (∀ cause, problem ≠ .fault cause) →
          Stops (generate config effect) machine problem after → after.files = machine.files := by
  intro untouched
  rcases exists_generate_bareMachine Types.idle ⟨none, 0, none⟩ with ⟨log, same⟩
  have sought : ∃ after, after.files.at? [] ⟨0, ["out"]⟩ = some .directory ∧
      Stops (makeTypes typedConfig ⟨0, ["api.json"]⟩ Types.idle)
        { bareMachine ⟨none, 0, none⟩ with log } (.generation .noTool) after := ⟨_, rfl, rfl⟩
  rcases sought with ⟨after, isThere, stopped⟩
  have unchanged := untouched typedConfig Types.idle (bareMachine ⟨none, 0, none⟩) after
    (.generation .noTool) (fun _ _ _ => rfl) (by simp)
    (same.trans (Run.stops_bind_iff.mpr (Or.inl stopped)))
  rw [unchanged] at isThere
  cases isThere

end Generator
end ApiAccessors
