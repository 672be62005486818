import ApiAccessors.Config
import ApiAccessors.Json.Writer
import ApiAccessors.Machine
import ApiAccessors.Template.Accessors
import ApiAccessors.Template.Contents
import ApiAccessors.Template.Factory

namespace ApiAccessors
namespace Output

/-!
# Written packages

Writing the files of a package: the client factory first, then the modules in order, and the
contents last.  A package is a record whose shape has not been checked; files that are written
before a field turns out to be missing stay.
-/

def logger : String := "resourcegen.codegen"

def factorySettings (config : Config) : Template.FactorySettings :=
  ⟨config.runtimeImport, config.baseUrl, config.apiPrefix, config.tokenVariable⟩

/-- The path of a file below a directory; only texts are names of files. -/
def below (directory : FilePath) : Value → Except Fault FilePath
  | .text name => .ok (directory.join (FilePath.ofText name))
  | _ => .error .wrongKind

/-- Write a module, if it has anything in it, and give its path. -/
def writeModule (directory : FilePath) (runtimeImport unit : Value) : Run (Option FilePath) := do
  let text ← Run.lift (Template.accessors runtimeImport unit)
  if text.isEmpty then
    let title ← Run.lift (unit.entry "unit_name")
    Run.report .warning logger ("Nothing to emit for " ++ title.display ++ "; skipping")
    pure none
  else
    let name ← Run.lift (unit.entry "file_name")
    let path ← Run.lift (below directory name)
    Run.writeText path text
    let operations ← Run.lift (unit.entry "methods")
    let count ← Run.lift operations.size
    Run.report .debug logger ("Wrote " ++ path.name ++ " (" ++ toString count ++ " methods)")
    pure (some path)

/-- Write modules, and give those that were written with their paths. -/
def writeModules (directory : FilePath) (runtimeImport : Value) :
    List Value → Run (List (Value × FilePath))
  | [] => pure []
  | unit :: rest => do
      let path ← writeModule directory runtimeImport unit
      let others ← writeModules directory runtimeImport rest
      pure (match path with
        | some path => (unit, path) :: others
        | none => others)

/-- A record with other modules in it. -/
def withModules (units : List Value) : Value → Value
  | .map entries => .map (Entries.insert entries (.text "units") (.list units))
  | other => other

/-- Write a package into a directory that is there. -/
def writeInto (config : Config) (directory : FilePath) (package : Value) : Run (List FilePath) := do
  let factory ← Run.lift (Template.factory package (factorySettings config))
  Run.writeText (directory.join (FilePath.ofText "client.py")) factory
  Run.report .debug logger "Wrote client.py"
  let units ← Run.lift (do (← package.entry "units").elements)
  let written ← writeModules directory config.runtimeImport units
  let contents ← Run.lift (Template.contents (withModules (written.map (·.1)) package))
  Run.writeText (directory.join (FilePath.ofText "__init__.py")) contents
  let operations ← Run.lift (package.entry "method_count")
  Run.report .info logger
    ("Generated " ++ toString written.length ++ " modules in " ++ directory.text ++ " (" ++
      operations.display ++ " methods)")
  pure (written.map (·.2))

/-- Write a package, and give the paths of its modules. -/
def write (config : Config) (package : Value) : Run (List FilePath) := do
  match config.outputDirectory with
  | some directory =>
      if (← Run.entryAt directory).isNone then
        Run.makeDirectories directory false
        Run.report .info logger ("Created output directory: " ++ directory.text)
      writeInto config directory package
  | none => Run.stop .wrongKind

def writeManifest (path : FilePath) (summaries : List Value) : Run Unit := do
  Run.makeDirectories path.parent true
  let platform := (← get).platform
  let text ← Run.lift (Json.write platform.writingRoom (Json.indented 2) (.list summaries))
  Run.writeText path (text ++ "\n")
  Run.report .info "resourcegen.generator" ("Wrote manifest to " ++ path.text)

end Output
end ApiAccessors
