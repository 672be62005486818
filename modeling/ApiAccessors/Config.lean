import ApiAccessors.Document.Value
import ApiAccessors.Files.Path
import ApiAccessors.Problem

namespace ApiAccessors

/-!
# Settings

The settings of a run of the generator.  Paths are read when the settings are made; all other
settings are taken as they are given, and only whether they count as given is ever checked.
-/

/-- The settings of a run. -/
structure Config where
  schemaPath : Option FilePath
  outputDirectory : Option FilePath
  runtimeImport : Value
  apiPrefix : Value
  baseUrl : Value
  tokenVariable : Value
  generateTypes : Value
  typesPath : Option FilePath
  manifestPath : Option FilePath

namespace Config

def defaultSchema : String := "./schema/api.json"

def defaultOutput : String := "./api_client"

def defaultRuntime : String := "resourcegen.runtime"

def defaultBaseUrl : String := "http://localhost:8000"

def defaultTokenVariable : String := "API_TOKEN"

/-- The names of all settings, and those that have no default. -/
def names : List String := [
  "schema_path", "output_dir", "runtime_import", "api_prefix", "base_url", "token_env_var",
  "generate_types", "types_output_path", "manifest_path"]

def required : List String := ["schema_path", "output_dir"]

/-- A setting that is a path or null. -/
def readPath : Value → Except Fault (Option FilePath)
  | .null => .ok none
  | .text path => .ok (some (FilePath.ofText path))
  | _ => .error .wrongKind

/-- Settings by name: each is known and given at most once, and the required ones are given. -/
def ofSettings (given : List (String × Value)) : Except Fault Config := do
  let keys := given.map (·.1)
  let known := keys.all names.contains && required.all keys.contains
  if !known || keys.eraseDups.length != keys.length then throw .wrongKind
  let setting := fun name missing => (given.lookup name).getD missing
  pure {
    schemaPath := ← readPath (setting "schema_path" .null)
    outputDirectory := ← readPath (setting "output_dir" .null)
    runtimeImport := setting "runtime_import" (.text defaultRuntime)
    apiPrefix := setting "api_prefix" (.text "")
    baseUrl := setting "base_url" (.text defaultBaseUrl)
    tokenVariable := setting "token_env_var" (.text defaultTokenVariable)
    generateTypes := setting "generate_types" (.bool false)
    typesPath := ← readPath (setting "types_output_path" .null)
    manifestPath := ← readPath (setting "manifest_path" .null) }

/-- The first required setting that is missing. -/
def check (config : Config) : Except ConfigProblem Unit :=
  if config.schemaPath.isNone then .error .schemaPath
  else if config.outputDirectory.isNone then .error .outputDirectory
  else if !config.runtimeImport.truthy then .error .runtimeImport
  else .ok ()

/-- Where the types are written: below the output, unless another place is given. -/
def typesTarget (config : Config) : Except Fault FilePath :=
  match config.typesPath, config.outputDirectory with
  | some path, _ => .ok path
  | none, some directory => .ok (directory.join (FilePath.ofText "models.py"))
  | none, none => .error .wrongKind

end Config
end ApiAccessors
