import ApiAccessors.Api.Package
import ApiAccessors.Generator.Output
import ApiAccessors.Generator.SpecFile
import ApiAccessors.Generator.Types

namespace ApiAccessors
namespace Generator

/-!
# The generator

A whole run: the settings and the document are checked, the types are made if they are asked for,
and the package and its manifest are written.
-/

def logger : String := "resourcegen.generator"

def makeTypes (config : Config) (schema : FilePath) (effect : Types.Effect := Types.idle) :
    Run Unit := do
  if config.generateTypes.truthy then
    Run.report .info logger "Generating types..."
    let target ← Run.lift config.typesTarget
    Types.generate schema target effect

/-- Write the package of a document with known resources and its manifest. -/
def emit (config : Config) (spec : Value) (resources : List String) : Run (List Value) := do
  Run.report .info logger
    ("Found " ++ toString resources.length ++ " resources: " ++
      ", ".intercalate (resources.mergeSort Resource.textLe))
  let package ← Run.logged (Package.build spec resources)
  let _ ← Output.write config package.toValue
  let summaries := package.modules.map AccessorModule.summary
  match config.manifestPath with
  | some path => Output.writeManifest path summaries
  | none => pure ()
  pure summaries

/-- The part of a run that follows when the document has been accepted. -/
def finish (config : Config) (schema : FilePath) (effect : Types.Effect) (spec : Value) :
    Run (List Value) := do
  makeTypes config schema effect
  let resources ← Run.lift (Resource.all spec)
  if resources.isEmpty then throw (.generation .noResources)
  emit config spec resources

/-- Generate a package, and give the summaries of its modules. -/
def generate (config : Config) (effect : Types.Effect := Types.idle) : Run (List Value) := do
  match config.check, config.schemaPath with
  | .error problem, _ => throw (.config problem)
  | .ok (), none => throw (.config .schemaPath)
  | .ok (), some schema =>
      let spec ← SpecFile.load schema
      SpecFile.check spec
      finish config schema effect spec

end Generator
end ApiAccessors
