import ApiAccessors.Fault

namespace ApiAccessors

/-!
# Problems

What the generator tells its user when it cannot do its work, and the wording of it.  A fault that
no check foresaw is passed on as it is.
-/

/-- A required setting that is missing. -/
inductive ConfigProblem where
  | schemaPath
  | outputDirectory
  | runtimeImport
deriving DecidableEq, Repr

namespace ConfigProblem

def message : ConfigProblem → String
  | .schemaPath => "Schema path is required"
  | .outputDirectory => "Output directory is required"
  | .runtimeImport => "Runtime import path is required"

end ConfigProblem

/-- What is wrong with an interface document. -/
inductive SpecProblem where
  | notFound (path : String)
  /-- The document could not be read; in one notation the reader says what it complains of. -/
  | unreadable (path : String) (complaint : Option String)
  | noMapping (path : String)
  | noVersion
  | noPaths
deriving DecidableEq, Repr

namespace SpecProblem

/-- What is said of a document whose reader says nothing itself. -/
def malformed : String := "malformed document"

def message : SpecProblem → String
  | .notFound path => "OpenAPI schema file not found at " ++ path
  | .unreadable path complaint =>
      "Could not parse OpenAPI schema " ++ path ++ ": " ++ complaint.getD malformed
  | .noMapping path => "Invalid OpenAPI schema: " ++ path ++ " does not contain a mapping"
  | .noVersion => "Invalid OpenAPI schema: missing \"openapi\" field"
  | .noPaths => "Invalid OpenAPI schema: no paths defined"

end SpecProblem

/-- Why nothing can be generated. -/
inductive GenerationProblem where
  | noResources
  | noTool
  | toolFailed (detail : String)
deriving DecidableEq, Repr

namespace GenerationProblem

/-- The program that makes the types. -/
def tool : String := "datamodel-codegen"

def message : GenerationProblem → String
  | .noResources => "No API resources found in the schema"
  | .noTool =>
      tool ++ " not found; install it with \x60pip install resourcegen[types]\x60 to generate types"
  | .toolFailed detail => "Failed to generate types: " ++ detail

end GenerationProblem

/-- Why a run of the generator stopped. -/
inductive Problem where
  | config (problem : ConfigProblem)
  | spec (problem : SpecProblem)
  | generation (problem : GenerationProblem)
  | fault (cause : Fault)
deriving DecidableEq, Repr

namespace Problem

/-- What the user is told, for the problems that the generator foresees. -/
def message? : Problem → Option String
  | .config problem => some problem.message
  | .spec problem => some problem.message
  | .generation problem => some problem.message
  | .fault _ => none

end Problem
end ApiAccessors
