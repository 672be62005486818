import ApiAccessors.Machine
import ApiAccessors.Text.Blank

namespace ApiAccessors
namespace Types

/-!
# Types

The types of a package are made by an external program, which reads the interface document itself.
What the program does to the files is its own affair and a parameter here.
-/

/-- What the external program does to the files, given its command. -/
abbrev Effect := List String → FileTree → FileTree

/-- A program that leaves the files alone. -/
def idle : Effect := fun _ files => files

def logger : String := "resourcegen.typegen"

def command (place : String) (schema target : FilePath) : List String :=
  [place, "--input", schema.text, "--input-file-type", "openapi", "--output", target.text]

/-- What is said of a program that failed: its complaint or, if it has none, how it ended. -/
def detail (tool : Tool) : String :=
  let complaint := Text.trim (tool.complaint.getD "").toList
  if complaint.isEmpty then "exit status " ++ toString tool.status else String.ofList complaint

def generate (schema target : FilePath) (effect : Effect := idle) : Run Unit := do
  Run.makeDirectories target.parent true
  let tool := (← get).tool
  match tool.place with
  | none => throw (.generation .noTool)
  | some place =>
      let arguments := command place schema target
      Run.report .debug logger (" ".intercalate arguments)
      modify (fun machine => { machine with
        files := effect arguments machine.files
        commands := machine.commands ++ [arguments] })
      if tool.status != 0 then throw (.generation (.toolFailed (detail tool)))
      Run.report .info logger ("Generated types at " ++ target.text)

end Types
end ApiAccessors
