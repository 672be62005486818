import ApiAccessors.Document.Display
import ApiAccessors.Machine
import ApiAccessors.Text.Case
import ApiAccessors.Text.Lines

namespace ApiAccessors
namespace SpecFile

/-!
# Interface documents

Reading an interface document from a file, and checking what the generator relies on.  The ending
of the file name decides about the notation; the contents must be a mapping.
-/

def logger : String := "resourcegen.loader"

/-- Read a text in the notation that the file name stands for. -/
def readText (platform : Platform) (path : FilePath) (text : List Char) : Except Problem Value :=
  if Text.lower path.suffix.toList = ".json".toList then
    match Json.read platform.readingRoom text with
    | .ok value => .ok value
    | .error (.complaint what remaining) =>
        .error (.spec (.unreadable path.text (some (what.message text remaining))))
    | .error .tooManyDigits => .error (.fault .badValue)
    | .error .tooDeep => .error (.fault .tooDeep)
    | .error .unpaired => .error (.fault .unpaired)
  else
    match platform.yaml text with
    | .ok value => .ok value
    | .error .malformed => .error (.spec (.unreadable path.text none))
    | .error (.fault cause) => .error (.fault cause)

/-- The document that bytes stand for. -/
def decode (platform : Platform) (path : FilePath) (content : List UInt8) :
    Except Problem Value := do
  match Text.Utf8.decode? content with
  | none => throw (.fault .undecodable)
  | some text =>
      let value ← readText platform path (Text.unifyLines text)
      match value.entries? with
      | some _ => pure value
      | none => throw (.spec (.noMapping path.text))

/-- Read the document at a path. -/
def load (path : FilePath) : Run Value := do
  match ← Run.entryAt path with
  | some (.file content) =>
      Run.report .info logger ("Reading OpenAPI schema from: " ++ path.text)
      let machine ← get
      Run.permit (machine.files.allow .read path)
      match decode machine.platform path content with
      | .ok spec => pure spec
      | .error problem => throw problem
  | _ => throw (.spec (.notFound path.text))

/-- The text of a field that only appears in reports. -/
def mention (info : Value) (name : String) : Except Fault String := do
  let given ← info.field? name
  pure (given.getD (.text "Unknown")).display

/-- Check a document, and report what it says about itself. -/
def check (spec : Value) : Run Unit := do
  let first ← Run.lift (spec.field? "openapi")
  let second ← Run.lift (spec.field? "swagger")
  let version := Value.orElse first (Value.orElse second .null)
  if !version.truthy then throw (.spec .noVersion)
  let hasPaths :=
    match (← Run.lift (spec.field "paths")).entries? with
    | some entries => !entries.isEmpty
    | none => false
  if !hasPaths then throw (.spec .noPaths)
  let info ← Run.lift (spec.fieldOrEmpty "info")
  Run.report .info logger ("OpenAPI version: " ++ version.display)
  let title ← Run.lift (mention info "title")
  Run.report .info logger ("API title: " ++ title)
  let number ← Run.lift (mention info "version")
  Run.report .info logger ("API version: " ++ number)

end SpecFile
end ApiAccessors
