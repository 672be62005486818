import ApiAccessors.Template.Layout
import ApiAccessors.Template.Slot

namespace ApiAccessors
namespace Template

/-!
# Accessor modules

The text of an accessor module: a class with one attribute for every operation.  A name that cannot
stand behind a point is set by a call instead; all values from the document are quoted there.
-/

/-- The ending of a noun for a number of things. -/
def plural (isPlural : Bool) : String := if isPlural then "s" else ""

/-- The statement that sets the accessor of an operation. -/
def accessor (operation : Value) : Except Fault String := do
  let name := Slot.ofField "name" operation
  let direct ← name.isAttribute
  let opening :=
    if direct then "        self." ++ name.print ++ " = client.create_api_method("
    else "        setattr(self, " ++ name.quoted ++ ", client.create_api_method("
  pure (unlines [
    opening,
    "            path=" ++ (Slot.ofField "path" operation).quoted ++ ",",
    "            method=" ++ (Slot.ofField "method" operation).quoted ++ ",",
    "            content_type=" ++ (Slot.ofField "content_type" operation).quoted ++ ",",
    "        )" ++ (if direct then "" else ")")])

/-- The line that lists the name of an operation. -/
def listing (operation : Value) : String :=
  "            " ++ (Slot.ofField "name" operation).quoted ++ ",\n"

structure ModuleTexts where
  className : String
  /-- The resources, with commas between them. -/
  resources : String
  hasManyResources : Bool
  apiTitle : String
  apiVersion : String
  operationCount : Nat
  /-- The statements that set the accessors. -/
  statements : List String
  /-- The lines that list their names. -/
  listings : List String

namespace ModuleTexts

def heading (texts : ModuleTexts) : String :=
  texts.className ++ ": accessors for the " ++ texts.resources ++ " resource" ++
    plural texts.hasManyResources ++ unlines [".", ""] ++
    "Generated by resourcegen from " ++ texts.apiTitle ++ " " ++ texts.apiVersion ++
    unlines [". Do not edit."]

def classHeading (texts : ModuleTexts) : String :=
  toString texts.operationCount ++ " operation" ++ plural (texts.operationCount != 1) ++
    " on " ++ texts.resources ++ "."

def layout (runtimeImport : Value) (texts : ModuleTexts) : Layout := [
  .docstring texts.heading,
  .code (unlines ["", "", "from __future__ import annotations", "",
      "from " ++ runtimeImport.display ++ " import ApiClient", "", "",
      "class " ++ texts.className ++ ":"] ++ "    "),
  .docstring texts.classHeading,
  .code (unlines ["", "", "    def __init__(self, client: ApiClient) -> None:",
      "        self.client = client"] ++ String.join texts.statements ++
    unlines ["", "    @property", "    def operations(self) -> tuple[str, ...]:"] ++ "        "),
  .docstring "Names of every accessor, in generation order.",
  .code (unlines ["", "        return ("] ++ String.join texts.listings ++ unlines ["        )"])]

end ModuleTexts

/-- What the text of a module shows, given the record of its names. -/
def moduleTexts (names : Value) : Except Fault ModuleTexts := do
  let slot := fun name => Slot.ofField name names
  let resources ← (slot "resources").joined
  let resourceCount ← (slot "resources").size
  let operationCount ← (slot "methods").size
  let operations ← (slot "methods").elements
  let statements ← operations.mapM accessor
  pure {
    resources, operationCount, statements
    hasManyResources := 1 < resourceCount
    className := (slot "class_name").print
    apiTitle := (slot "api_title").print
    apiVersion := (slot "api_version").print
    listings := operations.map listing }

/-- The text of a module, given the record of its names. -/
def accessorText (runtimeImport names : Value) : Except Fault String := do
  let texts ← moduleTexts names
  pure (texts.layout runtimeImport).text

/-- The text of a module; without operations there is none. -/
def accessors (runtimeImport unit : Value) : Except Fault String :=
  if !unit.truthy then .ok ""
  else do
    let operations ← unit.field "methods"
    if operations.truthy then do
      let names ← namesOf ["self", "runtime_import"] unit
      accessorText runtimeImport names
    else pure ""

end Template
end ApiAccessors
