import ApiAccessors.Template.Layout
import ApiAccessors.Template.Slot

namespace ApiAccessors
namespace Template

/-!
# The contents of a package

The text of the module that imports all others and lists what they define.
-/

/-- The line that imports the class of a module from its file. -/
def importLine (unit : Value) : Except Fault String := do
  let stem ← (Slot.ofField "file_name" unit).dropLast 3
  pure ("from ." ++ stem.print ++ " import " ++ (Slot.ofField "class_name" unit).print ++ "\n")

def classLine (unit : Value) : String :=
  "    " ++ (Slot.ofField "class_name" unit).quoted ++ ",\n"

def contentsHeading (title version : String) : String :=
  "Generated " ++ title ++ " " ++ version ++ " accessors. Do not edit."

/-- The layout of the contents, with the lines that import and those that list. -/
def contentsLayout (title version : String) (imports classes : List String) : Layout := [
  .docstring (contentsHeading title version),
  .code (unlines ["", "", "from .client import create_client"] ++ String.join imports ++
    unlines ["", "__all__ = [", "    \"create_client\","] ++ String.join classes ++
    unlines ["]"])]

/-- The text of the contents for a package record. -/
def contents (package : Value) : Except Fault String := do
  let names ← namesOf ["self"] package
  let slot := fun name => Slot.ofField name names
  let units ← (slot "units").elements
  let imports ← units.mapM importLine
  pure (contentsLayout (slot "api_title").print (slot "api_version").print imports
    (units.map classLine)).text

end Template
end ApiAccessors
