import ApiAccessors.Api.ContentType
import ApiAccessors.Api.OperationName
import ApiAccessors.Log
import ApiAccessors.Table
import ApiAccessors.Text.WordChars

namespace ApiAccessors

/-!
# Packages

A package has a module for every resource with operations.  Resources whose names have the same
words share a module; the modules are ordered by those words, and no two of them have a class name
or a file name in common.
-/

/-- An operation with its final name. -/
structure Operation where
  name : String
  path : String
  method : String
  contentType : Value
deriving BEq, Repr

structure AccessorModule where
  title : String
  className : String
  fileName : String
  resources : List String
  operations : List Operation
  apiTitle : Value
  apiVersion : Value
deriving BEq, Repr

structure Package where
  modules : List AccessorModule
  apiTitle : Value
  apiVersion : Value
deriving BEq, Repr

namespace Package

def logger : String := "resourcegen.context_builder"

/-- The paths of several resources, one resource after the other. -/
def pathsOf (spec : Value) : List String → Except Fault (List (String × Value))
  | [] => .ok []
  | resource :: rest => do
      let first ← Resource.pathsOf spec resource
      let others ← pathsOf spec rest
      pure (first ++ others)

/-- The operations that a path item declares, as path and method. -/
def keysOf (entry : String × Value) : Except Fault (List OperationName.Key) := do
  let verbs ← Resource.declaredVerbs entry.2
  pure (verbs.map (fun verb => (entry.1, verb)))

/-- The candidates of the operations of a path, put to those before them. -/
def addCandidates (spec : Value) (known : List (OperationName.Key × String))
    (entry : String × Value) : Except Fault (List (OperationName.Key × String)) := do
  let keys ← keysOf entry
  keys.foldlM (fun known key => do
    let name ← OperationName.candidate spec key.1 key.2
    pure (Table.put key name known)) known

/-- The final names of all operations on the given paths. -/
def finalNames (spec : Value) (entries : List (String × Value)) :
    Except Fault (List (OperationName.Key × String)) := do
  let candidates ← entries.foldlM (addCandidates spec) []
  pure (OperationName.unique candidates)

/-- An operation with its final name and its content type. -/
def operation (spec : Value) (names : List (OperationName.Key × String))
    (key : OperationName.Key) : Except Fault Operation := do
  let contentType ← ContentType.of spec key.1 key.2
  pure ⟨(names.lookup key).getD "", key.1, key.2, contentType⟩

/-- The operations of a path with their final names. -/
def operationsAt (spec : Value) (names : List (OperationName.Key × String))
    (entry : String × Value) : Except Fault (List Operation) := do
  let keys ← keysOf entry
  keys.mapM (operation spec names)

/-- The operations on the given resources. -/
def operations (spec : Value) (resources : List String) : Except Fault (List Operation) := do
  let entries ← pathsOf spec resources
  let names ← finalNames spec entries
  let found ← entries.mapM (operationsAt spec names)
  pure found.flatten

/-- The characters of a title that can stand in a name, which no digit may begin. -/
def safeTitle (title : String) : List Char :=
  let safe := title.toList.filter Text.isWord
  match safe with
  | first :: _ => if Text.isDigit first then '_' :: safe else safe
  | [] => []

/-- What the names of classes and files end with. -/
def className (title : String) : String := String.ofList (safeTitle title) ++ "Api"

/-- The file name without its extension. -/
def fileStem (title : String) : String :=
  Naming.snakeCase (String.ofList (safeTitle title)) ++ "_api"

def extension : String := ".py"

def fileName (title : String) : String := fileStem title ++ extension

/-- The text of a number behind a name; the name itself has the number zero. -/
def suffix (number : Nat) : String := if number = 0 then "" else toString number

/-- The first number with which neither the class nor the file has a taken name. -/
def freeNumber (taken : List String) (className stem : String) : Nat :=
  (Naming.seek (fun number =>
    taken.contains (className ++ suffix number) ||
      taken.contains (stem ++ suffix number ++ extension)) (taken.length + 1) 0).getD 0

/-- The title or version of a document, or what stands for it. -/
def information (spec : Value) (name missing : String) : Except Fault Value := do
  let info ← spec.fieldOrEmpty "info"
  let given ← info.field? name
  pure (given.getD (.text missing))

/-- The module of a unit, if there is anything to emit for it. -/
def buildModule (spec : Value) (title : String) (resources : List String) :
    Logged (Option AccessorModule) := do
  let operations ← Logged.lift (operations spec resources)
  if operations.isEmpty then
    let named := ", ".intercalate resources
    Logged.report .warning logger
      ("No operations found for " ++ (if named.isEmpty then title else named) ++ "; skipping")
    pure none
  else
    let apiTitle ← Logged.lift (information spec "title" "API")
    let apiVersion ← Logged.lift (information spec "version" "unknown")
    pure (some
      ⟨title, className title, fileName title, resources, operations, apiTitle, apiVersion⟩)

/-- Give a module names that are not taken. -/
def claimNames (taken : List String) (module : AccessorModule) : Logged AccessorModule := do
  let number := freeNumber taken module.className (fileStem module.title)
  let file := fileStem module.title ++ suffix number ++ extension
  if number = 0 then pure module
  else
    Logged.report .warning logger
      (module.fileName ++ " is already generated for another resource; writing " ++
        ", ".intercalate module.resources ++ " to " ++ file)
    pure { module with className := module.className ++ suffix number, fileName := file }

/-- Put a resource into the group of its title. -/
def addToGroup (groups : List (String × List String)) (title resource : String) :
    List (String × List String) :=
  match groups with
  | [] => [(title, [resource])]
  | (first, members) :: rest =>
      if first = title then (first, members ++ [resource]) :: rest
      else (first, members) :: addToGroup rest title resource

/-- Resources in groups of one title, the groups ordered by title and the members by name. -/
def group (resources : List String) : List (String × List String) :=
  let groups := (resources.mergeSort Resource.textLe).foldl
    (fun groups resource => addToGroup groups (Naming.pascalCase resource) resource) []
  groups.mergeSort (fun left right => Resource.textLe left.1 right.1)

/-- The modules of the groups, with the names that are taken before. -/
def buildModules (spec : Value) (taken : List String) :
    List (String × List String) → Logged (List AccessorModule)
  | [] => pure []
  | (title, members) :: rest => do
      match ← buildModule spec title members with
      | none => buildModules spec taken rest
      | some plain =>
          let module ← claimNames taken plain
          let others ← buildModules spec (module.fileName :: module.className :: taken) rest
          pure (module :: others)

/-- The package for the given resources of a document. -/
def build (spec : Value) (resources : List String) : Logged Package := do
  let modules ← buildModules spec [] (group resources)
  let apiTitle ← Logged.lift (information spec "title" "API")
  let apiVersion ← Logged.lift (information spec "version" "unknown")
  pure ⟨modules, apiTitle, apiVersion⟩

def operationCount (package : Package) : Nat :=
  package.modules.foldl (fun count module => count + module.operations.length) 0

end Package

def Operation.toValue (operation : Operation) : Value :=
  .record [("name", .text operation.name), ("path", .text operation.path),
    ("method", .text operation.method), ("content_type", operation.contentType)]

/-- The part of a module that manifests list. -/
def AccessorModule.summary (module : AccessorModule) : Value :=
  .record [("file_name", .text module.fileName), ("class_name", .text module.className),
    ("resources", .texts module.resources),
    ("methods", .list (module.operations.map Operation.toValue))]

def AccessorModule.toValue (module : AccessorModule) : Value :=
  .record [("unit_name", .text module.title), ("class_name", .text module.className),
    ("file_name", .text module.fileName), ("resources", .texts module.resources),
    ("methods", .list (module.operations.map Operation.toValue)),
    ("api_title", module.apiTitle), ("api_version", module.apiVersion)]

def Package.toValue (package : Package) : Value :=
  .record [("units", .list (package.modules.map AccessorModule.toValue)),
    ("unit_count", .int package.modules.length),
    ("method_count", .int package.operationCount),
    ("api_title", package.apiTitle), ("api_version", package.apiVersion)]

end ApiAccessors
