import ApiAccessors.Api.Resource
import ApiAccessors.Naming.Fresh

namespace ApiAccessors
namespace OperationName

/-!
# Names of operations

Every operation gets a name from its method, its resource and the form of its path.  Such names are
only candidates, because several operations can have the same one.  `unique` then goes through the
candidates of a module in order: a name that is the only one of its kind and not yet used is kept;
all others get a segment of the path behind their verb or, where no segment helps, a number.
-/

/-- What the name of an action ends with, like all others. -/
def ending : String := "Api"

def collectionName? (base : String) : String → Option String
  | "get" => some ("get" ++ base ++ "Collection" ++ ending)
  | "post" => some ("create" ++ base ++ "Item" ++ ending)
  | _ => none

def itemName? (base : String) : String → Option String
  | "get" => some ("get" ++ base ++ "Item" ++ ending)
  | "patch" => some ("patch" ++ base ++ "Item" ++ ending)
  | "delete" => some ("delete" ++ base ++ "Item" ++ ending)
  | _ => none

/-- The verb of an operation on an item that a parameter of its own tells apart. -/
def lookupVerb? : String → Option String
  | "get" => some "get"
  | "post" => some "create"
  | "patch" => some "patch"
  | "delete" => some "delete"
  | _ => none

/-- The name of an operation whose path is no action. -/
def plainName (base path method : String) : String :=
  let plain := method ++ base ++ ending
  match Path.parameters path with
  | [] =>
      match collectionName? base method with
      | some name => name
      | none => if Path.isItem path then (itemName? base method).getD plain else plain
  | parameter :: _ =>
      if Path.isItem path then (itemName? base method).getD plain
      else
        match lookupVerb? method with
        | some verb => verb ++ base ++ "ItemBy" ++ Naming.pascalCase parameter ++ ending
        | none => plain

def ofResource (resource path method : String) : String :=
  let base := Naming.pascalCase resource
  match Path.action path with
  | some word => Naming.camelCase word ++ base ++ ending
  | none => plainName base path method

/-- The candidate for an operation; without a resource it is the bare method. -/
def candidate (spec : Value) (path method : String) : Except Fault String := do
  let resource ← Resource.ofPath spec path
  pure (if resource.isEmpty then method else ofResource resource path method)

/-- An operation by its path and method. -/
abbrev Key := String × String

/-- The verbs that a name can begin with; the first that fits counts. -/
def leadingVerbs : List String := ["get", "create", "delete", "patch", "put"]

/-- Put a word behind the verb that a name begins with. -/
def insertWord? (name word : String) : Option String :=
  match leadingVerbs.find? (fun verb => verb.toList.isPrefixOf name.toList) with
  | some verb =>
      some (verb ++ word ++ String.ofList (name.toList.drop verb.toList.length))
  | none => none

/-- The segments of a path that can tell its operations apart, the last one first. -/
def distinctive (path : String) : List String :=
  ((Path.segments path).filter (fun segment =>
    segment != Path.root && !Path.isParameter segment)).reverse

/-- The names with one segment of the path put in. -/
def variants (name path : String) : List String :=
  (distinctive path).filterMap (fun segment => insertWord? name (Naming.pascalCase segment))

def numbered (name : String) (number : Nat) : String := name ++ toString number

/-- The name with the least number, from one on, that is not claimed. -/
def numberedFree (claimed : List String) (name : String) : String :=
  let number :=
    Naming.seek (fun number => claimed.contains (numbered name number)) (claimed.length + 1) 1
  numbered name (number.getD 1)

/-- The final name for a candidate that `alone` says is the only one of its kind. -/
def settle (alone : String → Bool) (claimed : List String) (path name : String) : String :=
  if alone name && !claimed.contains name then name
  else
    match (variants name path).find? (fun variant => !claimed.contains variant) with
    | some variant => variant
    | none => numberedFree claimed name

/-- Settle the candidates one after the other. -/
def settleAll (alone : String → Bool) (claimed : List String) :
    List (Key × String) → List (Key × String)
  | [] => []
  | (key, name) :: rest =>
      let final := settle alone claimed key.1 name
      (key, final) :: settleAll alone (final :: claimed) rest

/-- Names of which no two are equal, for candidates in order. -/
def unique (candidates : List (Key × String)) : List (Key × String) :=
  let names := candidates.map (·.2)
  settleAll (fun name => names.count name == 1) [] candidates

end OperationName
end ApiAccessors
