import ApiAccessors.Api.Path
import ApiAccessors.Document.Value
import ApiAccessors.Naming.Words

namespace ApiAccessors
namespace Resource

/-!
# Resources

Every path of an interface document belongs to at most one resource.  Paths for signing in form a
resource of their own; others are named by the segment behind the root or, failing that, by the
first tag that one of their operations has.  A document of unexpected shape stops the search at the
first value that does not fit.
-/

/-- The verbs that make a member of a path item an operation, in order of preference. -/
def verbs : List String := ["get", "post", "put", "patch", "delete"]

def paths (spec : Value) : Except Fault Value := spec.fieldOrEmpty "paths"

/-- The resource of all paths for signing in. -/
def authentication : String := "authentication"

/-- Whether the segments are those of a path for signing in. -/
def isAuthentication (segments : List String) : Bool :=
  segments.dropLast.contains "auth" ||
    (match segments.getLast? with
      | some last => last == "login" || last == "token"
      | none => false)

def rootSegment (path : String) : Option String :=
  match Path.resourceIndex path with
  | some index => (Path.segments path)[index]?
  | none => none

def pathItem (spec : Value) (path : String) : Except Fault Value := do
  let items ← paths spec
  items.fieldOrEmpty path

/-- The first tag among the operations of a path item, looked up in order of preference. -/
def firstTagIn (item : Value) : List String → Except Fault (Option Value)
  | [] => .ok none
  | verb :: rest => do
      let operation ← item.field verb
      match operation.entries? with
      | some entries =>
          match Entries.field? entries "tags" with
          | some tags => if tags.truthy then some <$> tags.first else firstTagIn item rest
          | none => firstTagIn item rest
      | none => firstTagIn item rest

def firstTag (spec : Value) (path : String) : Except Fault (Option Value) := do
  let item ← pathItem spec path
  firstTagIn item verbs

/-- The resource that a tag names; tags other than texts name none. -/
def ofTag : Option Value → Except Fault String
  | none => .ok ""
  | some (.text tag) => .ok (Naming.kebabCase tag)
  | some other => if other.truthy then .error .wrongKind else .ok ""

/-- The resource of a path, or the empty text if it has none. -/
def ofPath (spec : Value) (path : String) : Except Fault String :=
  if isAuthentication (Path.segments path) then .ok authentication
  else
    match rootSegment path with
    | some segment => .ok segment
    | none => do
        let tag ← firstTag spec path
        ofTag tag

/-- The resource of a key of the paths; keys that are no texts have no segments. -/
def ofKey (spec : Value) : Value → Except Fault String
  | .text path => ofPath spec path
  | .bytes _ => .error .wrongKind
  | _ => .error .noSuchOperation

/-- The resources of a document, each once, in the order of their first paths. -/
def all (spec : Value) : Except Fault (List String) := do
  let keys ← (← paths spec).elements
  let names ← keys.mapM (ofKey spec)
  pure ((names.filter (fun name => !name.isEmpty)).eraseDups)

/-- Order texts by their characters. -/
def textLe (left right : String) : Bool := decide (left ≤ right)

/-- The entries of a mapping; nothing else has entries. -/
def entriesOf (value : Value) : Except Fault Entries :=
  match value.entries? with
  | some entries => .ok entries
  | none => .error .noSuchOperation

/-- The path that a key is, if a resource was found for it. -/
def keyText : Value → String
  | .text path => path
  | _ => ""

def pathsOf (spec : Value) (resource : String) : Except Fault (List (String × Value)) := do
  let entries ← entriesOf (← paths spec)
  let named ← entries.mapM (fun entry => do pure (← ofKey spec entry.1, entry))
  let own := (named.filter (fun (name, _) => name == resource)).map (·.2)
  pure ((own.map (fun (key, item) => (keyText key, item))).mergeSort
    (fun left right => textLe left.1 right.1))

/-- The verbs that a path item declares, in the order of declaration. -/
def declaredVerbs (item : Value) : Except Fault (List String) := do
  let keys ← item.elements
  pure (keys.filterMap (fun key =>
    match key with
    | .text name => if verbs.contains name then some name else none
    | _ => none))

end Resource
end ApiAccessors
