import ApiAccessors.Document.Cycle
import ApiAccessors.Fault

namespace ApiAccessors

/-!
# Taking values apart

The operations that a document of unchecked shape is taken apart with.  Each says which values it
takes; all others are refused with a `Fault`.  A collection that contains itself is taken apart
like any other.
-/

namespace Value

/-- A value, or another one in its place if it counts as not given. -/
def orElse (value : Option Value) (other : Value) : Value :=
  match value with
  | some given => if given.truthy then given else other
  | none => other

def empty : Value := .map []

/-- The field of a mapping, which may be missing; only mappings have fields. -/
def field? (name : String) (value : Value) : Except Fault (Option Value) :=
  match value.entries? with
  | some entries => .ok (Entries.field? entries name)
  | none => .error .noSuchOperation

/-- A field of a mapping, where a missing field is null. -/
def field (name : String) (value : Value) : Except Fault Value :=
  (value.field? name).map (·.getD .null)

/-- A field of a mapping, or the empty mapping where the field counts as not given. -/
def fieldOrEmpty (name : String) (value : Value) : Except Fault Value :=
  (value.field? name).map (orElse · .empty)

/-- A field that must be there; asking something that is no mapping is a fault of another kind. -/
def entry (name : String) (value : Value) : Except Fault Value :=
  match value.entries? with
  | some entries =>
      match Entries.field? entries name with
      | some value => .ok value
      | none => .error .missingEntry
  | none => .error .wrongKind

/-- What a value yields when it is gone through: items, keys, characters or byte numbers. -/
def elements (value : Value) : Except Fault (List Value) :=
  match value.unfolded with
  | .list items => .ok items
  | .tuple items => .ok items
  | .set members => .ok members
  | .map entries => .ok (entries.map (·.1))
  | .text value => .ok (value.toList.map (fun c => .text (String.singleton c)))
  | .bytes value => .ok (value.map (fun byte => .int byte.toNat))
  | _ => .error .wrongKind

/-- The item at the beginning of a list or tuple. -/
def firstItem : List Value → Except Fault Value
  | [] => .error .missingPosition
  | item :: _ => .ok item

/--
The first item of a list or tuple, the first character of a text, or the entry of the key zero;
the members of a set have no places.
-/
def first (value : Value) : Except Fault Value :=
  match value.unfolded with
  | .list items => firstItem items
  | .tuple items => firstItem items
  | .map entries =>
      match Entries.get? entries (.int 0) with
      | some value => .ok value
      | none => .error .missingEntry
  | .text value =>
      match value.toList with
      | c :: _ => .ok (.text (String.singleton c))
      | [] => .error .missingPosition
  | .bytes value =>
      match value with
      | byte :: _ => .ok (.int byte.toNat)
      | [] => .error .missingPosition
  | _ => .error .wrongKind

/-- How many elements a value has. -/
def size (value : Value) : Except Fault Nat :=
  match value.unfolded with
  | .list items => .ok items.length
  | .tuple items => .ok items.length
  | .set members => .ok members.length
  | .map entries => .ok entries.length
  | .text value => .ok value.length
  | .bytes value => .ok value.length
  | _ => .error .wrongKind

/-- A mapping from texts. -/
def record (fields : List (String × Value)) : Value :=
  .map (fields.map (fun field => (.text field.1, field.2)))

def texts (values : List String) : Value := .list (values.map .text)

end Value
end ApiAccessors
