import ApiAccessors.Document.Display
import ApiAccessors.Text.Identifier

namespace ApiAccessors

/-!
# Slots

Generated text has slots for values that are looked up by name.  A name that was never given leaves
its slot empty and counts as a list without items; only where a value is taken apart further must
it have been given.
-/

/-- What a name stands for, if it was given. -/
abbrev Slot := Option Value

namespace Slot

/-- What a name stands for in a record; whatever is no record has no names. -/
def ofField (name : String) (record : Value) : Slot :=
  match record.entries? with
  | some entries => Entries.field? entries name
  | none => none

def print : Slot → String
  | some value => value.display
  | none => ""

def quoted : Slot → String
  | some value => value.quoted
  | none => "Undefined"

def elements : Slot → Except Fault (List Value)
  | some value => value.elements
  | none => .ok []

/-- How many elements a slot has. -/
def size : Slot → Except Fault Nat
  | some value => value.size
  | none => .ok 0

/-- The elements of a slot with commas between them. -/
def joined (slot : Slot) : Except Fault String := do
  let values ← slot.elements
  pure (", ".intercalate (values.map Value.display))

/-- Whether a slot holds a name that can stand behind a point; it must hold a text. -/
def isAttribute : Slot → Except Fault Bool
  | some (.text name) => .ok (Text.isAttributeName name)
  | some _ => .error .noSuchOperation
  | none => .error .undefinedName

/-- A value without its last elements. -/
def dropLast (count : Nat) : Slot → Except Fault Slot
  | some (.text value) =>
      .ok (some (.text (String.ofList (value.toList.take (value.length - count)))))
  | some (.bytes value) => .ok (some (.bytes (value.take (value.length - count))))
  | some (.list items) => .ok (some (.list (items.take (items.length - count))))
  | some (.tuple items) => .ok (some (.tuple (items.take (items.length - count))))
  | some _ => .error .wrongKind
  | none => .error .undefinedName

end Slot

namespace Template

/-- Names that cannot be given to a text, because they are taken. -/
def areFree (taken : List String) (entries : Entries) : Bool :=
  entries.all (fun entry =>
    match entry.1 with
    | .text name => !taken.contains name
    | _ => false)

/-- The record that gives the names of a text, none of which may be taken. -/
def namesOf (taken : List String) : Value → Except Fault Value
  | .map entries => if areFree taken entries then .ok (.map entries) else .error .wrongKind
  | _ => .error .wrongKind

end Template
end ApiAccessors
