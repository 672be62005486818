import ApiAccessors.Binary64.Basic
import ApiAccessors.Document.Calendar

namespace ApiAccessors

/-!
# Document values

The values that documents are made of.  Mappings keep their entries in the order in which the keys
first occurred, and their keys may be any scalar: a status code that is written without quotes is
an integer key.  Numeric keys are one key if they are equal as numbers, and moments that say how
far they are from universal time are one key if they are the same instant.

A collection may contain itself, directly or through others.  Then it has a number, and inside it
the number stands for it.  No number has two collections, so that a collection which is met again
is known by its number.
-/

inductive Value where
  | null
  | bool (value : Bool)
  | int (value : Int)
  | float (value : Binary64)
  | text (value : String)
  | bytes (value : List UInt8)
  | date (value : Date)
  | moment (value : Moment)
  | list (items : List Value)
  /-- A row of fixed length, such as a key with its value. -/
  | tuple (items : List Value)
  /-- Scalars, each once. -/
  | set (members : List Value)
  | map (entries : List (Value × Value))
  /-- A list, tuple or mapping that contains itself. -/
  | cyclic (number : Nat) (body : Value)
  /-- The collection with a number, inside itself. -/
  | again (number : Nat)
deriving BEq, Repr, Inhabited

/-- The entries of a mapping, in order. -/
abbrev Entries := List (Value × Value)

namespace Value

/-- Empty, zero and absent values count as not given. -/
def truthy : Value → Bool
  | .null => false
  | .bool value => value
  | .int value => value != 0
  | .float value => !value.isZero
  | .text value => !value.isEmpty
  | .bytes value => !value.isEmpty
  | .date _ => true
  | .moment _ => true
  | .list items => !items.isEmpty
  | .tuple items => !items.isEmpty
  | .set members => !members.isEmpty
  | .map entries => !entries.isEmpty
  | .cyclic _ _ => true
  | .again _ => true

/-- The number that a value is, if it is an exact one; the truth values are one and zero. -/
def integer? : Value → Option Int
  | .bool value => some (if value then 1 else 0)
  | .int value => some value
  | _ => none

/-- Whether two scalars are one key. -/
def sameKey : Value → Value → Bool
  | .null, .null => true
  | .text left, .text right => left == right
  | .bytes left, .bytes right => left == right
  | .date left, .date right => left == right
  | .moment left, .moment right => left.isSame right
  | .float left, .float right => left.sameNumber right
  | .float left, right =>
      match right.integer? with
      | some number => left.equalsInt number
      | none => false
  | left, .float right =>
      match left.integer? with
      | some number => right.equalsInt number
      | none => false
  | left, right =>
      match left.integer?, right.integer? with
      | some first, some second => first == second
      | _, _ => false

/-- Whether a value can be a key. -/
def isScalar : Value → Bool
  | .list _ => false
  | .tuple _ => false
  | .set _ => false
  | .map _ => false
  | .cyclic _ _ => false
  | .again _ => false
  | _ => true

end Value

namespace Entries

/-- The value of a key. -/
def get? : Entries → Value → Option Value
  | [], _ => none
  | (key, value) :: rest, sought => if key.sameKey sought then some value else get? rest sought

/-- The value of a key that is a text. -/
def field? (entries : Entries) (name : String) : Option Value :=
  get? entries (.text name)

/-- Give a key a value: in its place if the key is there already, and at the end otherwise. -/
def insert : Entries → Value → Value → Entries
  | [], key, value => [(key, value)]
  | (first, old) :: rest, key, value =>
      if first.sameKey key then (first, value) :: rest else (first, old) :: insert rest key value

/-- Entries given one after the other: the last value of a key stands where the key came first. -/
def ofList (pairs : List (Value × Value)) : Entries :=
  pairs.foldl (fun entries pair => insert entries pair.1 pair.2) []

/-- Only the text itself is the same key as a text. -/
theorem sameKey_text_iff {key : Value} {name : String} :
    key.sameKey (.text name) = true ↔ key = .text name := by
  cases key <;> simp [Value.sameKey, Value.integer?]

end Entries

end ApiAccessors
