import ApiAccessors.Document.Display
import ApiAccessors.Text.Case

namespace ApiAccessors

/-!
# Headers

The headers of a message, in order.  Names that differ only in case are one name.  The headers of a
request are taken from values of unchecked shape; only ASCII texts can be sent.
-/

abbrev Headers := List (String × String)

namespace Headers

def lowerName (name : String) : String := String.ofList (Text.lower name.toList)

def sameName (left right : String) : Bool := lowerName left == lowerName right

/-- Whether a header is there. -/
def has (headers : Headers) (name : String) : Bool :=
  headers.any (fun header => sameName header.1 name)

/-- The value of a header; several ones are joined by commas. -/
def get? (headers : Headers) (name : String) : Option String :=
  match (headers.filter (fun header => sameName header.1 name)).map (·.2) with
  | [] => none
  | values => some (", ".intercalate values)

/-- Headers with others in the place of those that have the same names. -/
def replaceBy (headers others : Headers) : Headers :=
  headers.filter (fun header => !has others header.1) ++ others

/-- A header with a new value, in the place of all of its name. -/
def setHeader (headers : Headers) (name value : String) : Headers :=
  replaceBy headers [(name, value)]

/-- A header, unless it is there already. -/
def addMissing (headers : Headers) (name value : String) : Headers :=
  if has headers name then headers else headers ++ [(name, value)]

/-- A text that can be sent. -/
def requireAscii (text : String) : Except Fault String :=
  if text.toList.all (fun c => c.toNat < 0x80) then .ok text else .error .unencodable

/-- A header from a pair of values. -/
def ofPair (pair : Value × Value) : Except Fault (String × String) :=
  match pair with
  | (.text name, value) => do
      let name ← requireAscii name
      match value with
      | .text text => do
          let text ← requireAscii text
          pure (name, text)
      | _ => throw .wrongKind
  | _ => .error .noSuchOperation

def ofPairs (pairs : List (Value × Value)) : Except Fault Headers := pairs.mapM ofPair

/-- A pair from the two elements of a value. -/
def pairOf (value : Value) : Except Fault (Value × Value) := do
  match ← value.elements with
  | [first, second] => pure (first, second)
  | _ => throw .badValue

/-- The pairs of a mapping, or those that are the elements of another value. -/
def pairsOf : Value → Except Fault (List (Value × Value))
  | .map entries => .ok entries
  | other => do
      let elements ← other.elements
      elements.mapM pairOf

/-- The headers that a value stands for, which may be missing. -/
def ofValue (value : Value) : Except Fault Headers :=
  if value.truthy then do
    let pairs ← pairsOf value
    ofPairs pairs
  else .ok []

/-- Add pairs to entries; lists and mappings cannot be names. -/
def addPairs (entries : Entries) : List (Value × Value) → Except Fault Entries
  | [] => .ok entries
  | (key, value) :: rest =>
      if key.isScalar then addPairs (Entries.insert entries key value) rest
      else .error .wrongKind

/-- Entries with those that a value adds to them, which may be missing. -/
def extend (entries : Entries) (extra : Value) : Except Fault Entries :=
  if extra.truthy then do
    let pairs ← pairsOf extra
    addPairs entries pairs
  else .ok entries

end Headers
end ApiAccessors
