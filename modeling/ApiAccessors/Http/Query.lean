import ApiAccessors.Document.Display
import ApiAccessors.Http.Percent
import ApiAccessors.Table

namespace ApiAccessors
namespace Query

/-!
# Queries

A query is a mapping.  Null values are left out, and a list or tuple repeats its key with a pair of
brackets behind it.  In the address, the values of one key stand together where the key comes first.
-/

/-- The text of a value in a query; truth values are in small letters. -/
def valueText : Value → Except Fault String
  | .bool value => .ok (if value then "true" else "false")
  | other => other.spell

def itemPair (key item : Value) : Except Fault (Value × String) := do
  let name ← key.spell
  let text ← valueText item
  pure (.text (name ++ "[]"), text)

def entryPairs (entry : Value × Value) : Except Fault (List (Value × String)) :=
  match entry.2 with
  | .null => .ok []
  | .list items => items.mapM (itemPair entry.1)
  | .tuple items => items.mapM (itemPair entry.1)
  | value => (valueText value).map (fun text => [(entry.1, text)])

/-- The pairs of a query, which may be missing. -/
def pairs (query : Value) : Except Fault (List (Value × String)) :=
  if !query.truthy then .ok []
  else
    match query with
    | .map entries => (entries.mapM entryPairs).map List.flatten
    | _ => .error .noSuchOperation

/-- Put a value to the others of its key. -/
def addToKey (key : Value) (value : String) :
    List (Value × List String) → List (Value × List String)
  | [] => [(key, [value])]
  | (first, values) :: rest =>
      if first.sameKey key then (first, values ++ [value]) :: rest
      else (first, values) :: addToKey key value rest

/-- The pairs by key, the keys in the order in which they first occur. -/
def byKey (pairs : List (Value × String)) : List (Value × List String) :=
  pairs.foldl (fun groups pair => addToKey pair.1 pair.2 groups) []

/-- A text in a query: spaces become plus signs. -/
def encodeText (text : String) : List Char :=
  (Percent.encode (fun c => Percent.isUnreserved c || c == ' ') text.toList).map
    (fun c => if c = ' ' then '+' else c)

/-- The written form of pairs, if there are any. -/
def write (pairs : List (Value × String)) : Option (List Char) :=
  if pairs.isEmpty then none
  else
    let groups := (byKey pairs).foldl
      (fun groups (key, values) => Table.put key.display values groups) []
    let written := groups.flatMap (fun (key, values) =>
      values.map (fun value => encodeText key ++ '=' :: encodeText value))
    some (['&'].intercalate written)

end Query
end ApiAccessors
