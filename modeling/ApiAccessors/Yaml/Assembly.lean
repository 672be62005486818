import ApiAccessors.Document.SetOrder
import ApiAccessors.Yaml.Part

namespace ApiAccessors
namespace Yaml

/-!
# Assembled values

The values that the parts of a document make.  A part that occurs in several places is assembled
once, unless it belongs to a collection that contains itself: then it is cut off where it occurs
inside itself, which depends on the place that is looked at.
-/

/-- The parts that a document is put together from, by number. -/
abbrev Parts := Array (Option Part)

namespace Parts

def key (parts : Parts) (number : Nat) : Value :=
  match parts[number]?.getD none with
  | some (.scalar value _) => value
  | _ => .null

def isNotANumber (parts : Parts) (number : Nat) : Bool :=
  match parts[number]?.getD none with
  | some (.scalar _ isNotANumber) => isNotANumber
  | _ => false

/--
Whether two parts are one key.  What is no number is one key only with itself: that is the case for
a node that is repeated, and wherever it is written by its name.
-/
def areOneKey (parts : Parts) (left right : Nat) : Bool :=
  left == right || (parts.key left).sameKey (parts.key right) ||
    (parts.isNotANumber left && parts.isNotANumber right)

/-- Put an entry behind others: the last value of a key stands where the key came first. -/
def putEntry (parts : Parts) (key value : Nat) : List (Nat × Nat) → List (Nat × Nat)
  | [] => [(key, value)]
  | (first, old) :: rest =>
      if parts.areOneKey first key then (first, value) :: rest
      else (first, old) :: putEntry parts key value rest

/-- Entries with every key once. -/
def distinct (parts : Parts) (entries : List (Nat × Nat)) : List (Nat × Nat) :=
  entries.foldl (fun known entry => parts.putEntry entry.1 entry.2 known) []

/-- The members of a set, none of them twice. -/
def members (parts : Parts) (numbers : List Nat) : List Value :=
  let distinct := parts.distinct (numbers.map (fun number => (number, number)))
  SetOrder.arrange (distinct.map (fun member => parts.key member.1))

/-- A value, and the numbers of the collections around it that it contains. -/
abbrev Inside := Value × List Nat

/-- The values of the parts that do not contain a collection around them, as far as known. -/
abbrev Known := Array (Option Value)

mutual

/-- The value of a part inside others; `depth` bounds the nesting. -/
def value (parts : Parts) : (depth : Nat) → (around : List Nat) → Nat → StateM Known Inside
  | 0, _, _ => pure (.null, [])
  | depth + 1, around, number => do
      match (← get)[number]?.getD none with
      | some value => pure (value, [])
      | none =>
          if around.contains number then pure (.again number, [number])
          else
            let (value, contained) ← content parts depth (number :: around) number
            if contained.isEmpty then
              modify (fun known => known.setIfInBounds number (some value))
              pure (value, [])
            else pure (.cyclic number value, contained.filter (· != number))

/-- The value of a part that is one of those around its own parts. -/
def content (parts : Parts) : (depth : Nat) → (around : List Nat) → Nat → StateM Known Inside
  | 0, _, _ => pure (.null, [])
  | depth + 1, around, number => do
      let row := fun (make : List Value → Value) (items : List Nat) => do
        let values ← items.mapM (value parts depth around)
        pure (make (values.map (·.1)), values.flatMap (·.2))
      match parts[number]?.getD none with
      | none => pure (.null, [])
      | some (.scalar value _) => pure (value, [])
      | some (.list items) => row .list items
      | some (.tuple items) => row .tuple items
      | some (.set numbers) => pure (.set (parts.members numbers), [])
      | some (.map entries) =>
          let entries := parts.distinct entries
          row (fun values => .map ((entries.map (fun entry => parts.key entry.1)).zip values))
            (entries.map (·.2))

end

/-- The value of a part with everything in it. -/
def whole (parts : Parts) (number : Nat) : Value :=
  let known : Known := Array.replicate parts.size none
  ((parts.value (2 * parts.size + 2) [] number).run known).1.1

end Parts

end Yaml
end ApiAccessors
