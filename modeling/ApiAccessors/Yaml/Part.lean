import ApiAccessors.Yaml.Merge
import ApiAccessors.Yaml.ScalarValue

namespace ApiAccessors
namespace Yaml

/-!
# Parts

What becomes of the nodes of a document: scalars have their values, and collections have parts.
The nodes are gone through from the whole to its parts, all nodes at one depth before those at the
next, and each is made once.  So of several things that are wrong with a document the least deep
one is reported, and of those the first.
-/

/-- What has become of a node; the parts of a collection are given by number. -/
inductive Part where
  /-- A value, and whether it is what is no number, written by its name. -/
  | scalar (value : Value) (isNotANumber : Bool)
  | list (items : List Nat)
  | tuple (items : List Nat)
  | set (members : List Nat)
  | map (entries : List (Nat × Nat))

namespace Graph

/-- The text that stands for a node: its own, or that of the entry that stands in for a mapping. -/
def scalarText (graph : Graph) : Nat → Nat → Except Failure String
  | 0, _ => .error (.fault .endless)
  | fuel + 1, number =>
      match (graph.node number).content with
      | .scalar text => .ok text
      | .list _ => .error .malformed
      | .map entries =>
          match entries.find? (fun entry => graph.kind entry.1 = .standIn) with
          | some (_, value) => graph.scalarText fuel value
          | none => .error .malformed

/-- What becomes of a scalar.  A timestamp must be written as a scalar itself. -/
def scalarPart (graph : Graph) (number : Nat) : Except Failure Part := do
  let kind := graph.kind number
  let () ← if kind.isScalar then pure () else .error .malformed
  let text ← graph.scalarText (graph.size + 1) number
  let () ←
    if kind = .timestamp && graph.isMap number then .error (.fault .wrongKind) else pure ()
  let value ← scalarValue kind text
  pure (.scalar value (decide (kind = .float) && unsignedFloat text.toList == notANumber))

end Graph

/-- The nodes and what has become of them so far. -/
structure Making where
  graph : Graph
  parts : Array (Option Part)
  /-- The collections whose parts are still to be made, the last one first. -/
  waiting : List Nat
  /-- A number that is greater than that of the entries that lend. -/
  mergeFuel : Nat

abbrev Make := StateT Making (Except Failure)

namespace Make

/-- What has become of the node with a number. -/
def part? (number : Nat) : Make (Option Part) := do
  pure ((← get).parts[number]?.getD none)

def setPart (number : Nat) (part : Part) : Make Unit :=
  modify (fun making =>
    { making with parts := making.parts.setIfInBounds number (some part) })

/-- A number for a part that is no node. -/
def addPart (part : Part) : Make Nat :=
  modifyGet (fun making =>
    (making.parts.size, { making with parts := making.parts.push (some part) }))

/-- Merge what is lent to a mapping. -/
def merge (number : Nat) : Make Unit := fun ⟨graph, parts, waiting, mergeFuel⟩ => do
  let merged ← graph.mergeInto mergeFuel number []
  pure ((), ⟨merged, parts, waiting, mergeFuel⟩)

/-- Make a node, if it has not been made before; a collection is left without parts. -/
def visit (number : Nat) : Make Unit := do
  if (← part? number).isNone then
    let graph := (← get).graph
    if (graph.kind number).isCollection then
      setPart number (.list [])
      modify (fun making => { making with waiting := number :: making.waiting })
    else
      setPart number (← graph.scalarPart number)

def visitKey (number : Nat) : Make Unit := do
  visit number
  match ← part? number with
  | some (.scalar _ _) => pure ()
  | _ => throw .malformed

def entriesOf (number : Nat) : Make (List (Nat × Nat)) := do
  merge number
  let entries := (← get).graph.entries number
  entries.forM (fun (key, value) => do
    visitKey key
    visit value)
  pure entries

/-- Make a key with its value of a mapping that has no others. -/
def pairOf (number : Nat) : Make Nat := do
  match (← get).graph.entries number with
  | [(key, value)] =>
      visit key
      visit value
      addPart (.tuple [key, value])
  | _ => throw .malformed

def collection (number : Nat) : Make Part := do
  let node := (← get).graph.node number
  match node.kind, node.content with
  | .list, .list items =>
      items.forM visit
      pure (.list items)
  | .orderedMap, .list items => .list <$> items.mapM pairOf
  | .pairs, .list items => .list <$> items.mapM pairOf
  | .map, .map _ => .map <$> entriesOf number
  | .set, .map _ => do
      let entries ← entriesOf number
      pure (.set (entries.map (·.1)))
  | _, _ => throw .malformed

/-- Make the collections that are waiting, and those in them; `depth` bounds the nesting. -/
def collections : (depth : Nat) → Make Unit
  | 0 => pure ()
  | depth + 1 => do
      match (← get).waiting with
      | [] => pure ()
      | waiting =>
          modify (fun making => { making with waiting := [] })
          waiting.reverse.forM (fun number => do
            let part ← collection number
            setPart number part)
          collections depth

/-- Make a node and everything in it. -/
def whole (number : Nat) : Make Unit := do
  visit number
  collections ((← get).graph.size + 1)

end Make

end Yaml
end ApiAccessors
