import ApiAccessors.Yaml.Node

namespace ApiAccessors
namespace Yaml

/-!
# Merging

The value of a merge key is a mapping that lends its entries to the mapping with the key, or a list
of such mappings.  What is lent stands in front of the mapping's own entries, so that a key of its
own counts, and among the mappings of a list the first one counts.

A mapping may lend to itself or to one that it borrows from.  Therefore a merge key is taken away
before its value is looked at: a mapping that is met again lends what it has at that time.
-/

namespace Graph

/-- The entries of the node with a number. -/
def entries (graph : Graph) (number : Nat) : List (Nat × Nat) :=
  match (graph.node number).content with
  | .map entries => entries
  | _ => []

/-- Whether the node with a number is written as a mapping. -/
def isMap (graph : Graph) (number : Nat) : Bool :=
  match (graph.node number).content with
  | .map _ => true
  | _ => false

/-- Whether an entry lends instead of standing for itself. -/
def lends (graph : Graph) (entry : Nat × Nat) : Bool := decide (graph.kind entry.1 = .merge)

/-- How many entries lend. -/
def lendingCount (graph : Graph) : Nat :=
  (List.range graph.size).foldl
    (fun count number => count + (graph.entries number).countP graph.lends) 0

/-- Give other entries to the mapping with a number. -/
def setEntries (graph : Graph) (number : Nat) (entries : List (Nat × Nat)) : Graph :=
  graph.setIfInBounds number ⟨graph.kind number, .map entries⟩

/-- A key that stands in for its mapping is an ordinary text in that mapping itself. -/
def settleKey (graph : Graph) (entry : Nat × Nat) : Graph :=
  if graph.kind entry.1 = .standIn then
    graph.setIfInBounds entry.1 { graph.node entry.1 with kind := .text }
  else graph

/-- The mappings that a node lends from. -/
def lenders (graph : Graph) (number : Nat) : Except Failure (List Nat) :=
  match (graph.node number).content with
  | .map _ => .ok [number]
  | .list items => if items.all graph.isMap then .ok items else .error .malformed
  | .scalar _ => .error .malformed

/--
Merge what is lent to the mapping with a number, of which `lent` is known already.  Each step takes
away a merge key, so that `fuel` need only be greater than their number.
-/
def mergeInto : Nat → Nat → List (Nat × Nat) → Graph → Except Failure Graph
  | 0, _, _, _ => .error .malformed
  | fuel + 1, number, lent, graph =>
      let entries := graph.entries number
      match entries.find? graph.lends with
      | none => .ok ((entries.foldl settleKey graph).setEntries number (lent ++ entries))
      | some borrowed => do
          let reduced := graph.setEntries number (entries.eraseP graph.lends)
          let lenders ← reduced.lenders borrowed.2
          let (merged, lists) ← lenders.foldlM (fun (graph, lists) lender => do
            let merged ← mergeInto fuel lender [] graph
            pure (merged, merged.entries lender :: lists)) (reduced, [])
          mergeInto fuel number (lent ++ lists.flatten) merged

end Graph
end Yaml
end ApiAccessors
