import ApiAccessors.Yaml.Assembly

namespace ApiAccessors
namespace Yaml

/-!
# Documents

The value of a document: its tokens describe nodes, the nodes become parts, and the parts are
assembled.
-/

/-- The value of what the tokens of a document describe. -/
def Outline.value (outline : Outline) : Except Failure Value := do
  let graph := outline.graph
  let start : Making :=
    ⟨graph, Array.replicate graph.size none, [], graph.lendingCount + 1⟩
  let ((), making) ← (Make.whole outline.root).run start
  pure (Parts.whole making.parts outline.root)

/-- The value of a document; an empty document is null. -/
def read (room : Nat) (text : List Char) : Except Failure Value := do
  match ← Outline.ofTokens room (tokens text) with
  | none => pure .null
  | some outline => outline.value

end Yaml
end ApiAccessors
