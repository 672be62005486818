import ApiAccessors.Proofs.Yaml.Assembling
import ApiAccessors.Proofs.Yaml.Nodes

namespace ApiAccessors
namespace Yaml

/-!
# Reading of documents between brackets

The lexer makes the tokens of the value that a document stands for, the grammar makes nodes of the
tokens, and the value is assembled from the nodes.  So the reader of whole documents reads those
between brackets as they stand.
-/

/-- What tokens describe is the value of the document. -/
theorem read_of_describes {room limit : Nat} {text : List Char} {made : List Token} {value : Value}
    (describes : Describes room made value) (shallow : room ≤ limit)
    (isTokens : tokens text = made ++ [.finish]) : read limit text = .ok value := by
  rcases exists_outline describes shallow with ⟨graph, holds, isOutline⟩
  unfold read
  rw [isTokens, isOutline]
  exact value_of_holds holds

theorem readsFlow_read (limit : Nat) : ReadsFlow limit (read limit) := by
  intro text entries document
  rcases exists_tokens document with ⟨made, describes, isTokens⟩
  exact read_of_describes describes (Nat.le_refl limit) isTokens

end Yaml
end ApiAccessors
