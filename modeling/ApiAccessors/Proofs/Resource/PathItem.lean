import ApiAccessors.Api.ContentType
import ApiAccessors.Api.OperationName

namespace ApiAccessors

/-!
# What a path is looked up by

Of the whole document, the resource of a path, the candidates for its operations and their content
types depend on the item of this path alone.  Two documents that agree on the item of a path agree
on everything that is found for it, whatever else they contain.  Of the item they need not even
agree on the order of the fields, since each field is looked up by its name.
-/

section

variable {spec other : Value} {path : String}

namespace Resource

theorem ofPath_congr (same : pathItem spec path = pathItem other path) :
    ofPath spec path = ofPath other path := by
  unfold ofPath firstTag
  rw [same]

/-- Keys that are no paths have the same outcome in all documents. -/
theorem ofKey_congr (same : ∀ path, pathItem spec path = pathItem other path) :
    ofKey spec = ofKey other := by
  funext key
  cases key with
  | text path => exact ofPath_congr (same path)
  | _ => rfl

end Resource

theorem OperationName.candidate_congr
    (same : Resource.pathItem spec path = Resource.pathItem other path) (method : String) :
    candidate spec path method = candidate other path method := by
  unfold candidate
  rw [Resource.ofPath_congr same]

theorem ContentType.of_congr
    (same : Resource.pathItem spec path = Resource.pathItem other path) (method : String) :
    of spec path method = of other path method := by
  unfold of
  rw [same]

/-- The two documents have items for the path in which the same fields are found. -/
def ItemsAgree (spec other : Value) (path : String) : Prop :=
  ∃ item otherItem, Resource.pathItem spec path = .ok item ∧
    Resource.pathItem other path = .ok otherItem ∧ ∀ name, item.field name = otherItem.field name

namespace ItemsAgree

variable (agree : ItemsAgree spec other path)

include agree

theorem ofPath_eq : Resource.ofPath spec path = Resource.ofPath other path := by
  rcases agree with ⟨item, otherItem, isItem, isOther, same⟩
  have tags : ∀ verbs, Resource.firstTagIn item verbs = Resource.firstTagIn otherItem verbs := by
    intro verbs
    induction verbs with
    | nil => rfl
    | cons verb rest ih => simp only [Resource.firstTagIn, same, ih]
  have firstTag : Resource.firstTag spec path = Resource.firstTag other path := by
    unfold Resource.firstTag
    rw [isItem, isOther]
    exact tags Resource.verbs
  unfold Resource.ofPath
  rw [firstTag]

theorem candidate_eq (method : String) :
    OperationName.candidate spec path method = OperationName.candidate other path method := by
  unfold OperationName.candidate
  rw [agree.ofPath_eq]

theorem contentType_eq (method : String) :
    ContentType.of spec path method = ContentType.of other path method := by
  rcases agree with ⟨item, otherItem, isItem, isOther, same⟩
  unfold ContentType.of
  rw [isItem, isOther]
  change (item.field method >>= _) = (otherItem.field method >>= _)
  rw [same]

end ItemsAgree

end

end ApiAccessors
