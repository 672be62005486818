import ApiAccessors.Proofs.Document.Shape
import ApiAccessors.Proofs.Resource.Declared
import ApiAccessors.Proofs.Resource.PathItem
import ApiAccessors.Proofs.Resource.Sorted

namespace ApiAccessors

/-!
# Documents whose path items are reordered

The keys of a path item stand in some order, which the reader of the document keeps.  A document
with the same path items, but for the order of the keys in them, has the same paths in the same
order, and whatever is looked up by the name of a field is found in it just the same.  Only going
through the verbs of a path shows a difference: they come in another order.
-/

/-- A value with its keys in another order, if it is a mapping.  The values in it stay the same. -/
inductive Value.Reordered : Value → Value → Prop
  | same (value : Value) : Reordered value value
  | keys {value other : Value} {entries others : Entries}
      (isMapping : value.entries? = some entries)
      (isOther : other.entries? = some others) (order : entries.Perm others) :
      Reordered value other

namespace Value.Reordered

variable {value other : Value}

/-- The same fields are found in a reordered mapping. -/
theorem field_eq (reordered : Reordered value other) (distinct : value.hasDistinctKeys = true)
    (name : String) : value.field name = other.field name := by
  cases reordered with
  | same => rfl
  | keys isMapping isOther order =>
      have differ := Entries.textsDiffer_of_areDistinct (distinct_of_entries? distinct isMapping).1
      unfold field field?
      rw [isMapping, isOther]
      exact congrArg (fun found => Except.map (·.getD .null) (.ok found))
        (differ.field?_perm order name)

private theorem entries?_orElse {entries : Entries} (isMapping : value.entries? = some entries) :
    (orElse (some value) .empty).entries? = some entries := by
  by_cases given : value.truthy = true
  · rw [orElse, if_pos given, isMapping]
  · have isEmpty : entries = [] := by
      by_contra notEmpty
      exact given (truthy_of_entries? isMapping notEmpty)
    rw [orElse, if_neg given, isEmpty]
    rfl

/-- Whether a mapping counts as given may depend on more than its entries, but what stands for one
that does not has the same entries, namely none. -/
theorem orElse_empty {field otherField : Option Value}
    (related : Option.Rel Reordered field otherField) :
    Reordered (orElse field .empty) (orElse otherField .empty) := by
  cases related with
  | none => exact .same _
  | some reordered =>
      cases reordered with
      | same => exact .same _
      | keys isMapping isOther order =>
          exact .keys (entries?_orElse isMapping) (entries?_orElse isOther) order

end Value.Reordered

/-- The same key or path, with a value whose keys may stand in another order. -/
def SamePlace {α : Type} (left right : α × Value) : Prop :=
  left.1 = right.1 ∧ left.2.Reordered right.2

theorem Entries.field?_related {entries others : Entries}
    (related : List.Forall₂ SamePlace entries others) (name : String) :
    Option.Rel Value.Reordered (field? entries name) (field? others name) := by
  unfold field?
  induction related with
  | nil => exact .none
  | @cons entry otherEntry rest otherRest same later ih =>
      rcases entry with ⟨key, item⟩
      rcases otherEntry with ⟨otherKey, otherItem⟩
      rcases same with ⟨sameKey, sameItem⟩
      cases sameKey
      rw [get?, get?]
      split
      · exact .some sameItem
      · exact ih

theorem Entries.field?_append (before later : Entries) (name : String) :
    field? (before ++ later) name = (field? before name).or (field? later name) := by
  unfold field?
  induction before with
  | nil => rfl
  | cons entry rest ih =>
      rcases entry with ⟨first, here⟩
      rw [List.cons_append, get?, get?]
      split
      · rfl
      · exact ih

theorem Entries.field?_eq_none {entries : Entries} {name : String}
    (unlisted : .text name ∉ entries.map (·.1)) : field? entries name = none := by
  induction entries with
  | nil => rfl
  | cons entry rest ih =>
      rcases entry with ⟨first, here⟩
      have apart : first ≠ .text name := (List.ne_of_not_mem_cons unlisted).symm
      unfold field?
      rw [get?, if_neg (fun same => apart (sameKey_text_iff.mp same))]
      exact ih (List.not_mem_of_not_mem_cons unlisted)

namespace Resource

theorem lists_append_cons {before after : Entries} (unlisted : .text "paths" ∉ before.map (·.1))
    (entries : Entries) :
    Lists (.map (before ++ (.text "paths", .map entries) :: after)) entries := by
  have found : Entries.field? (before ++ (.text "paths", .map entries) :: after) "paths" =
      some (.map entries) := by
    rw [Entries.field?_append, Entries.field?_eq_none unlisted]
    rfl
  have given : Value.orElse (some (.map entries)) .empty = .map entries := by
    cases entries with
    | nil => rfl
    | cons entry rest => rfl
  refine ⟨.map entries, ?_, rfl⟩
  change Except.ok (Value.orElse (Entries.field? _ "paths") .empty) = _
  rw [found, given]

theorem field?_elsewhere (before after : Entries) {paths others : Value} {name : String}
    (notPaths : name ≠ "paths") :
    (Value.map (before ++ (.text "paths", paths) :: after)).field? name =
      (Value.map (before ++ (.text "paths", others) :: after)).field? name := by
  have apart : ¬(Value.text "paths").sameKey (.text name) = true := by
    intro same
    cases Entries.sameKey_text_iff.mp same
    exact notPaths rfl
  have behind : ∀ paths : Value, Entries.field? ((.text "paths", paths) :: after) name =
      Entries.field? after name :=
    fun _ => if_neg apart
  change Except.ok (Entries.field? _ name) = Except.ok (Entries.field? _ name)
  rw [Entries.field?_append, Entries.field?_append, behind, behind]

/-- Two documents that list the same paths in the same order, with items whose keys may stand in
another order, and have the same fields otherwise. -/
structure VerbsReordered (spec other : Value) (entries others : Entries) : Prop where
  lists : Lists spec entries
  other_lists : Lists other others
  items : List.Forall₂ SamePlace entries others
  elsewhere : ∀ name, name ≠ "paths" → spec.field? name = other.field? name

/-- A reordered item has the same verbs, perhaps in another order. -/
theorem declared_perm {item other : Value} (reordered : item.Reordered other) :
    (declared item).Perm (declared other) := by
  cases reordered with
  | same => exact List.Perm.refl _
  | keys isMapping isOther order =>
      rw [declared_of_entries? isMapping, declared_of_entries? isOther]
      exact (order.map _).filterMap _

theorem declaredVerbs_of_reordered {item other : Value} (reordered : item.Reordered other)
    (ended : declaredVerbs item = .ok (declared item)) :
    declaredVerbs other = .ok (declared other) := by
  cases reordered with
  | same => exact ended
  | keys isMapping isOther order =>
      rw [declaredVerbs_of_entries? isOther, declared_of_entries? isOther]

namespace VerbsReordered

/-- To reorder path items is to put paths with reordered items in the place of the others. -/
theorem of_items (before after : Entries) (unlisted : .text "paths" ∉ before.map (·.1))
    {entries others : Entries} (items : List.Forall₂ SamePlace entries others) :
    VerbsReordered (.map (before ++ (.text "paths", .map entries) :: after))
      (.map (before ++ (.text "paths", .map others) :: after)) entries others where
  lists := lists_append_cons unlisted entries
  other_lists := lists_append_cons unlisted others
  items := items
  elsewhere := fun _ notPaths => field?_elsewhere before after notPaths

variable {spec other : Value} {entries others : Entries}
  (reordered : VerbsReordered spec other entries others)

include reordered

theorem keys_eq : entries.map (·.1) = others.map (·.1) := by
  have related : List.Forall₂ (· = ·) (entries.map (·.1)) (others.map (·.1)) := by
    rw [List.forall₂_map_left_iff, List.forall₂_map_right_iff]
    exact reordered.items.imp (fun _ _ same => same.1)
  rw [List.forall₂_eq_eq_eq] at related
  exact related

section

variable (distinct : spec.hasDistinctKeys = true)

include distinct

/-- Every path has the same fields in both documents, also a path that is not listed. -/
theorem itemsAgree (path : String) : ItemsAgree spec other path := by
  have isItem := reordered.lists.pathItem_eq path
  rcases Outcome.bind_eq_ok_iff.mp isItem with ⟨items, isItems, isField⟩
  have itemDistinct := Value.fieldOrEmpty_hasDistinctKeys
    (Value.fieldOrEmpty_hasDistinctKeys distinct isItems) isField
  exact ⟨_, _, isItem, reordered.other_lists.pathItem_eq path,
    (Value.Reordered.orElse_empty (Entries.field?_related reordered.items path)).field_eq
      itemDistinct⟩

theorem ofKey_eq : ofKey spec = ofKey other := by
  funext key
  cases key with
  | text path => exact (reordered.itemsAgree distinct path).ofPath_eq
  | _ => rfl

theorem nameOf_eq : nameOf spec = nameOf other := by
  unfold nameOf
  rw [reordered.ofKey_eq distinct]

theorem allRouted (routed : AllRouted spec entries) : AllRouted other others := by
  intro entry member
  have isKey : entry.1 ∈ entries.map (·.1) := by
    rw [reordered.keys_eq]
    exact List.mem_map_of_mem member
  rcases List.mem_map.mp isKey with ⟨listed, isListed, same⟩
  rw [← reordered.ofKey_eq distinct, ← reordered.nameOf_eq distinct, ← same]
  exact routed listed isListed

/-- The same resources are found, in the same order. -/
theorem all_eq {resources : List String} (found : all spec = .ok resources) :
    all other = .ok resources := by
  rcases reordered.lists.all_eq_ok_iff.mp found with ⟨routed, same⟩
  apply reordered.other_lists.all_eq_ok_iff.mpr
  refine ⟨reordered.allRouted distinct routed, ?_⟩
  have names : entries.map (fun entry => nameOf spec entry.1) =
      others.map (fun entry => nameOf other entry.1) := by
    have mapped := congrArg (List.map (nameOf spec)) reordered.keys_eq
    rw [List.map_map, List.map_map, reordered.nameOf_eq distinct] at mapped
    rw [reordered.nameOf_eq distinct]
    exact mapped
  rw [same, names]

/-- A resource has the same paths in both documents. -/
theorem own_related (resource : String) :
    List.Forall₂ SamePlace (own spec entries resource) (own other others resource) := by
  have kept : List.Forall₂ SamePlace
      (entries.filter (fun entry => nameOf spec entry.1 == resource))
      (others.filter (fun entry => nameOf other entry.1 == resource)) := by
    apply List.rel_filter _ reordered.items
    intro entry otherEntry same
    change (nameOf spec entry.1 == resource) = true ↔ (nameOf other otherEntry.1 == resource) = true
    rw [reordered.nameOf_eq distinct, same.1]
  have listed : List.Forall₂ SamePlace (listed spec entries resource)
      (listed other others resource) := by
    unfold Resource.listed
    rw [List.forall₂_map_left_iff, List.forall₂_map_right_iff]
    exact kept.imp (fun _ _ same => ⟨congrArg keyText same.1, same.2⟩)
  exact forall₂_sortBy _ (fun _ _ same => same.1) listed

theorem flatMap_own_related (resources : List String) :
    List.Forall₂ SamePlace (resources.flatMap (own spec entries))
      (resources.flatMap (own other others)) := by
  induction resources with
  | nil => exact .nil
  | cons resource rest ih => exact List.rel_append (reordered.own_related distinct resource) ih

end

end VerbsReordered

end Resource
end ApiAccessors
