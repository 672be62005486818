import ApiAccessors.Proofs.Resource.Routing
import Mathlib.Data.List.Forall2
import Mathlib.Data.List.Nodup

namespace ApiAccessors
namespace Resource

/-!
# Sorting by texts

Paths, resources and modules are all sorted by a text.  Where the texts differ, the sorted list is
strictly increasing, and it does not depend on the order in which the list was given.
-/

section

variable {α : Type} (text : α → String)

/-- Sort by a text of each item. -/
def sortBy (items : List α) : List α :=
  items.mergeSort (fun left right => textLe (text left) (text right))

theorem sortBy_perm (items : List α) : (sortBy text items).Perm items := List.mergeSort_perm _ _

theorem mem_sortBy {items : List α} {item : α} : item ∈ sortBy text items ↔ item ∈ items :=
  (sortBy_perm text items).mem_iff

theorem sortBy_pairwise_le (items : List α) :
    (sortBy text items).Pairwise (fun left right => text left ≤ text right) := by
  have transitive : ∀ first second third : α, textLe (text first) (text second) = true →
      textLe (text second) (text third) = true → textLe (text first) (text third) = true := by
    intro first second third below above
    exact decide_eq_true (String.le_trans (of_decide_eq_true below) (of_decide_eq_true above))
  have total : ∀ first second : α,
      (textLe (text first) (text second) || textLe (text second) (text first)) = true := by
    intro first second
    rcases String.le_total (text first) (text second) with below | above
    · exact Bool.or_eq_true_iff.mpr (Or.inl (decide_eq_true below))
    · exact Bool.or_eq_true_iff.mpr (Or.inr (decide_eq_true above))
  exact (List.pairwise_mergeSort transitive total items).imp of_decide_eq_true

/-- Sorted texts that differ are strictly increasing. -/
theorem sortBy_pairwise_lt {items : List α} (differ : (items.map text).Nodup) :
    (sortBy text items).Pairwise (fun left right => text left < text right) := by
  have sortedDiffer : ((sortBy text items).map text).Nodup :=
    ((sortBy_perm text items).map text).nodup_iff.mpr differ
  apply (sortBy_pairwise_le text items).imp₂ _ (List.pairwise_map.mp sortedDiffer)
  intro left right below different
  by_contra notBelow
  exact different (String.le_antisymm below (String.not_lt.mp notBelow))

/-- Items that are given in order stay as they are. -/
theorem sortBy_of_pairwise {items : List α}
    (inOrder : items.Pairwise (fun left right => textLe (text left) (text right) = true)) :
    sortBy text items = items :=
  List.mergeSort_of_pairwise inOrder

/-- The order in which the items are given has no influence on the sorted list. -/
theorem sortBy_eq_of_perm {items others : List α} (order : items.Perm others)
    (differ : (items.map text).Nodup) : sortBy text items = sortBy text others := by
  have othersDiffer : (others.map text).Nodup := (order.map text).nodup_iff.mp differ
  apply List.Perm.eq_of_pairwise _ (sortBy_pairwise_lt text differ)
    (sortBy_pairwise_lt text othersDiffer)
  · exact (sortBy_perm text items).trans (order.trans (sortBy_perm text others).symm)
  · intro left right _ _ below above
    exact False.elim (String.lt_irrefl _ (String.lt_trans below above))

/-- Strictly increasing lists with the same members are equal. -/
theorem eq_of_increasing {left right : List α}
    (leftIncreases : left.Pairwise (fun first second => text first < text second))
    (rightIncreases : right.Pairwise (fun first second => text first < text second))
    (same : ∀ item, item ∈ left ↔ item ∈ right) : left = right := by
  have apart : ∀ first second : α, text first < text second → first ≠ second := by
    intro first second below equal
    exact String.lt_irrefl _ (equal ▸ below)
  have leftDiffers : left.Nodup := leftIncreases.imp (apart _ _)
  have rightDiffers : right.Nodup := rightIncreases.imp (apart _ _)
  have order : left.Perm right :=
    (List.perm_ext_iff_of_nodup leftDiffers rightDiffers).mpr same
  apply List.Perm.eq_of_pairwise _ leftIncreases rightIncreases order
  intro first second _ _ below above
  exact False.elim (String.lt_irrefl _ (String.lt_trans below above))

/-- Items may be changed before or after they are sorted, if the change keeps their texts. -/
theorem map_sortBy {β : Type} {key : β → String} {form : β → α} {items : List β}
    (same : ∀ item ∈ items, key item = text (form item)) :
    (sortBy key items).map form = sortBy text (items.map form) := by
  apply List.map_mergeSort
  intro first isFirst second isSecond
  rw [same first isFirst, same second isSecond]

/-- Sorting keeps related items side by side, if they have the same texts. -/
theorem forall₂_sortBy {β : Type} {otherText : β → String} {relation : α → β → Prop}
    (sameText : ∀ item other, relation item other → text item = otherText other)
    {items : List α} {others : List β} (related : List.Forall₂ relation items others) :
    List.Forall₂ relation (sortBy text items) (sortBy otherText others) := by
  have each : ∀ pair ∈ items.zip others, relation pair.1 pair.2 :=
    fun _ => List.forall₂_zip related
  have left : (sortBy (fun pair => text pair.1) (items.zip others)).map Prod.fst =
      sortBy text ((items.zip others).map Prod.fst) := map_sortBy text (fun _ _ => rfl)
  have right : (sortBy (fun pair => text pair.1) (items.zip others)).map Prod.snd =
      sortBy otherText ((items.zip others).map Prod.snd) :=
    map_sortBy otherText (fun pair member => sameText _ _ (each pair member))
  rw [List.map_fst_zip (Nat.le_of_eq related.length_eq)] at left
  rw [List.map_snd_zip (Nat.le_of_eq related.length_eq.symm)] at right
  rw [← left, ← right, List.forall₂_map_left_iff, List.forall₂_map_right_iff, List.forall₂_same]
  exact fun pair member => each pair ((mem_sortBy _).mp member)

end

section

variable {spec : Value} {entries : Entries}

theorem own_eq_sortBy (resource : String) :
    own spec entries resource = sortBy (·.1) (listed spec entries resource) := rfl

/-- Where the paths of a resource are listed in order, they are found as they are listed. -/
theorem Lists.pathsOf_of_pairwise (lists : Lists spec entries) (routed : AllRouted spec entries)
    (resource : String)
    (inOrder : ((listed spec entries resource).map (·.1)).Pairwise
      (fun left right => textLe left right = true)) :
    pathsOf spec resource = .ok (listed spec entries resource) := by
  apply lists.pathsOf_eq_ok_iff.mpr
  refine ⟨routed, ?_⟩
  rw [own_eq_sortBy, sortBy_of_pairwise _ (List.pairwise_map.mp inOrder)]

theorem AllRouted.mem_own (routed : AllRouted spec entries) {resource path : String}
    {item : Value} : (path, item) ∈ own spec entries resource ↔
      (.text path, item) ∈ entries ∧ nameOf spec (.text path) = resource := by
  unfold own listed
  rw [List.mem_mergeSort, List.mem_map]
  constructor
  · rintro ⟨⟨key, held⟩, member, same⟩
    have parts := List.mem_filter.mp member
    rcases routed.exists_text parts.1 with ⟨text, isText⟩
    cases isText
    cases same
    exact ⟨parts.1, beq_iff_eq.mp parts.2⟩
  · rintro ⟨member, name⟩
    exact ⟨(.text path, item), List.mem_filter.mpr ⟨member, beq_iff_eq.mpr name⟩, rfl⟩

/-- Paths that are listed once are found once. -/
theorem AllRouted.listed_nodup (routed : AllRouted spec entries) (differ : entries.TextsDiffer)
    (resource : String) : ((listed spec entries resource).map (·.1)).Nodup := by
  have filtered := differ.sublist
    (List.filter_sublist (p := fun entry => nameOf spec entry.1 == resource))
  unfold listed
  rw [List.map_map]
  apply List.pairwise_map.mpr
  apply filtered.imp_of_mem
  intro first second firstMember secondMember different same
  rcases routed.exists_text (List.mem_filter.mp firstMember).1 with ⟨path, isPath⟩
  rcases routed.exists_text (List.mem_filter.mp secondMember).1 with ⟨other, isOther⟩
  apply different path isPath
  simp only [Function.comp_apply, isPath, isOther, keyText] at same
  rw [isOther, same]

theorem AllRouted.own_pairwise_lt (routed : AllRouted spec entries) (differ : entries.TextsDiffer)
    (resource : String) :
    (own spec entries resource).Pairwise (fun left right => left.1 < right.1) := by
  rw [own_eq_sortBy]
  exact sortBy_pairwise_lt _ (routed.listed_nodup differ resource)

private theorem eraseDups_nodup : (names : List String) → names.eraseDups.Nodup
  | [] => List.nodup_nil
  | name :: rest => by
      rw [List.eraseDups_cons]
      refine List.nodup_cons.mpr ⟨?_, eraseDups_nodup _⟩
      intro again
      have kept := (List.mem_filter.mp (List.mem_eraseDups.mp again)).2
      simp at kept
termination_by names => names.length
decreasing_by exact Nat.lt_succ_of_le (List.length_filter_le _ _)

theorem Lists.mem_all_iff (lists : Lists spec entries) {resources : List String}
    (found : all spec = .ok resources) {resource : String} :
    resource ∈ resources ↔ resource ≠ "" ∧ ∃ entry ∈ entries, nameOf spec entry.1 = resource := by
  rw [(lists.all_eq_ok_iff.mp found).2, List.mem_eraseDups, List.mem_filter, List.mem_map]
  constructor
  · rintro ⟨listed, notEmpty⟩
    refine ⟨?_, listed⟩
    intro empty
    rw [empty] at notEmpty
    cases notEmpty
  · rintro ⟨notEmpty, listed⟩
    refine ⟨listed, ?_⟩
    simpa using notEmpty

theorem Lists.all_nodup (lists : Lists spec entries) {resources : List String}
    (found : all spec = .ok resources) : resources.Nodup := by
  rw [(lists.all_eq_ok_iff.mp found).2]
  exact eraseDups_nodup _

end

end Resource
end ApiAccessors
