import ApiAccessors.Yaml.Node
import ApiAccessors.Yaml.ScalarValue
import Mathlib.Data.List.Basic

namespace ApiAccessors
namespace Yaml

/-!
# Values in nodes

A node of a graph holds a value if the value can be read off from it and from the nodes of its
parts.  The parts of a collection have greater numbers than the collection itself.  So what a node
holds depends only on the nodes from it on: nodes that are added leave it alone, and so do the ones
that began before it and end later.
-/

structure HeldItem where
  number : Nat
  value : Value

/-- The nodes of a key and of its value. -/
structure HeldEntry where
  key : Nat
  name : String
  item : HeldItem

def HeldEntry.numbers (entry : HeldEntry) : Nat × Nat := (entry.key, entry.item.number)

def HeldEntry.entry (entry : HeldEntry) : Value × Value := (.text entry.name, entry.item.value)

namespace Graph

/-- The node with a number is the text of a key. -/
def HoldsKey (graph : Graph) (number : Nat) (name : String) : Prop :=
  graph[number]? = some ⟨.text, .scalar name⟩

inductive Holds (graph : Graph) : Nat → Value → Prop
  | scalar {number : Nat} {kind : Kind} {text : String} {value : Value}
      (isNode : graph[number]? = some ⟨kind, .scalar text⟩) (isScalar : kind.isScalar = true)
      (isValue : scalarValue kind text = .ok value) : Holds graph number value
  | list {number : Nat} {items : List HeldItem}
      (isNode : graph[number]? = some ⟨.list, .list (items.map HeldItem.number)⟩)
      (later : ∀ item ∈ items, number < item.number)
      (hold : ∀ item ∈ items, Holds graph item.number item.value) :
      Holds graph number (.list (items.map HeldItem.value))
  | map {number : Nat} {entries : List HeldEntry}
      (isNode : graph[number]? = some ⟨.map, .map (entries.map HeldEntry.numbers)⟩)
      (keysLater : ∀ entry ∈ entries, number < entry.key)
      (keys : ∀ entry ∈ entries, graph.HoldsKey entry.key entry.name)
      (differ : (entries.map HeldEntry.name).Nodup)
      (later : ∀ entry ∈ entries, number < entry.item.number)
      (hold : ∀ entry ∈ entries, Holds graph entry.item.number entry.item.value) :
      Holds graph number (.map (entries.map HeldEntry.entry))

/-- All nodes of the one graph are in the other, which may have more. -/
structure Extends (old new : Graph) : Prop where
  size : old.size ≤ new.size
  same : ∀ number < old.size, new[number]? = old[number]?

section

variable {graph other last : Graph} {number : Nat} {value : Value} {name : String}

theorem Extends.refl (graph : Graph) : Extends graph graph := ⟨Nat.le_refl _, fun _ _ => rfl⟩

theorem Extends.trans (first : Extends graph other) (second : Extends other last) :
    Extends graph last :=
  ⟨Nat.le_trans first.size second.size, fun number isOld =>
    (second.same number (Nat.lt_of_lt_of_le isOld first.size)).trans (first.same number isOld)⟩

theorem extends_push (graph : Graph) (node : Node) : Extends graph (graph.push node) := by
  constructor
  · rw [Array.size_push]
    exact Nat.le_succ _
  · intro number isOld
    rw [Array.getElem?_push_lt isOld, Array.getElem?_eq_getElem isOld]

/-- A node that begins and ends later is no change to the nodes so far. -/
theorem Extends.set (extended : Extends graph other) {node : Node} (isLater : graph.size ≤ number) :
    Extends graph (other.setIfInBounds number node) := by
  constructor
  · rw [Array.size_setIfInBounds]
    exact extended.size
  · intro index isOld
    rw [Array.getElem?_setIfInBounds_ne (by omega)]
    exact extended.same index isOld

theorem lt_size_of_getElem? {node : Node} (isNode : graph[number]? = some node) :
    number < graph.size :=
  (Array.getElem?_eq_some_iff.mp isNode).1

theorem Holds.lt_size (holds : graph.Holds number value) : number < graph.size := by
  cases holds with
  | scalar isNode => exact lt_size_of_getElem? isNode
  | list isNode => exact lt_size_of_getElem? isNode
  | map isNode => exact lt_size_of_getElem? isNode

/-- What a node holds depends on the nodes from it on. -/
theorem Holds.congr (holds : graph.Holds number value)
    (same : ∀ index < graph.size, number ≤ index → other[index]? = graph[index]?) :
    other.Holds number value := by
  have moved : ∀ {index node}, number ≤ index → graph[index]? = some node →
      other[index]? = some node :=
    fun reached isNode => (same _ (lt_size_of_getElem? isNode) reached).trans isNode
  induction holds with
  | scalar isNode isScalar isValue => exact .scalar (moved (Nat.le_refl _) isNode) isScalar isValue
  | list isNode later hold ih =>
      refine .list (moved (Nat.le_refl _) isNode) later (fun item member => ?_)
      have beyond := Nat.le_of_lt (later item member)
      exact ih item member
        (fun index isOld reached => same index isOld (Nat.le_trans beyond reached))
        (fun reached => moved (Nat.le_trans beyond reached))
  | map isNode keysLater keys differ later hold ih =>
      refine .map (moved (Nat.le_refl _) isNode) keysLater
        (fun entry member => moved (Nat.le_of_lt (keysLater entry member)) (keys entry member))
        differ later (fun entry member => ?_)
      have beyond := Nat.le_of_lt (later entry member)
      exact ih entry member
        (fun index isOld reached => same index isOld (Nat.le_trans beyond reached))
        (fun reached => moved (Nat.le_trans beyond reached))

theorem Holds.extend (holds : graph.Holds number value) (extended : Extends graph other) :
    other.Holds number value :=
  holds.congr (fun index isOld _ => extended.same index isOld)

theorem HoldsKey.extend (holds : graph.HoldsKey number name) (extended : Extends graph other) :
    other.HoldsKey number name :=
  (extended.same _ (lt_size_of_getElem? holds)).trans holds

/-- A node that ends later leaves those behind it alone. -/
theorem Holds.set (holds : graph.Holds number value) {before : Nat} (isBefore : before < number)
    (node : Node) : Holds (graph.setIfInBounds before node) number value :=
  holds.congr (fun _ _ reached => Array.getElem?_setIfInBounds_ne (by omega))

theorem HoldsKey.set (holds : graph.HoldsKey number name) {before : Nat}
    (isBefore : before < number) (node : Node) :
    HoldsKey (graph.setIfInBounds before node) number name :=
  (Array.getElem?_setIfInBounds_ne (Nat.ne_of_lt isBefore)).trans holds

/-- Where two lists have the same of one thing they have the same of another that it tells. -/
theorem map_eq_of_map_eq {α β γ : Type} {told : α → β} {asked : α → γ} {items others : List α}
    (same : items.map told = others.map told)
    (tells : ∀ item ∈ items, ∀ other ∈ others, told item = told other → asked item = asked other) :
    items.map asked = others.map asked := by
  induction items generalizing others with
  | nil =>
      rw [List.map_nil] at same
      rw [List.map_eq_nil_iff.mp same.symm]
  | cons item items ih =>
      cases others with
      | nil => cases same
      | cons other others =>
          rcases List.cons.inj same with ⟨here, later⟩
          exact congrArg₂ List.cons (tells item List.mem_cons_self other List.mem_cons_self here)
            (ih later (fun item isItem other isOther =>
              tells item (List.mem_cons_of_mem _ isItem) other (List.mem_cons_of_mem _ isOther)))

/-- A node holds at most one value. -/
theorem Holds.unique {second : Value} (holds : graph.Holds number value)
    (alike : graph.Holds number second) : value = second := by
  induction holds generalizing second with
  | scalar isNode isScalar isValue =>
      cases alike with
      | scalar isOther _ isSecond =>
          cases Option.some.inj (isNode.symm.trans isOther)
          exact Except.ok.inj (isValue.symm.trans isSecond)
      | list isOther => cases isNode.symm.trans isOther
      | map isOther => cases isNode.symm.trans isOther
  | @list number items isNode later hold ih =>
      cases alike with
      | scalar isOther => cases isNode.symm.trans isOther
      | map isOther => cases isNode.symm.trans isOther
      | @list _ others isOther _ alike =>
          have isContent := congrArg Node.content (Option.some.inj (isNode.symm.trans isOther))
          have same := Content.list.inj isContent
          refine congrArg Value.list
            (map_eq_of_map_eq same (fun item isItem other isOther same => ?_))
          exact ih item isItem (same ▸ alike other isOther)
  | @map number entries isNode keysLater keys differ later hold ih =>
      cases alike with
      | scalar isOther => cases isNode.symm.trans isOther
      | list isOther => cases isNode.symm.trans isOther
      | @map _ others isOther _ alikeKeys _ _ alike =>
          have isContent := congrArg Node.content (Option.some.inj (isNode.symm.trans isOther))
          have same := Content.map.inj isContent
          refine congrArg Value.map
            (map_eq_of_map_eq same (fun entry isEntry other isOther same => ?_))
          rcases Prod.mk.inj same with ⟨sameKey, sameNumber⟩
          have isKey : graph.HoldsKey entry.key other.name := sameKey ▸ alikeKeys other isOther
          have isName : entry.name = other.name :=
            Content.scalar.inj (congrArg Node.content
              (Option.some.inj ((keys entry isEntry).symm.trans isKey)))
          have isValue := ih entry isEntry (sameNumber ▸ alike other isOther)
          unfold HeldEntry.entry
          rw [isName, isValue]

end

end Graph

end Yaml
end ApiAccessors
