import ApiAccessors.Proofs.Yaml.Parts
import ApiAccessors.Yaml.Reader

namespace ApiAccessors
namespace Yaml

/-!
# Assembling of held values

The value that is assembled from the parts of a graph is the one that its first node holds.  What is
known already of other nodes is what they hold, and no node is inside itself, because the parts of a
collection have greater numbers.
-/

namespace Parts

/-- Everything that has been met has its part. -/
structure IsComplete (graph : Graph) (parts : Parts) : Prop where
  size : parts.size = graph.size
  made : ∀ number part, parts[number]? = some (some part) → IsPart graph (IsMet parts) number part

/-- What is known of the nodes is what they hold. -/
def IsKnown (graph : Graph) (known : Known) : Prop :=
  ∀ number value, known[number]? = some (some value) → graph.Holds number value

section

variable {graph : Graph} {parts : Parts} {number : Nat}

theorem exists_key {name : String} (complete : IsComplete graph parts)
    (isKey : graph.HoldsKey number name) (isMet : IsMet parts number) :
    parts[number]? = some (some (.scalar (.text name) false)) := by
  rcases isMet with ⟨part, isPart⟩
  cases complete.made number part isPart with
  | scalar isNode isValue isNumber =>
      cases Option.some.inj (isKey.symm.trans isNode)
      cases isValue
      rw [isPart, isNumber (by decide)]
  | list isNode => cases isKey.symm.trans isNode
  | map isNode => cases isKey.symm.trans isNode

theorem key_eq {name : String} (complete : IsComplete graph parts)
    (isKey : graph.HoldsKey number name) (isMet : IsMet parts number) :
    parts.key number = .text name := by
  unfold key
  rw [exists_key complete isKey isMet]
  rfl

theorem areOneKey_eq_false {other : Nat} {name otherName : String}
    (complete : IsComplete graph parts) (isKey : graph.HoldsKey number name)
    (isMet : IsMet parts number) (isOther : graph.HoldsKey other otherName)
    (otherMet : IsMet parts other) (differ : name ≠ otherName) :
    parts.areOneKey number other = false := by
  have isFirst := key_eq complete isKey isMet
  have isSecond := key_eq complete isOther otherMet
  have apart : number ≠ other := by
    rintro rfl
    exact differ (Value.text.inj (isFirst.symm.trans isSecond))
  have isNumber : parts.isNotANumber number = false := by
    unfold isNotANumber
    rw [exists_key complete isKey isMet]
    rfl
  unfold areOneKey
  rw [isFirst, isSecond, isNumber]
  simp [apart, differ, Value.sameKey]

theorem putEntry_of_new {key value : Nat} {entries : List (Nat × Nat)}
    (new : ∀ entry ∈ entries, parts.areOneKey entry.1 key = false) :
    parts.putEntry key value entries = entries ++ [(key, value)] := by
  induction entries with
  | nil => rfl
  | cons entry entries ih =>
      rcases List.forall_mem_cons.mp new with ⟨here, later⟩
      rw [putEntry, here, if_neg Bool.false_ne_true, ih later]
      rfl

/-- Entries of which no two have one key are left as they are. -/
theorem distinct_of_pairwise {entries : List (Nat × Nat)}
    (apart : entries.Pairwise (fun first second => parts.areOneKey first.1 second.1 = false)) :
    parts.distinct entries = entries := by
  have behind : ∀ known others : List (Nat × Nat),
      (known ++ others).Pairwise (fun first second => parts.areOneKey first.1 second.1 = false) →
        others.foldl (fun known entry => parts.putEntry entry.1 entry.2 known) known =
          known ++ others := by
    intro known others
    induction others generalizing known with
    | nil => exact fun _ => (List.append_nil known).symm
    | cons entry others ih =>
        intro apart
        have new : ∀ old ∈ known, parts.areOneKey old.1 entry.1 = false :=
          fun old member => (List.pairwise_append.mp apart).2.2 old member entry List.mem_cons_self
        rw [List.append_cons] at apart
        rw [List.foldl_cons, putEntry_of_new new, ih _ apart, ← List.append_cons]
  exact behind [] entries apart

theorem run_bind_of_eq {σ α β : Type} {first : StateM σ α} {next : α → StateM σ β} {state after : σ}
    {result : α} (isFirst : first.run state = (result, after)) :
    (first >>= next).run state = (next result).run after := by
  rw [StateT.run_bind, isFirst]
  rfl

/-- A step gives the value with no collection around it inside, and only adds what nodes hold. -/
def Assembles (graph : Graph) (step : StateM Known Inside) (value : Value) : Prop :=
  ∀ known, IsKnown graph known → ∃ after, step.run known = ((value, []), after) ∧
    IsKnown graph after

theorem exists_run_mapM {α : Type} {step : Nat → StateM Known Inside} {items : List α}
    {numberOf : α → Nat} {valueOf : α → Value}
    (assembles : ∀ item ∈ items, Assembles graph (step (numberOf item)) (valueOf item))
    (known : Known) (isKnown : IsKnown graph known) :
    ∃ after, ((items.map numberOf).mapM step).run known =
      (items.map (fun item => (valueOf item, [])), after) ∧ IsKnown graph after := by
  induction items generalizing known with
  | nil => exact ⟨known, rfl, isKnown⟩
  | cons item items ih =>
      rcases List.forall_mem_cons.mp assembles with ⟨here, later⟩
      rcases here known isKnown with ⟨between, isFirst, knownBetween⟩
      rcases ih later between knownBetween with ⟨after, isRest, knownAfter⟩
      refine ⟨after, ?_, knownAfter⟩
      rw [List.map_cons, List.mapM_cons, run_bind_of_eq isFirst, run_bind_of_eq isRest]
      rfl

/-- A node that no collection around has the number of is assembled from its parts, unless it is
known already. -/
theorem assembles_value {depth : Nat} {around : List Nat} {value : Value}
    (holds : graph.Holds number value) (inner : ∀ outer ∈ around, outer < number)
    (assembles : Assembles graph (parts.content depth (number :: around) number) value) :
    Assembles graph (parts.value (depth + 1) around number) value := by
  intro known isKnown
  have isRead : (get : StateM Known Known).run known = (known, known) := rfl
  rw [Parts.value, run_bind_of_eq isRead]
  cases isFound : known[number]?.getD none with
  | some found =>
      have isEntry : known[number]? = some (some found) :=
        (Option.getD_eq_iff.mp isFound).resolve_right (by rintro ⟨-, ⟨⟩⟩)
      have same := (isKnown number found isEntry).unique holds
      exact ⟨known, by rw [same]; rfl, isKnown⟩
  | none =>
      have notAround : around.contains number = false := by
        rw [List.contains_eq_mem, decide_eq_false_iff_not]
        exact fun member => Nat.lt_irrefl _ (inner number member)
      rcases assembles known isKnown with ⟨between, isContent, knownBetween⟩
      refine ⟨between.setIfInBounds number (some value), ?_, fun other found isEntry => ?_⟩
      · simp only [notAround, Bool.false_eq_true, if_false]
        rw [run_bind_of_eq isContent]
        rfl
      · rw [Array.getElem?_setIfInBounds] at isEntry
        split at isEntry
        · rename_i same
          subst same
          split at isEntry
          · cases isEntry
            exact holds
          · cases isEntry
        · exact knownBetween other found isEntry

theorem assembles_scalar {value : Value} {isNotANumber : Bool}
    (isPart : parts[number]? = some (some (.scalar value isNotANumber))) (depth : Nat)
    (around : List Nat) : Assembles graph (parts.content (depth + 1) around number) value := by
  intro known isKnown
  refine ⟨known, ?_, isKnown⟩
  unfold content
  simp only [isPart]
  rfl

theorem flatMap_inside {α : Type} (items : List α) (valueOf : α → Value) :
    (items.map (fun item => (valueOf item, ([] : List Nat)))).flatMap (·.2) = [] := by
  simp

theorem assembles_list {depth : Nat} {around : List Nat} {items : List HeldItem}
    (isPart : parts[number]? = some (some (.list (items.map HeldItem.number))))
    (assembles : ∀ item ∈ items,
      Assembles graph (parts.value depth around item.number) item.value) :
    Assembles graph (parts.content (depth + 1) around number)
      (.list (items.map HeldItem.value)) := by
  intro known isKnown
  rcases exists_run_mapM assembles known isKnown with ⟨after, isRun, knownAfter⟩
  refine ⟨after, ?_, knownAfter⟩
  unfold content
  simp only [isPart, Option.getD_some]
  rw [run_bind_of_eq isRun, List.map_map, flatMap_inside]
  rfl

theorem assembles_map {depth : Nat} {around : List Nat} {entries : List HeldEntry}
    (complete : IsComplete graph parts)
    (isPart : parts[number]? = some (some (.map (entries.map HeldEntry.numbers))))
    (keys : ∀ entry ∈ entries, graph.HoldsKey entry.key entry.name)
    (met : ∀ entry ∈ entries, IsMet parts entry.key)
    (differ : (entries.map HeldEntry.name).Nodup)
    (assembles : ∀ entry ∈ entries,
      Assembles graph (parts.value depth around entry.item.number) entry.item.value) :
    Assembles graph (parts.content (depth + 1) around number)
      (.map (entries.map HeldEntry.entry)) := by
  intro known isKnown
  rcases exists_run_mapM assembles known isKnown with ⟨after, isRun, knownAfter⟩
  refine ⟨after, ?_, knownAfter⟩
  have distinct : parts.distinct (entries.map HeldEntry.numbers) =
      entries.map HeldEntry.numbers := by
    apply distinct_of_pairwise
    refine List.pairwise_map.mpr ((List.pairwise_map.mp differ).imp_of_mem ?_)
    intro first second isFirst isSecond apart
    exact areOneKey_eq_false complete (keys first isFirst) (met first isFirst)
      (keys second isSecond) (met second isSecond) apart
  have names : (entries.map HeldEntry.numbers).map (fun entry => parts.key entry.1) =
      entries.map (fun entry => .text entry.name) := by
    rw [List.map_map]
    exact List.map_congr_left (fun entry member =>
      key_eq complete (keys entry member) (met entry member))
  have numbers : (entries.map HeldEntry.numbers).map (·.2) =
      entries.map (fun entry => entry.item.number) :=
    List.map_map
  unfold content
  simp only [isPart, Option.getD_some, distinct, names, numbers]
  rw [run_bind_of_eq isRun, List.map_map, flatMap_inside]
  exact congrArg (fun entries => ((Value.map entries, []), after)) List.zip_map'

/-- What a node holds is assembled from its part and those of the nodes in it. -/
theorem assembles_of_holds (complete : IsComplete graph parts) {value : Value}
    (holds : graph.Holds number value) (isMet : IsMet parts number) {depth : Nat}
    (enough : 2 * (graph.size - number) ≤ depth) {around : List Nat}
    (inner : ∀ outer ∈ around, outer < number) :
    Assembles graph (parts.value depth around number) value := by
  induction holds generalizing depth around with
  | @scalar number kind text value isNode isScalar isValue =>
      have inBounds := Graph.lt_size_of_getElem? isNode
      obtain ⟨depth, rfl⟩ := Nat.exists_eq_add_of_le' (show 2 ≤ depth by omega)
      refine assembles_value (.scalar isNode isScalar isValue) inner ?_
      rcases isMet with ⟨part, isPart⟩
      cases complete.made number part isPart with
      | scalar isOther isSame _ =>
          cases Option.some.inj (isNode.symm.trans isOther)
          cases isValue.symm.trans isSame
          exact assembles_scalar isPart depth _
      | list isOther => cases isNode.symm.trans isOther
      | map isOther => cases isNode.symm.trans isOther
  | @list number items isNode later hold ih =>
      have inBounds := Graph.lt_size_of_getElem? isNode
      obtain ⟨depth, rfl⟩ := Nat.exists_eq_add_of_le' (show 2 ≤ depth by omega)
      refine assembles_value (.list isNode later hold) inner ?_
      rcases isMet with ⟨part, isPart⟩
      cases complete.made number part isPart with
      | scalar isOther => cases isNode.symm.trans isOther
      | map isOther => cases isNode.symm.trans isOther
      | list isOther areMet =>
          cases Option.some.inj (isNode.symm.trans isOther)
          refine assembles_list isPart (fun item member => ?_)
          have beyond := later item member
          exact ih item member (areMet _ (List.mem_map_of_mem member)) (by omega)
            (List.forall_mem_cons.mpr ⟨beyond, fun outer isOuter =>
              Nat.lt_trans (inner outer isOuter) beyond⟩)
  | @map number entries isNode keysLater keys differ later hold ih =>
      have inBounds := Graph.lt_size_of_getElem? isNode
      obtain ⟨depth, rfl⟩ := Nat.exists_eq_add_of_le' (show 2 ≤ depth by omega)
      refine assembles_value (.map isNode keysLater keys differ later hold) inner ?_
      rcases isMet with ⟨part, isPart⟩
      cases complete.made number part isPart with
      | scalar isOther => cases isNode.symm.trans isOther
      | list isOther => cases isNode.symm.trans isOther
      | map isOther areMet =>
          cases Option.some.inj (isNode.symm.trans isOther)
          refine assembles_map complete isPart keys
            (fun entry member => (areMet _ (List.mem_map_of_mem member)).1) differ
            (fun entry member => ?_)
          have beyond := later entry member
          exact ih entry member (areMet _ (List.mem_map_of_mem member)).2 (by omega)
            (List.forall_mem_cons.mpr ⟨beyond, fun outer isOuter =>
              Nat.lt_trans (inner outer isOuter) beyond⟩)

end

end Parts

/-- The value that is made of a graph is the one that its first node holds. -/
theorem value_of_holds {graph : Graph} {value : Value} (holds : graph.Holds 0 value) :
    Outline.value ⟨graph, 0⟩ = .ok value := by
  rcases Make.exists_run_whole holds with ⟨after, isRun, isSize, isMet, made⟩
  have nothing : Parts.IsKnown graph (Array.replicate after.parts.size none) :=
    fun number found isFound => absurd isFound (replicate_none_ne _ number found)
  have enough : 2 * (graph.size - 0) ≤ 2 * after.parts.size + 2 := by omega
  rcases Parts.assembles_of_holds ⟨isSize, made⟩ holds isMet enough (List.forall_mem_nil _) _
    nothing with ⟨known, isAssembled, -⟩
  have isWhole : Parts.whole after.parts 0 = value :=
    congrArg (fun result : Parts.Inside × Parts.Known => result.1.1) isAssembled
  unfold Outline.value
  simp only [isRun]
  exact congrArg Except.ok isWhole

end Yaml
end ApiAccessors
