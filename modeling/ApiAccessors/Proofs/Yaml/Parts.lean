import ApiAccessors.Proofs.Outcome
import ApiAccessors.Proofs.Yaml.HeldValues
import ApiAccessors.Yaml.Part

namespace ApiAccessors
namespace Yaml

/-!
# Parts of held values

The making of the parts of a graph of which the first node holds a value.  While it goes on, some
collections are open: they have been met, but their parts are still to be made.  All else that has
been met has its part, and the nodes in it have been met, too.  The nodes in a collection have
greater numbers, so each round leaves open only collections further back, and in the end there are
none.
-/

open Outcome (run_bind_of_ok run_map_of_ok)

/-- A node has been met. -/
def IsMet (parts : Array (Option Part)) (number : Nat) : Prop :=
  ∃ part, parts[number]? = some (some part)

/-- What becomes of a node of which the parts have been met. -/
inductive IsPart (graph : Graph) (met : Nat → Prop) : Nat → Part → Prop
  | scalar {number : Nat} {kind : Kind} {text : String} {value : Value} {isNotANumber : Bool}
      (isNode : graph[number]? = some ⟨kind, .scalar text⟩)
      (isValue : scalarValue kind text = .ok value)
      (isNumber : kind ≠ .float → isNotANumber = false) :
      IsPart graph met number (.scalar value isNotANumber)
  | list {number : Nat} {items : List Nat} (isNode : graph[number]? = some ⟨.list, .list items⟩)
      (areMet : ∀ item ∈ items, met item) : IsPart graph met number (.list items)
  | map {number : Nat} {entries : List (Nat × Nat)}
      (isNode : graph[number]? = some ⟨.map, .map entries⟩)
      (areMet : ∀ entry ∈ entries, met entry.1 ∧ met entry.2) :
      IsPart graph met number (.map entries)

/-- The parts of an open collection can be made. -/
structure IsOpen (graph : Graph) (number : Nat) : Prop where
  isCollection : (graph.kind number).isCollection = true
  holds : ∃ value, graph.Holds number value

/-- A state of making, with these collections still to be made in this round.  All collections that
wait for the next round have at least this number. -/
structure IsMaking (graph : Graph) (least : Nat) (remaining : List Nat) (making : Making) :
    Prop where
  sameGraph : making.graph = graph
  mergeFuel : 0 < making.mergeFuel
  size : making.parts.size = graph.size
  isOpen : ∀ number ∈ remaining ++ making.waiting, IsOpen graph number
  least : ∀ number ∈ making.waiting, least ≤ number
  made : ∀ number part, making.parts[number]? = some (some part) →
    number ∈ remaining ++ making.waiting ∨ IsPart graph (IsMet making.parts) number part

/-- In the beginning nothing has been found for any node. -/
theorem replicate_none_ne {α : Type} (size number : Nat) (found : α) :
    (Array.replicate size (none : Option α))[number]? ≠ some (some found) := by
  rw [Array.getElem?_replicate]
  split
  · exact fun impossible => by cases impossible
  · exact fun impossible => by cases impossible

theorem IsPart.weaken {graph : Graph} {met others : Nat → Prop} {number : Nat} {part : Part}
    (isPart : IsPart graph met number part) (more : ∀ number, met number → others number) :
    IsPart graph others number part := by
  cases isPart with
  | scalar isNode isValue isNumber => exact .scalar isNode isValue isNumber
  | list isNode areMet => exact .list isNode (fun item member => more _ (areMet item member))
  | map isNode areMet =>
      exact .map isNode (fun entry member => (areMet entry member).imp (more _) (more _))

/-! ## Parts that are set -/

section

variable {graph : Graph} {least : Nat} {remaining : List Nat} {making : Making} {number : Nat}
  {part : Part}

theorem isMet_set (inBounds : number < making.parts.size) {other : Nat} :
    IsMet (making.parts.setIfInBounds number (some part)) other ↔
      other = number ∨ IsMet making.parts other := by
  unfold IsMet
  by_cases same : other = number
  · subst same
    rw [Array.getElem?_setIfInBounds_self_of_lt inBounds]
    exact iff_of_true ⟨part, rfl⟩ (Or.inl rfl)
  · rw [Array.getElem?_setIfInBounds_ne (Ne.symm same)]
    exact (or_iff_right same).symm

/-- The state after a part has been set, if the part is right or the collection is open. -/
theorem IsMaking.set {others waiting : List Nat} (isMaking : IsMaking graph least remaining making)
    (inBounds : number < graph.size)
    (isOpen : ∀ number ∈ others ++ waiting, IsOpen graph number)
    (isLeast : ∀ number ∈ waiting, least ≤ number)
    (kept : ∀ other ∈ remaining ++ making.waiting, other = number ∨ other ∈ others ++ waiting)
    (isRight : number ∈ others ++ waiting ∨ IsPart graph (IsMet making.parts) number part) :
    IsMaking graph least others
      { making with parts := making.parts.setIfInBounds number (some part), waiting } := by
  have inParts : number < making.parts.size := isMaking.size ▸ inBounds
  have grown : ∀ other, IsMet making.parts other →
      IsMet (making.parts.setIfInBounds number (some part)) other :=
    fun other isMet => (isMet_set inParts).mpr (Or.inr isMet)
  refine ⟨isMaking.sameGraph, isMaking.mergeFuel, (Array.size_setIfInBounds).trans isMaking.size,
    isOpen, isLeast, fun other found isFound => ?_⟩
  by_cases same : other = number
  · subst same
    rw [Array.getElem?_setIfInBounds_self_of_lt inParts] at isFound
    cases isFound
    exact isRight.imp_right (fun isPart => isPart.weaken grown)
  · rw [Array.getElem?_setIfInBounds_ne (Ne.symm same)] at isFound
    rcases isMaking.made other found isFound with isOld | isPart
    · exact Or.inl ((kept other isOld).resolve_left same)
    · exact Or.inr (isPart.weaken grown)

end

namespace Graph

variable {graph : Graph} {number : Nat} {value : Value}

theorem node_of_getElem? {node : Node} (isNode : graph[number]? = some node) :
    graph.node number = node := by
  unfold Graph.node
  rw [isNode]
  rfl

theorem kind_of_getElem? {node : Node} (isNode : graph[number]? = some node) :
    graph.kind number = node.kind :=
  congrArg Node.kind (node_of_getElem? isNode)

theorem scalarPart_of_scalar {kind : Kind} {text : String}
    (isNode : graph[number]? = some ⟨kind, .scalar text⟩) (isScalar : kind.isScalar = true)
    (isValue : scalarValue kind text = .ok value) :
    graph.scalarPart number = .ok
      (.scalar value (decide (kind = .float) && unsignedFloat text.toList == notANumber)) := by
  have isText : graph.scalarText (graph.size + 1) number = .ok text := by
    unfold scalarText
    rw [node_of_getElem? isNode]
  have noMap : graph.isMap number = false := by
    unfold isMap
    rw [node_of_getElem? isNode]
  unfold scalarPart
  simp only [kind_of_getElem? isNode, isScalar, isText, noMap, if_true, Bool.and_false,
    Bool.false_eq_true, if_false]
  change (scalarValue kind text >>= _) = _
  rw [isValue]
  rfl

end Graph

namespace Make

variable {graph : Graph} {least : Nat} {remaining : List Nat} {number : Nat}

/-! ## Visits -/

section

variable {making : Making} {part : Part}

theorem run_visit_of_met (isPart : making.parts[number]?.getD none = some part) :
    (visit number).run making = .ok ((), making) := by
  have isRead : (part? number).run making = .ok (some part, making) :=
    congrArg (fun part => Except.ok (part, making)) isPart
  unfold visit
  rw [run_bind_of_ok isRead]
  rfl

theorem run_visit_of_unmet (unmet : making.parts[number]?.getD none = none) :
    (visit number).run making =
      (if (making.graph.kind number).isCollection then do
        setPart number (.list [])
        modify (fun making => { making with waiting := number :: making.waiting })
      else do
        setPart number (← making.graph.scalarPart number) : Make Unit).run making := by
  have isRead : (part? number).run making = .ok (none, making) :=
    congrArg (fun part => Except.ok (part, making)) unmet
  unfold visit
  rw [run_bind_of_ok isRead]
  rfl

end

/-- A step of making goes on, and afterwards these nodes have been met, too. -/
def Meets (graph : Graph) (least : Nat) (remaining : List Nat) (step : Make Unit)
    (numbers : List Nat) : Prop :=
  ∀ making, IsMaking graph least remaining making → ∃ after, step.run making = .ok ((), after) ∧
    IsMaking graph least remaining after ∧
      (∀ number, IsMet making.parts number → IsMet after.parts number) ∧
        ∀ number ∈ numbers, IsMet after.parts number

theorem meets_visit {value : Value} (holds : graph.Holds number value) (isLeast : least ≤ number) :
    Meets graph least remaining (visit number) [number] := by
  intro making isMaking
  cases isFound : making.parts[number]?.getD none with
  | some part =>
      have isPart : making.parts[number]? = some (some part) :=
        (Option.getD_eq_iff.mp isFound).resolve_right (by rintro ⟨-, ⟨⟩⟩)
      exact ⟨making, run_visit_of_met isFound, isMaking, fun _ isMet => isMet,
        List.forall_mem_singleton.mpr ⟨part, isPart⟩⟩
  | none =>
      have inBounds := holds.lt_size
      have inParts : number < making.parts.size := isMaking.size ▸ inBounds
      have isSet : ∀ part, (∀ other, IsMet making.parts other →
          IsMet (making.parts.setIfInBounds number (some part)) other) ∧
            ∀ other ∈ [number], IsMet (making.parts.setIfInBounds number (some part)) other :=
        fun part => ⟨fun other isMet => (isMet_set inParts).mpr (Or.inr isMet),
          List.forall_mem_singleton.mpr ((isMet_set inParts).mpr (Or.inl rfl))⟩
      rw [run_visit_of_unmet isFound, isMaking.sameGraph]
      by_cases isCollection : (graph.kind number).isCollection = true
      · rw [if_pos isCollection]
        have isOld : ∀ other ∈ remaining ++ making.waiting,
            other ∈ remaining ++ number :: making.waiting := by
          intro other member
          rcases List.mem_append.mp member with first | second
          · exact List.mem_append_left _ first
          · exact List.mem_append_right _ (List.mem_cons_of_mem _ second)
        refine ⟨_, rfl, isMaking.set inBounds ?_
          (List.forall_mem_cons.mpr ⟨isLeast, isMaking.least⟩)
          (fun other member => Or.inr (isOld other member))
          (Or.inl (List.mem_append_right _ List.mem_cons_self)), isSet (.list [])⟩
        intro other member
        rcases List.mem_append.mp member with first | second
        · exact isMaking.isOpen other (List.mem_append_left _ first)
        rcases List.mem_cons.mp second with rfl | waits
        · exact ⟨isCollection, value, holds⟩
        · exact isMaking.isOpen other (List.mem_append_right _ waits)
      · rw [if_neg isCollection]
        cases holds with
        | list isNode => exact absurd (by rw [Graph.kind_of_getElem? isNode]; rfl) isCollection
        | map isNode => exact absurd (by rw [Graph.kind_of_getElem? isNode]; rfl) isCollection
        | @scalar _ kind text _ isNode isScalar isValue =>
            rw [Graph.scalarPart_of_scalar isNode isScalar isValue]
            refine ⟨_, rfl, isMaking.set inBounds isMaking.isOpen isMaking.least
              (fun other member => Or.inr member) (Or.inr (.scalar isNode isValue ?_)), isSet _⟩
            intro noFloat
            rw [decide_eq_false noFloat, Bool.false_and]

section

variable {step : Make Unit} {numbers others : List Nat}

theorem meets_nothing : Meets graph least remaining (pure ()) [] :=
  fun making isMaking => ⟨making, rfl, isMaking, fun _ isMet => isMet, List.forall_mem_nil _⟩

theorem Meets.bind {next : Unit → Make Unit} (first : Meets graph least remaining step numbers)
    (second : Meets graph least remaining (next ()) others) :
    Meets graph least remaining (step >>= next) (numbers ++ others) := by
  intro making isMaking
  rcases first making isMaking with ⟨between, isFirst, isBetween, grown, met⟩
  rcases second between isBetween with ⟨after, isSecond, isAfter, grownMore, metMore⟩
  refine ⟨after, (run_bind_of_ok isFirst).trans isSecond, isAfter,
    fun number isMet => grownMore number (grown number isMet), ?_⟩
  exact List.forall_mem_append.mpr ⟨fun number member => grownMore number (met number member),
    metMore⟩

theorem meets_forM {α : Type} {step : α → Make Unit} {numbers : α → List Nat} {items : List α}
    (meets : ∀ item ∈ items, Meets graph least remaining (step item) (numbers item)) :
    Meets graph least remaining (items.forM step) (items.flatMap numbers) := by
  induction items with
  | nil => exact meets_nothing
  | cons item items ih =>
      rcases List.forall_mem_cons.mp meets with ⟨here, later⟩
      exact here.bind (ih later)

end

/-- The text of a key has its part at once. -/
theorem meets_visitKey {name : String} (isKey : graph.HoldsKey number name)
    (isLeast : least ≤ number) : Meets graph least remaining (visitKey number) [number] := by
  intro making isMaking
  rcases meets_visit (.scalar isKey rfl rfl) isLeast making isMaking with
    ⟨after, isVisit, isAfter, grown, met⟩
  refine ⟨after, ?_, isAfter, grown, met⟩
  rcases met number List.mem_cons_self with ⟨part, isFound⟩
  have isRead : (part? number).run after = .ok (some part, after) :=
    congrArg (fun part => Except.ok (part, after)) (congrArg (·.getD none) isFound)
  unfold visitKey
  rw [run_bind_of_ok isVisit, run_bind_of_ok isRead]
  rcases isAfter.made number part isFound with isOpen | isPart
  · have isCollection := (isAfter.isOpen number isOpen).isCollection
    rw [Graph.kind_of_getElem? isKey] at isCollection
    cases isCollection
  · cases isPart with
    | scalar isNode isValue isNumber => rfl
    | list isNode => cases isKey.symm.trans isNode
    | map isNode => cases isKey.symm.trans isNode

/-! ## Collections -/

/-- Nothing is lent to a mapping of which all keys are texts, and no key stands in for it. -/
theorem mergeInto_of_holdsKey {fuel : Nat} {entries : List (Nat × Nat)}
    (isNode : graph[number]? = some ⟨.map, .map entries⟩)
    (areKeys : ∀ entry ∈ entries, graph.kind entry.1 = .text) :
    graph.mergeInto (fuel + 1) number [] = .ok graph := by
  have isEntries : graph.entries number = entries := by
    unfold Graph.entries
    rw [Graph.node_of_getElem? isNode]
  have noLender : entries.find? graph.lends = none := by
    apply List.find?_eq_none.mpr
    intro entry member
    unfold Graph.lends
    rw [areKeys entry member]
    decide
  have settled : ∀ others ⊆ entries, others.foldl Graph.settleKey graph = graph := by
    intro others among
    induction others with
    | nil => rfl
    | cons entry others ih =>
        rcases List.cons_subset.mp among with ⟨here, later⟩
        have same : graph.settleKey entry = graph := by
          unfold Graph.settleKey
          rw [areKeys entry here]
          rfl
        rw [List.foldl_cons, same]
        exact ih later
  have unchanged : graph.setEntries number entries = graph := by
    unfold Graph.setEntries
    rw [Graph.kind_of_getElem? isNode]
    apply Array.ext_getElem?
    intro index
    rw [Array.getElem?_setIfInBounds]
    split
    · rename_i same
      rw [if_pos (Graph.lt_size_of_getElem? isNode), ← same, isNode]
    · rfl
  unfold Graph.mergeInto
  simp only [isEntries, noLender, settled entries (List.Subset.refl _), List.nil_append, unchanged]

/-- The part of an open collection is made, and the nodes in it are met. -/
def Completes (graph : Graph) (least : Nat) (remaining : List Nat) (number : Nat) : Prop :=
  ∀ making, IsMaking graph least remaining making → ∃ part after,
    (collection number).run making = .ok (part, after) ∧ IsMaking graph least remaining after ∧
      (∀ other, IsMet making.parts other → IsMet after.parts other) ∧
        IsPart graph (IsMet after.parts) number part

theorem completes_list {items : List HeldItem}
    (isNode : graph[number]? = some ⟨.list, .list (items.map HeldItem.number)⟩)
    (later : ∀ item ∈ items, number < item.number)
    (hold : ∀ item ∈ items, graph.Holds item.number item.value) (isLeast : least ≤ number + 1) :
    Completes graph least remaining number := by
  intro making isMaking
  have meets : Meets graph least remaining ((items.map HeldItem.number).forM visit)
      ((items.map HeldItem.number).flatMap (fun item => [item])) := by
    refine meets_forM (List.forall_mem_map.mpr (fun item member => ?_))
    exact meets_visit (hold item member) (Nat.le_trans isLeast (later item member))
  rcases meets making isMaking with ⟨after, isRun, isAfter, grown, met⟩
  have isRead : making.graph.node number = ⟨.list, .list (items.map HeldItem.number)⟩ :=
    isMaking.sameGraph ▸ Graph.node_of_getElem? isNode
  have isList : (collection number).run making = (do
      (items.map HeldItem.number).forM visit
      pure (.list (items.map HeldItem.number)) : Make Part).run making := by
    unfold collection
    rw [run_bind_of_ok (show (get : Make Making).run making = .ok (making, making) from rfl)]
    simp only [isRead]
  refine ⟨_, after, isList.trans ((run_bind_of_ok isRun).trans rfl), isAfter, grown,
    .list isNode (fun item member => met item ?_)⟩
  exact List.mem_flatMap.mpr ⟨item, member, List.mem_singleton_self item⟩

theorem run_merge {entries : List (Nat × Nat)} {making : Making}
    (isMaking : IsMaking graph least remaining making)
    (isNode : graph[number]? = some ⟨.map, .map entries⟩)
    (areKeys : ∀ entry ∈ entries, graph.kind entry.1 = .text) :
    (merge number).run making = .ok ((), making) := by
  rcases making with ⟨other, parts, waiting, mergeFuel⟩
  obtain rfl : other = graph := isMaking.sameGraph
  obtain ⟨fuel, rfl⟩ := Nat.exists_eq_add_of_lt isMaking.mergeFuel
  change ((other.mergeInto (0 + fuel + 1) number []) >>= _) = _
  rw [mergeInto_of_holdsKey isNode areKeys]
  rfl

theorem completes_map {entries : List HeldEntry}
    (isNode : graph[number]? = some ⟨.map, .map (entries.map HeldEntry.numbers)⟩)
    (keysLater : ∀ entry ∈ entries, number < entry.key)
    (keys : ∀ entry ∈ entries, graph.HoldsKey entry.key entry.name)
    (later : ∀ entry ∈ entries, number < entry.item.number)
    (hold : ∀ entry ∈ entries, graph.Holds entry.item.number entry.item.value)
    (isLeast : least ≤ number + 1) : Completes graph least remaining number := by
  intro making isMaking
  have areKeys : ∀ entry ∈ entries.map HeldEntry.numbers, graph.kind entry.1 = .text :=
    List.forall_mem_map.mpr (fun entry member => Graph.kind_of_getElem? (keys entry member))
  have meets : Meets graph least remaining
      ((entries.map HeldEntry.numbers).forM (fun entry => do
        visitKey entry.1
        visit entry.2))
      ((entries.map HeldEntry.numbers).flatMap (fun entry => [entry.1, entry.2])) := by
    refine meets_forM (List.forall_mem_map.mpr (fun entry member => ?_))
    exact (meets_visitKey (keys entry member) (Nat.le_trans isLeast (keysLater entry member))).bind
      (meets_visit (hold entry member) (Nat.le_trans isLeast (later entry member)))
  rcases meets making isMaking with ⟨after, isRun, isAfter, grown, met⟩
  have isRead : making.graph.node number = ⟨.map, .map (entries.map HeldEntry.numbers)⟩ :=
    isMaking.sameGraph ▸ Graph.node_of_getElem? isNode
  have isEntries : (entriesOf number).run making =
      .ok (entries.map HeldEntry.numbers, after) := by
    unfold entriesOf
    rw [run_bind_of_ok (run_merge isMaking isNode areKeys),
      run_bind_of_ok (show (get : Make Making).run making = .ok (making, making) from rfl)]
    simp only [Graph.entries, isRead]
    exact (run_bind_of_ok isRun).trans rfl
  have isMap : (collection number).run making = (Part.map <$> entriesOf number).run making := by
    unfold collection
    rw [run_bind_of_ok (show (get : Make Making).run making = .ok (making, making) from rfl)]
    simp only [isRead]
  refine ⟨_, after, isMap.trans (run_map_of_ok isEntries), isAfter, grown,
    .map isNode (fun entry member => ⟨met entry.1 ?_, met entry.2 ?_⟩)⟩
  · exact List.mem_flatMap.mpr ⟨entry, member, List.mem_cons_self⟩
  · exact List.mem_flatMap.mpr ⟨entry, member, List.mem_cons_of_mem _ List.mem_cons_self⟩

theorem completes_of_isOpen (isOpen : IsOpen graph number) (isLeast : least ≤ number + 1) :
    Completes graph least remaining number := by
  rcases isOpen with ⟨isCollection, value, holds⟩
  cases holds with
  | @scalar _ kind text _ isNode isScalar isValue =>
      have apart : ∀ kind : Kind, kind.isScalar = true → kind.isCollection = false := by
        intro kind
        cases kind <;> decide
      rw [Graph.kind_of_getElem? isNode, apart kind isScalar] at isCollection
      cases isCollection
  | list isNode later hold => exact completes_list isNode later hold isLeast
  | map isNode keysLater keys differ later hold =>
      exact completes_map isNode keysLater keys later hold isLeast

/-! ## Rounds -/

/-- One round: the parts of all collections that are still to be made in it. -/
theorem exists_run_round (making : Making) (isMaking : IsMaking graph least remaining making)
    (isLeast : ∀ number ∈ remaining, least ≤ number + 1) :
    ∃ after, (remaining.forM (fun number => do
        let part ← collection number
        setPart number part)).run making = .ok ((), after) ∧
      IsMaking graph least [] after ∧
        ∀ number, IsMet making.parts number → IsMet after.parts number := by
  induction remaining generalizing making with
  | nil => exact ⟨making, rfl, isMaking, fun _ isMet => isMet⟩
  | cons number remaining ih =>
      rcases List.forall_mem_cons.mp isLeast with ⟨here, later⟩
      have isOpen := isMaking.isOpen number List.mem_cons_self
      rcases completes_of_isOpen isOpen here making isMaking with
        ⟨part, between, isPart, isBetween, grown, isRight⟩
      have inBounds : number < graph.size := isOpen.holds.elim (fun _ holds => holds.lt_size)
      have isNext : IsMaking graph least remaining
          { between with parts := between.parts.setIfInBounds number (some part) } :=
        isBetween.set inBounds
          (fun other member => isBetween.isOpen other (List.mem_cons_of_mem _ member))
          isBetween.least (fun other member => List.mem_cons.mp member) (Or.inr isRight)
      rcases ih _ isNext later with ⟨after, isRest, isAfter, grownMore⟩
      have isStep : (do
          let part ← collection number
          setPart number part : Make Unit).run making =
            .ok ((), { between with parts := between.parts.setIfInBounds number (some part) }) :=
        (run_bind_of_ok isPart).trans rfl
      refine ⟨after, (run_bind_of_ok isStep).trans isRest, isAfter, fun other isMet => ?_⟩
      have inParts : number < between.parts.size := isBetween.size ▸ inBounds
      exact grownMore other ((isMet_set inParts).mpr (Or.inr (grown other isMet)))

/-- The collections that wait are made, and those in them, until none waits. -/
theorem exists_run_collections (depth : Nat) (making : Making)
    (isMaking : IsMaking graph least [] making) (enough : graph.size < least + depth) :
    ∃ after last, (collections depth).run making = .ok ((), after) ∧
      IsMaking graph last [] after ∧ after.waiting = [] ∧
        ∀ number, IsMet making.parts number → IsMet after.parts number := by
  induction depth generalizing making least with
  | zero =>
      refine ⟨making, least, rfl, isMaking, List.eq_nil_iff_forall_not_mem.mpr ?_,
        fun _ isMet => isMet⟩
      intro number member
      rcases (isMaking.isOpen number member).holds with ⟨value, holds⟩
      have inBounds := holds.lt_size
      have isLeast := isMaking.least number member
      omega
  | succ depth ih =>
      rcases making with ⟨other, parts, waiting, mergeFuel⟩
      cases isWaiting : waiting with
      | nil =>
          subst isWaiting
          exact ⟨_, least, rfl, isMaking, rfl, fun _ isMet => isMet⟩
      | cons number others =>
          have among : ∀ index, index ∈ waiting.reverse ++ [] ↔ index ∈ [] ++ waiting := by
            simp
          have isRound : IsMaking graph (least + 1) waiting.reverse ⟨other, parts, [], mergeFuel⟩ :=
            ⟨isMaking.sameGraph, isMaking.mergeFuel, isMaking.size,
              fun index member => isMaking.isOpen index ((among index).mp member),
              List.forall_mem_nil _,
              fun index part isFound => (isMaking.made index part isFound).imp_left
                (among index).mpr⟩
          have isLeast : ∀ index ∈ waiting.reverse, least + 1 ≤ index + 1 :=
            fun index member =>
              Nat.succ_le_succ (isMaking.least index (List.mem_reverse.mp member))
          rcases exists_run_round _ isRound isLeast with ⟨between, isRun, isBetween, grown⟩
          rcases ih between isBetween (by omega) with
            ⟨after, last, isRest, isAfter, done, grownMore⟩
          refine ⟨after, last, ?_, isAfter, done,
            fun index isMet => grownMore index (grown index isMet)⟩
          have isStep : (collections (depth + 1)).run ⟨other, parts, waiting, mergeFuel⟩ = (do
              waiting.reverse.forM (fun number => do
                let part ← collection number
                setPart number part)
              collections depth).run ⟨other, parts, [], mergeFuel⟩ := by
            rw [isWaiting]
            rfl
          rw [isWaiting] at isStep isRun
          exact isStep.trans ((run_bind_of_ok isRun).trans isRest)

/-- In the end everything that has been met has its part, and the whole has been met. -/
theorem exists_run_whole {value : Value} (holds : graph.Holds 0 value) :
    ∃ after : Making, (whole 0).run
        ⟨graph, Array.replicate graph.size none, [], graph.lendingCount + 1⟩ = .ok ((), after) ∧
      after.parts.size = graph.size ∧ IsMet after.parts 0 ∧
        ∀ number part, after.parts[number]? = some (some part) →
          IsPart graph (IsMet after.parts) number part := by
  have isStart : IsMaking graph 0 []
      ⟨graph, Array.replicate graph.size none, [], graph.lendingCount + 1⟩ := by
    refine ⟨rfl, Nat.zero_lt_succ _, Array.size_replicate, List.forall_mem_nil _,
      List.forall_mem_nil _, fun number part isFound => ?_⟩
    exact absurd isFound (replicate_none_ne _ number part)
  rcases meets_visit holds (Nat.zero_le _) _ isStart with ⟨between, isVisit, isBetween, -, met⟩
  have isSize : between.graph.size < 0 + (between.graph.size + 1) := by omega
  rcases exists_run_collections (between.graph.size + 1) between isBetween
    (isBetween.sameGraph ▸ isSize) with ⟨after, last, isRun, isAfter, done, grown⟩
  refine ⟨after, ?_, isAfter.size, grown 0 (met 0 List.mem_cons_self),
    fun number part isFound => ?_⟩
  · unfold whole
    rw [run_bind_of_ok isVisit]
    exact isRun
  · rcases isAfter.made number part isFound with isOpen | isPart
    · rw [done] at isOpen
      cases isOpen
    · exact isPart

end Make

end Yaml
end ApiAccessors
