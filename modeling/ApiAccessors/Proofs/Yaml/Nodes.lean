import ApiAccessors.Proofs.Yaml.HeldValues
import ApiAccessors.Proofs.Yaml.Tokens

namespace ApiAccessors
namespace Yaml

/-!
# Nodes of values

The grammar makes nodes from the tokens of a value: the first new node holds the value.
-/

open Json (row rowTail)
open Outcome (run_bind_of_ok run_map_of_ok)

namespace Parse

/-! ## Steps -/

section

variable {α : Type}

/-- A step inside one more collection needs room for it. -/
theorem run_inside_of_ok {step : Parse α} {value : α} {tokens behind : List Token}
    {graph grown : Graph} {anchors names : List (String × Nat)}
    {handles meanings : List (String × String)} {room left : Nat}
    (isStep : step.run ⟨tokens, graph, anchors, handles, room⟩ =
      .ok (value, ⟨behind, grown, names, meanings, left⟩)) :
    (inside step).run ⟨tokens, graph, anchors, handles, room + 1⟩ =
      .ok (value, ⟨behind, grown, names, meanings, room + 1⟩) := by
  have unfolded : (inside step).run ⟨tokens, graph, anchors, handles, room + 1⟩ =
      (step >>= fun found => do
        modify (fun reading => { reading with room := room + 1 })
        pure found).run ⟨tokens, graph, anchors, handles, room⟩ :=
    rfl
  exact unfolded.trans (run_bind_of_ok isStep)

end

/-- The tokens that the values of documents begin with. -/
def startsNode : Token → Bool
  | .scalar _ _ => true
  | .listOpen => true
  | .mapOpen => true
  | _ => false

theorem exists_start {room : Nat} {made : List Token} {value : Value}
    (describes : Describes room made value) :
    ∃ first others, made = first :: others ∧ startsNode first = true := by
  cases describes with
  | plain => exact ⟨_, _, rfl, rfl⟩
  | quoted => exact ⟨_, _, rfl, rfl⟩
  | list => exact ⟨_, _, rfl, rfl⟩
  | map => exact ⟨_, _, rfl, rfl⟩

/-- A node without properties. -/
theorem run_node {first : Token} (starts : startsNode first = true) {fuel : Nat}
    {setting : Setting} {others behind : List Token} {graph grown : Graph}
    {anchors names : List (String × Nat)} {handles meanings : List (String × String)}
    {room left : Nat} {found : Node}
    (isContent : (content fuel setting none false).run
        ⟨first :: others, graph.push .absent, anchors, handles, room⟩ =
      .ok (found, ⟨behind, grown, names, meanings, left⟩)) :
    (node (fuel + 1) setting).run ⟨first :: others, graph, anchors, handles, room⟩ =
      .ok (graph.size, ⟨behind, grown.setIfInBounds graph.size found, names, meanings, left⟩) := by
  have unnamed : (node (fuel + 1) setting).run ⟨first :: others, graph, anchors, handles, room⟩ =
      (do
        let found ← content fuel setting none false
        finish graph.size found
        pure graph.size : Parse Nat).run
          ⟨first :: others, graph.push .absent, anchors, handles, room⟩ := by
    rw [node]
    cases first with
    | scalar text plain => rfl
    | listOpen => rfl
    | mapOpen => rfl
    | _ => cases starts
  rw [unnamed, run_bind_of_ok isContent]
  rfl

/-! ## Rows -/

section

variable {α β : Type}

/-- What stands in front of a part: nothing for the first one, and a comma for all others. -/
def lead : Bool → List Token
  | true => []
  | false => [.comma]

def EndsRow (read : Nat → Bool → Parse (List β)) (close : Token) : Prop :=
  ∀ isFirst fuel (reading : Reading) rest, reading.tokens = close :: rest →
    (read (fuel + 1) isFirst).run reading = .ok ([], { reading with tokens := rest })

/-- A part of a row with these tokens is read, if there is room, and adds nodes to the graph.  What
it has become is good from the first number on that the graph did not have. -/
def ReadsPart (read : Nat → Bool → Parse (List β)) (room : Nat) (made : List Token)
    (good : Graph → Nat → β → Prop) : Prop :=
  ∀ isFirst fuel (reading : Reading) rest, 2 * made.length ≤ fuel → room ≤ reading.room →
    reading.tokens = lead isFirst ++ (made ++ rest) → ∃ part graph,
      reading.graph.Extends graph ∧ good graph reading.graph.size part ∧
        (read (fuel + 1) isFirst).run reading =
          ((part :: ·) <$> read fuel false).run { reading with tokens := rest, graph }

/-- What is good goes on to be so when nodes are added. -/
def Stays (good : Graph → Nat → β → Prop) : Prop :=
  ∀ {graph other : Graph} {start least part}, good graph start part → graph.Extends other →
    least ≤ start → good other least part

/-- The parts of a row are read up to the rest of the tokens, and all have become good. -/
def ReadsRow (read : Parse (List β)) (parts : List α) (good : α → Graph → Nat → β → Prop)
    (reading : Reading) (rest : List Token) : Prop :=
  ∃ (found : List (α × β)) (graph : Graph), found.map Prod.fst = parts ∧
    reading.graph.Extends graph ∧ (∀ pair ∈ found, good pair.1 graph reading.graph.size pair.2) ∧
      read.run reading = .ok (found.map Prod.snd, { reading with tokens := rest, graph })

variable {read : Nat → Bool → Parse (List β)} {room : Nat} {made : α → List Token}
  {good : α → Graph → Nat → β → Prop} {close : Token} {parts : List α} {reading : Reading}
  {fuel : Nat} {rest : List Token}

theorem readsRow_nil (ends : EndsRow read close) (isFirst : Bool)
    (isTokens : reading.tokens = close :: rest) :
    ReadsRow (read (fuel + 1) isFirst) [] good reading rest :=
  ⟨[], reading.graph, rfl, Graph.Extends.refl _, List.forall_mem_nil _,
    ends isFirst fuel reading rest isTokens⟩

theorem readsRow_cons {part : α} {behind : List Token} (stays : ∀ part, Stays (good part))
    (reads : ReadsPart read room (made part) (good part)) {isFirst : Bool}
    (enough : 2 * (made part).length ≤ fuel) (roomy : room ≤ reading.room)
    (isTokens : reading.tokens = lead isFirst ++ (made part ++ behind))
    (goesOn : ∀ graph,
      ReadsRow (read fuel false) parts good { reading with tokens := behind, graph } rest) :
    ReadsRow (read (fuel + 1) isFirst) (part :: parts) good reading rest := by
  rcases reads isFirst fuel reading behind enough roomy isTokens with
    ⟨first, graph, grown, isGood, isRead⟩
  rcases goesOn graph with ⟨found, last, isFound, grownMore, areGood, isRest⟩
  refine ⟨(part, first) :: found, last, congrArg (part :: ·) isFound, grown.trans grownMore,
    List.forall_mem_cons.mpr ⟨stays part isGood grownMore (Nat.le_refl _), fun pair member => ?_⟩,
    isRead.trans (run_map_of_ok isRest)⟩
  exact stays pair.1 (areGood pair member) (Graph.Extends.refl _) grown.size

theorem readsRow_rowTail (ends : EndsRow read close) (stays : ∀ part, Stays (good part))
    (reads : ∀ part ∈ parts, ReadsPart read room (made part) (good part))
    (enough : 2 * (rowTail .comma (parts.map made)).length + 1 ≤ fuel)
    (roomy : room ≤ reading.room)
    (isTokens : reading.tokens = rowTail .comma (parts.map made) ++ close :: rest) :
    ReadsRow (read fuel false) parts good reading rest := by
  induction parts generalizing fuel reading with
  | nil =>
      rcases fuel with - | fuel
      · omega
      exact readsRow_nil ends false isTokens
  | cons part parts ih =>
      rcases List.forall_mem_cons.mp reads with ⟨here, later⟩
      rw [List.map_cons, Json.rowTail_cons, List.length_cons, List.length_append] at enough
      rw [List.map_cons, Json.rowTail_cons, List.cons_append, List.append_assoc] at isTokens
      rcases fuel with - | fuel
      · omega
      exact readsRow_cons stays here (by omega) roomy isTokens
        (fun graph => ih later (by omega) roomy rfl)

theorem readsRow_row (ends : EndsRow read close) (stays : ∀ part, Stays (good part))
    (reads : ∀ part ∈ parts, ReadsPart read room (made part) (good part))
    (notEmpty : ∀ part ∈ parts, made part ≠ [])
    (enough : 2 * (row .comma (parts.map made)).length + 1 ≤ fuel) (roomy : room ≤ reading.room)
    (isTokens : reading.tokens = row .comma (parts.map made) ++ close :: rest) :
    ReadsRow (read fuel true) parts good reading rest := by
  rcases fuel with - | fuel
  · omega
  cases parts with
  | nil => exact readsRow_nil ends true isTokens
  | cons part parts =>
      rcases List.forall_mem_cons.mp reads with ⟨here, later⟩
      have isPart := List.length_pos_iff.mpr (notEmpty part List.mem_cons_self)
      change 2 * (made part ++ rowTail .comma (parts.map made)).length + 1 ≤ fuel + 1 at enough
      rw [List.length_append] at enough
      exact readsRow_cons stays here (by omega) roomy (isTokens.trans (List.append_assoc _ _ _))
        (fun graph => readsRow_rowTail ends stays later (by omega) roomy rfl)

/-- What stands between brackets is read inside one more collection, for which there must be room.
The node of the collection comes first, and it ends last. -/
theorem run_collection {opening : Token} (starts : startsNode opening = true)
    {nodeOf : List β → Node}
    (opens : ∀ fuel setting tokens graph anchors handles room,
      (content (fuel + 1) setting none false).run
          ⟨opening :: tokens, graph, anchors, handles, room⟩ =
        (nodeOf <$> inside (read fuel true)).run ⟨tokens, graph, anchors, handles, room⟩)
    (ends : EndsRow read close) (stays : ∀ part, Stays (good part))
    (reads : ∀ part ∈ parts, ReadsPart read room (made part) (good part))
    (notEmpty : ∀ part ∈ parts, made part ≠ [])
    (enough : 2 * (opening :: (row .comma (parts.map made) ++ [close])).length ≤ fuel)
    (roomy : room + 1 ≤ reading.room)
    (begins : reading.tokens = opening :: (row .comma (parts.map made) ++ [close]) ++ rest)
    (setting : Setting) :
    ∃ (found : List (α × β)) (graph : Graph), found.map Prod.fst = parts ∧
      reading.graph.Extends graph ∧ reading.graph.size < graph.size ∧
        (∀ pair ∈ found, good pair.1 graph (reading.graph.size + 1) pair.2) ∧
          (node fuel setting).run reading = .ok (reading.graph.size,
            { reading with
              tokens := rest
              graph := graph.setIfInBounds reading.graph.size (nodeOf (found.map Prod.snd)) }) := by
  rcases reading with ⟨tokens, graph, anchors, handles, full⟩
  obtain ⟨left, rfl⟩ := Nat.exists_eq_add_of_le' (Nat.le_trans (Nat.le_add_left 1 room) roomy)
  rw [List.length_cons, List.length_append, List.length_singleton] at enough
  obtain ⟨fuel, rfl⟩ := Nat.exists_eq_add_of_le' (show 2 ≤ fuel by omega)
  have enoughRow : 2 * (row .comma (parts.map made)).length + 1 ≤ fuel := by omega
  have isRow : ReadsRow (read fuel true) parts good
      ⟨row .comma (parts.map made) ++ close :: rest, graph.push .absent, anchors, handles, left⟩
      rest :=
    readsRow_row ends stays reads notEmpty enoughRow (Nat.le_of_succ_le_succ roomy) rfl
  rcases isRow with ⟨found, grown, isFound, extended, areGood, isRun⟩
  have isBegun : tokens = opening :: (row .comma (parts.map made) ++ close :: rest) :=
    begins.trans (congrArg (opening :: ·) (List.append_assoc _ [close] rest))
  have isContent : (content (fuel + 1) setting none false).run
      ⟨tokens, graph.push .absent, anchors, handles, left + 1⟩ =
        .ok (nodeOf (found.map Prod.snd), ⟨rest, grown, anchors, handles, left + 1⟩) := by
    rw [isBegun, opens]
    exact run_map_of_ok (run_inside_of_ok isRun)
  have isSize : (graph.push Node.absent).size = graph.size + 1 := Array.size_push _
  have isOld := extended.size
  rw [isSize] at areGood isOld
  subst isBegun
  exact ⟨found, grown, isFound, (Graph.extends_push _ _).trans extended, isOld, areGood,
    run_node starts isContent⟩

end

/-! ## Nodes -/

section

variable {room : Nat} {made : List Token} {value : Value}

/-- The node of a value is read, if there is room: the first new node holds the value. -/
def ReadsNode (room : Nat) (made : List Token) (value : Value) : Prop :=
  ∀ fuel setting (reading : Reading) rest, 2 * made.length ≤ fuel → room ≤ reading.room →
    reading.tokens = made ++ rest → ∃ graph : Graph, reading.graph.Extends graph ∧
      graph.Holds reading.graph.size value ∧ (node fuel setting).run reading =
        .ok (reading.graph.size, { reading with tokens := rest, graph })

/-- A scalar is one node. -/
theorem run_scalar {text : String} {plain : Bool} {fuel : Nat} (enough : 2 ≤ fuel)
    (setting : Setting) {reading : Reading} {rest : List Token}
    (begins : reading.tokens = .scalar text plain :: rest) :
    ∃ graph : Graph, reading.graph.Extends graph ∧
      graph[reading.graph.size]? = some ⟨scalarKind none plain text, .scalar text⟩ ∧
        (node fuel setting).run reading =
          .ok (reading.graph.size, { reading with tokens := rest, graph }) := by
  obtain ⟨fuel, rfl⟩ := Nat.exists_eq_add_of_le' enough
  rcases reading with ⟨tokens, graph, anchors, handles, room⟩
  obtain rfl : tokens = .scalar text plain :: rest := begins
  have isContent : (content (fuel + 1) setting none false).run
      ⟨.scalar text plain :: rest, graph.push .absent, anchors, handles, room⟩ =
        .ok (⟨scalarKind none plain text, .scalar text⟩,
          ⟨rest, graph.push .absent, anchors, handles, room⟩) := by
    rw [content]
    rfl
  refine ⟨_, (Graph.extends_push _ _).set (Nat.le_refl _), ?_, run_node rfl isContent⟩
  exact Array.getElem?_setIfInBounds_self_of_lt (by rw [Array.size_push]; exact Nat.lt_succ_self _)

/-! ## Lists -/

def GoodItem (item : TokenItem) (graph : Graph) (start number : Nat) : Prop :=
  start ≤ number ∧ graph.Holds number item.value

theorem stays_goodItem (item : TokenItem) : Stays (GoodItem item) :=
  fun good extended isLess => ⟨Nat.le_trans isLess good.1, good.2.extend extended⟩

theorem endsRow_flowItems : EndsRow flowItems .listClose := by
  intro isFirst fuel reading rest begins
  rcases reading with ⟨tokens, graph, anchors, handles, room⟩
  obtain rfl : tokens = .listClose :: rest := begins
  rw [flowItems]
  rfl

theorem readsPart_flowItems {item : TokenItem} (describes : Describes room item.tokens item.value)
    (reads : ReadsNode room item.tokens item.value) :
    ReadsPart flowItems room item.tokens (GoodItem item) := by
  intro isFirst fuel reading rest enough roomy begins
  rcases reads fuel .flow { reading with tokens := item.tokens ++ rest } rest enough roomy rfl with
    ⟨graph, extended, holds, isNode⟩
  refine ⟨_, graph, extended, ⟨Nat.le_refl _, holds⟩, ?_⟩
  rcases exists_start describes with ⟨first, others, isMade, starts⟩
  have isItem : (flowItems (fuel + 1) isFirst).run reading = (do
      let first ← node fuel .flow
      let others ← flowItems fuel false
      pure (first :: others)).run { reading with tokens := item.tokens ++ rest } := by
    rcases reading with ⟨tokens, graph, anchors, handles, room⟩
    obtain rfl : tokens = lead isFirst ++ (item.tokens ++ rest) := begins
    rw [flowItems, isMade]
    cases first with
    | scalar text plain => cases isFirst <;> rfl
    | listOpen => cases isFirst <;> rfl
    | mapOpen => cases isFirst <;> rfl
    | _ => cases starts
  rw [isItem, run_bind_of_ok isNode, map_eq_pure_bind]

theorem readsNode_list {items : List TokenItem}
    (describe : ∀ item ∈ items, Describes room item.tokens item.value)
    (reads : ∀ item ∈ items, ReadsNode room item.tokens item.value) :
    ReadsNode (room + 1)
      (.listOpen :: (row .comma (items.map TokenItem.tokens) ++ [.listClose]))
      (.list (items.map TokenItem.value)) := by
  intro fuel setting reading rest enough roomy begins
  have notEmpty : ∀ item ∈ items, item.tokens ≠ [] := by
    intro item member
    rcases exists_start (describe item member) with ⟨first, others, isMade, -⟩
    rw [isMade]
    exact List.cons_ne_nil _ _
  have opens : ∀ fuel setting tokens graph anchors handles room,
      (content (fuel + 1) setting none false).run
          ⟨.listOpen :: tokens, graph, anchors, handles, room⟩ =
        (listNode none <$> inside (flowItems fuel true)).run
          ⟨tokens, graph, anchors, handles, room⟩ := by
    intro fuel setting tokens graph anchors handles room
    rw [content]
    rfl
  rcases run_collection rfl opens endsRow_flowItems stays_goodItem
    (fun item member => readsPart_flowItems (describe item member) (reads item member)) notEmpty
    enough roomy begins setting with ⟨found, graph, isFound, extended, isOld, good, isRun⟩
  refine ⟨_, extended.set (Nat.le_refl _), ?_, isRun⟩
  have holds := @Graph.Holds.list
    (graph.setIfInBounds reading.graph.size (listNode none (found.map Prod.snd)))
    reading.graph.size (found.map (fun pair => ⟨pair.2, pair.1.value⟩))
    ((Array.getElem?_setIfInBounds_self_of_lt isOld).trans (by rw [List.map_map]; rfl))
    (List.forall_mem_map.mpr (fun pair member => Nat.lt_of_succ_le (good pair member).1))
    (List.forall_mem_map.mpr (fun pair member =>
      (good pair member).2.set (good pair member).1 _))
  rw [List.map_map] at holds
  rw [← isFound, List.map_map]
  exact holds

/-! ## Mappings -/

/-- The nodes of a member are the text of its key, and one that holds its value. -/
structure GoodMember (member : TokenMember) (graph : Graph) (start : Nat) (numbers : Nat × Nat) :
    Prop where
  keyLater : start ≤ numbers.1
  key : graph.HoldsKey numbers.1 member.name
  later : start ≤ numbers.2
  holds : graph.Holds numbers.2 member.item.value

theorem stays_goodMember (member : TokenMember) : Stays (GoodMember member) :=
  fun good extended isLess => ⟨Nat.le_trans isLess good.keyLater, good.key.extend extended,
    Nat.le_trans isLess good.later, good.holds.extend extended⟩

theorem endsRow_flowEntries : EndsRow flowEntries .mapClose := by
  intro isFirst fuel reading rest begins
  rcases reading with ⟨tokens, graph, anchors, handles, room⟩
  obtain rfl : tokens = .mapClose :: rest := begins
  rw [flowEntries]
  rfl

/-- What is read of an entry behind its key, and all entries behind that. -/
def behindKey (fuel key : Nat) : Parse (List (Nat × Nat)) := do
  let value ←
    match ← peek with
    | .value =>
        skip
        if endsMapPart (← peek) then absent else node fuel .flow
    | _ => absent
  let others ← flowEntries fuel false
  pure ((key, value) :: others)

theorem readsPart_flowEntries {member : TokenMember}
    (describes : Describes room member.item.tokens member.item.value)
    (reads : ReadsNode room member.item.tokens member.item.value) :
    ReadsPart flowEntries room member.tokens (GoodMember member) := by
  intro isFirst fuel reading rest enough roomy begins
  have isLength : member.tokens.length = member.item.tokens.length + 3 := rfl
  rw [isLength] at enough
  have isBegun : (flowEntries (fuel + 1) isFirst).run reading =
      (node fuel .flow >>= behindKey fuel).run
        { reading with
          tokens := .scalar member.name false :: .value :: (member.item.tokens ++ rest) } := by
    rcases reading with ⟨tokens, graph, anchors, handles, room⟩
    obtain rfl : tokens = lead isFirst ++ (member.tokens ++ rest) := begins
    rw [flowEntries]
    cases isFirst
    · rfl
    · rfl
  rcases @run_scalar member.name false fuel (by omega) .flow
    { reading with tokens := .scalar member.name false :: .value :: (member.item.tokens ++ rest) }
    _ rfl with ⟨keyed, extended, isKey, isKeyNode⟩
  rcases reads fuel .flow
    { reading with tokens := member.item.tokens ++ rest, graph := keyed } rest (by omega) roomy rfl
    with ⟨graph, extendedMore, holds, isNode⟩
  refine ⟨(reading.graph.size, keyed.size), graph, extended.trans extendedMore,
    ⟨Nat.le_refl _, ?_, extended.size, holds⟩, ?_⟩
  · exact Graph.HoldsKey.extend (show keyed.HoldsKey _ _ from isKey) extendedMore
  · rcases exists_start describes with ⟨first, others, isMade, starts⟩
    have isValue : (behindKey fuel reading.graph.size).run
        { reading with tokens := .value :: (member.item.tokens ++ rest), graph := keyed } = (do
          let value ← node fuel .flow
          let others ← flowEntries fuel false
          pure ((reading.graph.size, value) :: others)).run
            { reading with tokens := member.item.tokens ++ rest, graph := keyed } := by
      rw [isMade]
      cases first with
      | scalar text plain => rfl
      | listOpen => rfl
      | mapOpen => rfl
      | _ => cases starts
    rw [isBegun, run_bind_of_ok isKeyNode, isValue, run_bind_of_ok isNode, map_eq_pure_bind]

theorem readsNode_map {members : List TokenMember} (differ : (members.map TokenMember.name).Nodup)
    (describe : ∀ member ∈ members, Describes room member.item.tokens member.item.value)
    (reads : ∀ member ∈ members, ReadsNode room member.item.tokens member.item.value) :
    ReadsNode (room + 1)
      (.mapOpen :: (row .comma (members.map TokenMember.tokens) ++ [.mapClose]))
      (.map (members.map TokenMember.entry)) := by
  intro fuel setting reading rest enough roomy begins
  have opens : ∀ fuel setting tokens graph anchors handles room,
      (content (fuel + 1) setting none false).run
          ⟨.mapOpen :: tokens, graph, anchors, handles, room⟩ =
        (mapNode none <$> inside (flowEntries fuel true)).run
          ⟨tokens, graph, anchors, handles, room⟩ := by
    intro fuel setting tokens graph anchors handles room
    rw [content]
    rfl
  rcases run_collection rfl opens endsRow_flowEntries stays_goodMember
    (fun member isMember =>
      readsPart_flowEntries (describe member isMember) (reads member isMember))
    (fun member _ => List.cons_ne_nil _ _) enough roomy begins setting with
    ⟨found, graph, isFound, extended, isOld, good, isRun⟩
  refine ⟨_, extended.set (Nat.le_refl _), ?_, isRun⟩
  have holds := @Graph.Holds.map
    (graph.setIfInBounds reading.graph.size (mapNode none (found.map Prod.snd)))
    reading.graph.size
    (found.map (fun pair => ⟨pair.2.1, pair.1.name, pair.2.2, pair.1.item.value⟩))
    ((Array.getElem?_setIfInBounds_self_of_lt isOld).trans (by rw [List.map_map]; rfl))
    (List.forall_mem_map.mpr (fun pair member => Nat.lt_of_succ_le (good pair member).keyLater))
    (List.forall_mem_map.mpr (fun pair member =>
      (good pair member).key.set (good pair member).keyLater _))
    (by rw [← isFound, List.map_map] at differ; rwa [List.map_map])
    (List.forall_mem_map.mpr (fun pair member => Nat.lt_of_succ_le (good pair member).later))
    (List.forall_mem_map.mpr (fun pair member =>
      (good pair member).holds.set (good pair member).later _))
  rw [List.map_map] at holds
  rw [← isFound, List.map_map]
  exact holds

/-- Whatever the tokens of a value are, the first new node holds the value. -/
theorem readsNode (describes : Describes room made value) : ReadsNode room made value := by
  induction describes with
  | @plain room text value isValue =>
      intro fuel setting reading rest enough _ begins
      rcases run_scalar enough setting begins with ⟨graph, extended, isNode, isRun⟩
      have isKind : scalarKind none true (String.ofList text) = Kind.ofText text := by
        rw [scalarKind, if_pos rfl, String.toList_ofList]
      rw [isKind] at isNode
      exact ⟨graph, extended, .scalar isNode isValue.isScalar isValue.value, isRun⟩
  | quoted room text =>
      intro fuel setting reading rest enough _ begins
      rcases run_scalar enough setting begins with ⟨graph, extended, isNode, isRun⟩
      exact ⟨graph, extended, .scalar isNode rfl rfl, isRun⟩
  | list describe ih => exact readsNode_list describe ih
  | map differ describe ih => exact readsNode_map differ describe ih

end

end Parse

/-- What the tokens of a value describe is a graph of which the first node holds the value. -/
theorem exists_outline {room limit : Nat} {made : List Token} {value : Value}
    (describes : Describes room made value) (shallow : room ≤ limit) :
    ∃ graph : Graph, graph.Holds 0 value ∧
      Outline.ofTokens limit (made ++ [.finish]) = .ok (some ⟨graph, 0⟩) := by
  obtain ⟨fuel, isFuel⟩ : ∃ fuel, 3 * (made ++ [Token.finish]).length + 3 = fuel + 1 := ⟨_, rfl⟩
  have enough : 2 * made.length ≤ fuel + 1 := by
    rw [← isFuel, List.length_append]
    omega
  rcases Parse.readsNode describes (fuel + 1) .block
    ⟨made ++ [Token.finish], #[], [], Parse.commonHandles, limit⟩ [.finish] enough shallow
    rfl with ⟨graph, -, holds, isNode⟩
  have isDocument : (Parse.document (fuel + 1)).run
      ⟨made ++ [Token.finish], #[], [], [], limit⟩ = (do
        let found ← Parse.node (fuel + 1) .block
        Parse.ending (fuel + 1)
        pure (some found)).run
          ⟨made ++ [Token.finish], #[], [], Parse.commonHandles, limit⟩ := by
    rcases Parse.exists_start describes with ⟨first, others, rfl, starts⟩
    cases first with
    | scalar text plain => rfl
    | listOpen => rfl
    | mapOpen => rfl
    | _ => cases starts
  refine ⟨graph, holds, ?_⟩
  unfold Outline.ofTokens
  rw [isFuel]
  change Except.map _ ((Parse.document (fuel + 1)).run _) = _
  rw [isDocument, run_bind_of_ok isNode]
  rfl

end Yaml
end ApiAccessors
