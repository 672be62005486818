import ApiAccessors.Proofs.Package.Operations

namespace ApiAccessors
namespace Package

/-!
# No operation is met twice

Different resources have different paths, a document lists a path once, and a path item that is a
mapping declares a verb once.  So the operations of different resources differ in their path or in
their verb.  Then every operation has a candidate of its own, and the final name that is looked up
for it is the one that was settled for this candidate.
-/

section

variable {spec : Value} {entries : Entries}

theorem pathsOf_eq_ok_iff (lists : Resource.Lists spec entries) {resources : List String}
    {found : List (String × Value)} :
    pathsOf spec resources = .ok found ↔
      (resources ≠ [] → Resource.AllRouted spec entries) ∧
        found = resources.flatMap (Resource.own spec entries) := by
  induction resources generalizing found with
  | nil =>
      constructor
      · intro ended
        cases ended
        exact ⟨fun notEmpty => False.elim (notEmpty rfl), rfl⟩
      · rintro ⟨-, same⟩
        rw [same]
        rfl
  | cons resource rest ih =>
      unfold pathsOf
      rw [Outcome.bind_eq_ok_iff, List.flatMap_cons]
      constructor
      · rintro ⟨first, firstEnded, later⟩
        rcases Outcome.bind_eq_ok_iff.mp later with ⟨others, othersEnded, same⟩
        cases same
        have here := lists.pathsOf_eq_ok_iff.mp firstEnded
        exact ⟨fun _ => here.1, by rw [here.2, (ih.mp othersEnded).2]⟩
      · rintro ⟨routed, same⟩
        have allRouted := routed (List.cons_ne_nil _ _)
        refine ⟨_, lists.pathsOf_eq_ok_iff.mpr ⟨allRouted, rfl⟩,
          Outcome.bind_eq_ok_iff.mpr ⟨_, ih.mpr ⟨fun _ => allRouted, rfl⟩, ?_⟩⟩
        rw [same]
        rfl

theorem exists_lists_of_pathsOf {resources : List String} {found : List (String × Value)}
    (notEmpty : resources ≠ []) (ended : pathsOf spec resources = .ok found) :
    ∃ entries, Resource.Lists spec entries := by
  cases resources with
  | nil => exact False.elim (notEmpty rfl)
  | cons resource rest =>
      unfold pathsOf at ended
      rcases Outcome.bind_eq_ok_iff.mp ended with ⟨first, firstEnded, -⟩
      exact Resource.exists_lists_of_pathsOf firstEnded

/-- A path is found under the one resource that it is routed to, with the item that it is listed
with. -/
theorem mem_flatMap_own (routed : Resource.AllRouted spec entries) {resources : List String}
    {path : String} {item : Value} :
    (path, item) ∈ resources.flatMap (Resource.own spec entries) ↔
      (.text path, item) ∈ entries ∧ Resource.nameOf spec (.text path) ∈ resources := by
  rw [List.mem_flatMap]
  constructor
  · rintro ⟨resource, member, owned⟩
    rcases routed.mem_own.mp owned with ⟨listed, name⟩
    exact ⟨listed, name ▸ member⟩
  · rintro ⟨listed, member⟩
    exact ⟨_, member, routed.mem_own.mpr ⟨listed, rfl⟩⟩

/-- A path with a declared verb has a mapping for its item, as the content type has been found. -/
theorem exists_entries_of_described (lists : Resource.Lists spec entries)
    (distinct : spec.hasDistinctKeys = true) (routed : Resource.AllRouted spec entries)
    {resources : List String}
    (described : ∀ key ∈ keysIn (resources.flatMap (Resource.own spec entries)), Described spec key)
    {path verb : String} {item : Value}
    (listed : (path, item) ∈ resources.flatMap (Resource.own spec entries))
    (isDeclared : verb ∈ Resource.declared item) :
    ∃ operations, item.entries? = some operations := by
  have isEntry := ((mem_flatMap_own routed).mp listed).1
  have typed := (described _ (mem_keysIn.mpr ⟨item, listed, isDeclared⟩)).2
  exact lists.exists_entries_of_contentType distinct isEntry isDeclared typed

/-- No path is found twice: under one resource it is listed once, and it has one resource only. -/
theorem flatMap_own_paths_differ (routed : Resource.AllRouted spec entries)
    (differ : entries.TextsDiffer) {resources : List String} (different : resources.Nodup) :
    (resources.flatMap (Resource.own spec entries)).Pairwise
      (fun first second => first.1 ≠ second.1) := by
  apply List.pairwise_flatMap.mpr
  constructor
  · intro resource _
    exact (routed.own_pairwise_lt differ resource).imp String.ne_of_lt
  · apply different.imp
    rintro resource other apart ⟨path, item⟩ owned ⟨otherPath, otherItem⟩ otherOwned same
    apply apart
    rw [← (routed.mem_own.mp owned).2, ← (routed.mem_own.mp otherOwned).2]
    exact congrArg (fun path => Resource.nameOf spec (.text path)) same

/-- Wherever content types are found for all operations, no operation is there twice. -/
theorem keysIn_nodup (lists : Resource.Lists spec entries) (distinct : spec.hasDistinctKeys = true)
    (routed : Resource.AllRouted spec entries) {resources : List String}
    (different : resources.Nodup)
    (described : ∀ key ∈ keysIn (resources.flatMap (Resource.own spec entries)),
      Described spec key) :
    (keysIn (resources.flatMap (Resource.own spec entries))).Nodup := by
  have pathsDiffer := flatMap_own_paths_differ routed (lists.textsDiffer distinct) different
  apply List.pairwise_flatMap.mpr
  constructor
  · rintro ⟨path, item⟩ member
    apply List.Nodup.map (fun first second same => (Prod.ext_iff.mp same).2)
    cases isDeclared : Resource.declared item with
    | nil => exact List.nodup_nil
    | cons verb rest =>
        have verbDeclared : verb ∈ Resource.declared item := isDeclared ▸ List.mem_cons_self
        rcases exists_entries_of_described lists distinct routed described member verbDeclared with
          ⟨operations, isMapping⟩
        have listed := ((mem_flatMap_own routed).mp member).1
        rw [← isDeclared]
        exact Resource.declared_nodup (lists.item_textsDiffer distinct listed isMapping) isMapping
  · apply pathsDiffer.imp
    rintro first second apart ⟨path, verb⟩ member ⟨other, otherVerb⟩ otherMember same
    rcases List.mem_map.mp member with ⟨_, -, isFirst⟩
    rcases List.mem_map.mp otherMember with ⟨_, -, isSecond⟩
    apply apart
    rw [(Prod.ext_iff.mp isFirst).1, (Prod.ext_iff.mp isSecond).1]
    exact (Prod.ext_iff.mp same).1

end

section

variable {spec : Value} {keys : List OperationName.Key}

/-- Different operations get their candidates in order, each its own. -/
theorem candidatesFor_of_nodup {known : List (OperationName.Key × String)} (different : keys.Nodup)
    (unknown : ∀ key ∈ keys, key ∉ known.map (·.1)) :
    candidatesFor spec known keys =
      known ++ keys.map (fun key => (key, candidateOf spec key)) := by
  induction keys generalizing known with
  | nil => exact (List.append_nil known).symm
  | cons key rest ih =>
      have parts := List.nodup_cons.mp different
      have put : Table.put key (candidateOf spec key) known = _ :=
        Table.put_of_not_mem (unknown key List.mem_cons_self)
      have stillUnknown : ∀ other ∈ rest,
          other ∉ (known ++ [(key, candidateOf spec key)]).map (·.1) := by
        intro other member given
        rw [List.map_append] at given
        rcases List.mem_append.mp given with before | here
        · exact unknown other (List.mem_cons_of_mem _ member) before
        · have same : other = key := List.mem_singleton.mp here
          exact parts.1 (same ▸ member)
      change candidatesFor spec (Table.put key (candidateOf spec key) known) rest = _
      rw [put, ih parts.2 stillUnknown, List.append_assoc]
      rfl

/-- A list of names in which no operation is twice has, for each of them, the name beside it. -/
theorem lookup_of_mem {names : List (OperationName.Key × String)}
    (different : (names.map (·.1)).Nodup) {key : OperationName.Key} {name : String}
    (member : (key, name) ∈ names) : names.lookup key = some name := by
  induction names with
  | nil => cases member
  | cons entry rest ih =>
      rcases entry with ⟨first, here⟩
      have parts := List.nodup_cons.mp different
      rcases List.mem_cons.mp member with same | later
      · cases same
        exact List.lookup_cons_self
      · have apart : (key == first) = false := by
          apply beq_eq_false_iff_ne.mpr
          intro same
          exact parts.1 (same ▸ List.mem_map.mpr ⟨_, later, rfl⟩)
        rw [List.lookup_cons, apart]
        exact ih parts.2 later

/-- The operations have the final names of their candidates, in order. -/
theorem map_name_operationOf (different : keys.Nodup) :
    (keys.map (operationOf spec (OperationName.unique (candidatesFor spec [] keys)))).map
        (fun operation => (operation.key, operation.name)) =
      OperationName.unique (keys.map (fun key => (key, candidateOf spec key))) := by
  have candidates : candidatesFor spec [] keys =
      keys.map (fun key => (key, candidateOf spec key)) :=
    candidatesFor_of_nodup different (fun _ _ => List.not_mem_nil)
  rw [candidates]
  generalize isNames :
    OperationName.unique (keys.map (fun key => (key, candidateOf spec key))) = names
  have namesKeys : names.map (·.1) = keys := by
    rw [← isNames, OperationName.unique_keys, List.map_map]
    exact List.map_id _
  have namesDiffer : (names.map (·.1)).Nodup := namesKeys ▸ different
  rw [← namesKeys, List.map_map, List.map_map]
  calc
    names.map (fun named => (named.1, (names.lookup named.1).getD ""))
    _ = names.map (fun named => named) := by
        apply List.map_congr_left
        rintro ⟨key, name⟩ member
        rw [lookup_of_mem namesDiffer member]
        rfl
    _ = names := List.map_id _

end

/-- The final names of the operations of different resources are those that their candidates get in
the order of the operations. -/
theorem operations_named {spec : Value} (distinct : spec.hasDistinctKeys = true)
    {resources : List String} (different : resources.Nodup) {found : List Operation}
    (ended : operations spec resources = .ok found) :
    (found.map Operation.key).Nodup ∧
      found.map (fun operation => (operation.key, operation.name)) =
        OperationName.unique ((found.map Operation.key).map
          (fun key => (key, candidateOf spec key))) := by
  rcases operations_eq_ok_iff.mp ended with ⟨listing, isPaths, -, described, same⟩
  have keys : found.map Operation.key = keysIn listing := by
    rw [same, List.map_map]
    exact List.map_id _
  have nodup : (keysIn listing).Nodup := by
    by_cases notEmpty : resources = []
    · rw [notEmpty] at isPaths
      cases isPaths
      exact List.nodup_nil
    · rcases exists_lists_of_pathsOf notEmpty isPaths with ⟨entries, lists⟩
      have parts := (pathsOf_eq_ok_iff lists).mp isPaths
      rw [parts.2] at described ⊢
      exact keysIn_nodup lists distinct (parts.1 notEmpty) different described
  rw [keys]
  refine ⟨nodup, ?_⟩
  rw [same]
  exact map_name_operationOf nodup

end Package
end ApiAccessors
