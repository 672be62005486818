import ApiAccessors.Api.ContentType
import ApiAccessors.Proofs.Document.DistinctKeys
import ApiAccessors.Proofs.Outcome

namespace ApiAccessors
namespace Resource

/-!
# Which paths a resource has

A document lists its paths as a mapping.  To find the paths of one resource all paths are gone
through, and each of them is looked up in the document again; so one path whose look-up stops is
enough to stop the search for any resource.  Where no look-up stops, the paths of a resource are
those that are routed to it, in the order of their texts.

Nothing is supposed of the paths themselves.  A key that is no text stops its look-up, so that all
keys turn out to be texts where the search ends.
-/

/-- The document lists these entries as its paths. -/
def Lists (spec : Value) (entries : Entries) : Prop :=
  ∃ items, paths spec = .ok items ∧ items.entries? = some entries

/-- The resource of a key, or the empty text where its look-up stops. -/
def nameOf (spec key : Value) : String := Outcome.value (ofKey spec key)

/-- No look-up of a path stops. -/
def AllRouted (spec : Value) (entries : Entries) : Prop :=
  ∀ entry ∈ entries, ofKey spec entry.1 = .ok (nameOf spec entry.1)

def listed (spec : Value) (entries : Entries) (resource : String) : List (String × Value) :=
  (entries.filter (fun entry => nameOf spec entry.1 == resource)).map
    (fun entry => (keyText entry.1, entry.2))

/-- The paths that are routed to a resource with their items, in the order of the paths. -/
def own (spec : Value) (entries : Entries) (resource : String) : List (String × Value) :=
  (listed spec entries resource).mergeSort (fun left right => textLe left.1 right.1)

theorem nameOf_text {spec : Value} {path name : String} (routed : ofPath spec path = .ok name) :
    nameOf spec (.text path) = name := by
  change Outcome.value (ofPath spec path) = name
  rw [routed, Outcome.value_ok]

theorem AllRouted.exists_text {spec : Value} {entries : Entries} (routed : AllRouted spec entries)
    {entry : Value × Value} (member : entry ∈ entries) : ∃ path, entry.1 = .text path := by
  have ended := routed entry member
  rcases entry with ⟨key, item⟩
  cases key with
  | text path => exact ⟨path, rfl⟩
  | _ => cases ended

section

variable {spec : Value} {entries : Entries}

/-- The entries of a proper document have no path twice. -/
theorem Lists.distinct (lists : Lists spec entries) (distinct : spec.hasDistinctKeys = true) :
    entries.areDistinct = true ∧ Value.entriesHaveDistinctKeys entries = true := by
  rcases lists with ⟨items, found, isMapping⟩
  exact Value.distinct_of_entries? (Value.fieldOrEmpty_hasDistinctKeys distinct found) isMapping

theorem Lists.textsDiffer (lists : Lists spec entries) (distinct : spec.hasDistinctKeys = true) :
    entries.TextsDiffer :=
  Entries.textsDiffer_of_areDistinct (lists.distinct distinct).1

/-- A document has one listing of its paths. -/
theorem Lists.unique {others : Entries} (lists : Lists spec entries)
    (otherLists : Lists spec others) : entries = others := by
  rcases lists with ⟨items, isItems, isMapping⟩
  rcases otherLists with ⟨_, isOthers, isOtherMapping⟩
  rw [isItems] at isOthers
  cases isOthers
  exact Option.some_inj.mp (isMapping.symm.trans isOtherMapping)

theorem Lists.pathItem_eq (lists : Lists spec entries) (path : String) :
    pathItem spec path = .ok (Value.orElse (Entries.field? entries path) .empty) := by
  rcases lists with ⟨items, found, isMapping⟩
  unfold pathItem
  rw [found]
  change items.fieldOrEmpty path = _
  unfold Value.fieldOrEmpty Value.field?
  rw [isMapping]
  rfl

/-- A path that is listed has the item that it is listed with, unless that counts as not given. -/
theorem Lists.pathItem_of_mem (lists : Lists spec entries) (distinct : spec.hasDistinctKeys = true)
    {path : String} {item : Value} (member : (.text path, item) ∈ entries) :
    pathItem spec path = .ok (if item.truthy then item else .empty) := by
  rw [lists.pathItem_eq, (lists.textsDiffer distinct).field?_eq_some_iff.mpr member]
  rfl

end

section

variable {spec : Value} {entries : Entries}

/-- The search for the paths of a resource ends only for a mapping. -/
theorem exists_lists_of_pathsOf {resource : String} {found : List (String × Value)}
    (ended : pathsOf spec resource = .ok found) : ∃ entries, Lists spec entries := by
  rcases Outcome.bind_eq_ok_iff.mp ended with ⟨items, isItems, later⟩
  rcases Outcome.bind_eq_ok_iff.mp later with ⟨entries, isEntries, -⟩
  unfold entriesOf at isEntries
  cases isMapping : items.entries? with
  | none =>
      rw [isMapping] at isEntries
      cases isEntries
  | some held => exact ⟨held, items, isItems, isMapping⟩

theorem Lists.pathsOf_eq (lists : Lists spec entries) (resource : String) :
    pathsOf spec resource =
      (do
        let named ← entries.mapM (fun entry => do pure (← ofKey spec entry.1, entry))
        pure ((((named.filter (fun (name, _) => name == resource)).map (·.2)).map
          (fun (key, item) => (keyText key, item))).mergeSort
            (fun left right => textLe left.1 right.1))) := by
  rcases lists with ⟨items, found, isMapping⟩
  have isEntries : entriesOf items = .ok entries := by
    unfold entriesOf
    rw [isMapping]
  unfold pathsOf
  rw [found]
  change (entriesOf items >>= _) = _
  rw [isEntries]
  rfl

private theorem named_eq_ok_iff {named : List (String × Value × Value)} :
    entries.mapM (fun entry => do pure (← ofKey spec entry.1, entry)) = .ok named ↔
      AllRouted spec entries ∧ named = entries.map (fun entry => (nameOf spec entry.1, entry)) := by
  apply Outcome.mapM_eq_ok_iff_of
  intro entry named
  exact Outcome.bind_pure_eq_ok_iff

/-- The search for the paths of a resource ends if no look-up stops, and finds what is routed to the
resource. -/
theorem Lists.pathsOf_eq_ok_iff (lists : Lists spec entries) {resource : String}
    {found : List (String × Value)} :
    pathsOf spec resource = .ok found ↔
      AllRouted spec entries ∧ found = own spec entries resource := by
  have collected : (((entries.map (fun entry => (nameOf spec entry.1, entry))).filter
      (fun (name, _) => name == resource)).map (·.2)).map (fun (key, item) => (keyText key, item)) =
        listed spec entries resource := by
    rw [List.filter_map, List.map_map, List.map_map]
    rfl
  rw [lists.pathsOf_eq, Outcome.bind_eq_ok_iff]
  constructor
  · rintro ⟨named, ended, same⟩
    cases same
    have parts := named_eq_ok_iff.mp ended
    refine ⟨parts.1, ?_⟩
    rw [parts.2, collected]
    rfl
  · rintro ⟨routed, same⟩
    refine ⟨_, named_eq_ok_iff.mpr ⟨routed, rfl⟩, ?_⟩
    rw [same, collected]
    rfl

theorem Lists.elements_eq (lists : Lists spec entries) :
    (paths spec >>= Value.elements) = .ok (entries.map (·.1)) := by
  rcases lists with ⟨items, found, isMapping⟩
  rw [found]
  change items.elements = _
  unfold Value.elements
  rw [Value.entries?_eq_some_iff.mp isMapping]

/-- The resources of a document are found if no look-up stops, each of them once. -/
theorem Lists.all_eq_ok_iff (lists : Lists spec entries) {resources : List String} :
    all spec = .ok resources ↔ AllRouted spec entries ∧
      resources = ((entries.map (fun entry => nameOf spec entry.1)).filter
        (fun name => !name.isEmpty)).eraseDups := by
  have unfolded : all spec = ((paths spec >>= Value.elements) >>= fun keys => do
      let names ← keys.mapM (ofKey spec)
      pure ((names.filter (fun name => !name.isEmpty)).eraseDups)) := by
    unfold all
    cases paths spec <;> rfl
  rw [unfolded, lists.elements_eq]
  change ((entries.map (·.1)).mapM (ofKey spec) >>= _) = _ ↔ _
  rw [Outcome.bind_eq_ok_iff]
  constructor
  · rintro ⟨names, ended, same⟩
    cases same
    have parts := Outcome.mapM_eq_ok_iff.mp ended
    rw [parts.2, List.map_map]
    exact ⟨fun entry member => parts.1 _ (List.mem_map_of_mem member), rfl⟩
  · rintro ⟨routed, same⟩
    refine ⟨_, Outcome.mapM_eq_ok_iff.mpr ⟨?_, rfl⟩, ?_⟩
    · intro key member
      rcases List.mem_map.mp member with ⟨entry, entryMember, same⟩
      exact same ▸ routed entry entryMember
    · rw [same, List.map_map]
      rfl

end

/-- No resource of a document has the empty name. -/
theorem empty_not_mem_all {spec : Value} {resources : List String}
    (found : all spec = .ok resources) : "" ∉ resources := by
  rcases Outcome.bind_eq_ok_iff.mp found with ⟨items, -, later⟩
  rcases Outcome.bind_eq_ok_iff.mp later with ⟨keys, -, collected⟩
  rcases Outcome.bind_eq_ok_iff.mp collected with ⟨names, -, same⟩
  cases same
  intro member
  have kept := (List.mem_filter.mp (List.mem_eraseDups.mp member)).2
  exact absurd kept (by decide)

end Resource
end ApiAccessors
