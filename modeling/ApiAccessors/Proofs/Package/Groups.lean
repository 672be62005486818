import ApiAccessors.Api.Package
import ApiAccessors.Proofs.Resource.Sorted

namespace ApiAccessors
namespace Package

/-!
# Groups of resources

Resources are put into groups one by one, in the order of their names.  A group has the resources
with one title and is never empty, so it is known from its title alone: its members are all
resources with this title, in order.
-/

/-- The resources with a title, in order. -/
def membersOf (resources : List String) (title : String) : List String :=
  resources.filter (fun resource => Naming.pascalCase resource == title)

/-- Groups that hold the resources that were added so far. -/
structure Grouped (added : List String) (groups : List (String × List String)) : Prop where
  titles_differ : (groups.map (·.1)).Nodup
  members_eq : ∀ group ∈ groups, group.2 = membersOf added group.1
  not_empty : ∀ group ∈ groups, group.2 ≠ []
  covered : ∀ resource ∈ added, Naming.pascalCase resource ∈ groups.map (·.1)

private theorem addToGroup_of_not_mem {groups : List (String × List String)} {title : String}
    (unknown : title ∉ groups.map (·.1)) (resource : String) :
    addToGroup groups title resource = groups ++ [(title, [resource])] := by
  induction groups with
  | nil => rfl
  | cons group rest ih =>
      rcases group with ⟨first, members⟩
      have apart : title ≠ first := List.ne_of_not_mem_cons unknown
      rw [addToGroup, if_neg apart.symm, ih (List.not_mem_of_not_mem_cons unknown)]
      rfl

private theorem addToGroup_of_mem {groups : List (String × List String)} {title : String}
    (differ : (groups.map (·.1)).Nodup) (known : title ∈ groups.map (·.1)) (resource : String) :
    addToGroup groups title resource = groups.map
      (fun group => (group.1, group.2 ++ if group.1 = title then [resource] else [])) := by
  induction groups with
  | nil => cases known
  | cons group rest ih =>
      rcases group with ⟨first, members⟩
      have parts := List.nodup_cons.mp differ
      rw [addToGroup, List.map_cons]
      by_cases here : first = title
      · have unchanged : ∀ other ∈ rest,
            (other.1, other.2 ++ if other.1 = title then [resource] else []) = other := by
          intro other member
          have apart : other.1 ≠ title := by
            intro same
            exact parts.1 (List.mem_map.mpr ⟨other, member, same.trans here.symm⟩)
          rw [if_neg apart, List.append_nil]
        rw [if_pos here, if_pos here, List.map_congr_left unchanged, List.map_id']
      · have later : title ∈ rest.map (·.1) := by
          rcases List.mem_cons.mp known with same | later
          · exact False.elim (here same.symm)
          · exact later
        rw [if_neg here, if_neg here, List.append_nil, ih parts.2 later]

private theorem membersOf_append (added : List String) (resource title : String) :
    membersOf (added ++ [resource]) title =
      membersOf added title ++ if title = Naming.pascalCase resource then [resource] else [] := by
  unfold membersOf
  rw [List.filter_append, List.filter_cons, List.filter_nil]
  by_cases same : title = Naming.pascalCase resource
  · rw [if_pos same, if_pos (beq_iff_eq.mpr same.symm)]
  · rw [if_neg same, if_neg (fun equal => same (beq_iff_eq.mp equal).symm)]

private theorem Grouped.add_known {added : List String} {groups : List (String × List String)}
    (grouped : Grouped added groups) {resource : String}
    (known : Naming.pascalCase resource ∈ groups.map (·.1)) :
    Grouped (added ++ [resource]) (addToGroup groups (Naming.pascalCase resource) resource) := by
  rw [addToGroup_of_mem grouped.titles_differ known]
  have titles : (groups.map (fun group => (group.1,
      group.2 ++ if group.1 = Naming.pascalCase resource then [resource] else []))).map (·.1) =
        groups.map (·.1) := List.map_map
  refine ⟨titles ▸ grouped.titles_differ, ?_, ?_, ?_⟩
  · intro group member
    rcases List.mem_map.mp member with ⟨old, oldMember, same⟩
    rw [← same, membersOf_append, grouped.members_eq old oldMember]
  · intro group member
    rcases List.mem_map.mp member with ⟨old, oldMember, same⟩
    rw [← same]
    exact List.append_ne_nil_of_left_ne_nil (grouped.not_empty old oldMember) _
  · intro other member
    rw [titles]
    rcases List.mem_append.mp member with before | here
    · exact grouped.covered other before
    · exact List.mem_singleton.mp here ▸ known

private theorem Grouped.add_unknown {added : List String} {groups : List (String × List String)}
    (grouped : Grouped added groups) {resource : String}
    (unknown : Naming.pascalCase resource ∉ groups.map (·.1)) :
    Grouped (added ++ [resource]) (addToGroup groups (Naming.pascalCase resource) resource) := by
  rw [addToGroup_of_not_mem unknown]
  have noneBefore : membersOf added (Naming.pascalCase resource) = [] := by
    apply List.filter_eq_nil_iff.mpr
    intro other member same
    exact unknown (beq_iff_eq.mp same ▸ grouped.covered other member)
  have apart : ∀ group ∈ groups, group.1 ≠ Naming.pascalCase resource := by
    intro group member same
    exact unknown (same ▸ List.mem_map_of_mem member)
  refine ⟨?_, ?_, ?_, ?_⟩
  · rw [List.map_append]
    apply List.nodup_append.mpr
    refine ⟨grouped.titles_differ, List.nodup_singleton _, ?_⟩
    intro title member other isOther same
    have isTitle : title = Naming.pascalCase resource :=
      same.trans (List.mem_singleton.mp isOther)
    exact unknown (isTitle ▸ member)
  · intro group member
    rcases List.mem_append.mp member with old | new
    · rw [membersOf_append, if_neg (apart group old), List.append_nil,
        grouped.members_eq group old]
    · rw [List.mem_singleton.mp new, membersOf_append, noneBefore, if_pos rfl]
      rfl
  · intro group member
    rcases List.mem_append.mp member with old | new
    · exact grouped.not_empty group old
    · rw [List.mem_singleton.mp new]
      exact List.cons_ne_nil _ _
  · intro other member
    rw [List.map_append]
    rcases List.mem_append.mp member with before | here
    · exact List.mem_append_left _ (grouped.covered other before)
    · rw [List.mem_singleton.mp here]
      exact List.mem_append_right _ (List.mem_singleton_self _)

/-- Adding a resource keeps the groups complete, whether its title has a group or not. -/
theorem Grouped.add {added : List String} {groups : List (String × List String)}
    (grouped : Grouped added groups) (resource : String) :
    Grouped (added ++ [resource]) (addToGroup groups (Naming.pascalCase resource) resource) := by
  by_cases known : Naming.pascalCase resource ∈ groups.map (·.1)
  · exact grouped.add_known known
  · exact grouped.add_unknown known

theorem Grouped.addAll {added : List String} {groups : List (String × List String)}
    (grouped : Grouped added groups) (resources : List String) :
    Grouped (added ++ resources) (resources.foldl
      (fun groups resource => addToGroup groups (Naming.pascalCase resource) resource) groups) := by
  induction resources generalizing added groups with
  | nil => exact (List.append_nil added).symm ▸ grouped
  | cons resource rest ih =>
      have later := ih (grouped.add resource)
      rw [List.append_assoc] at later
      exact later

section

variable (resources : List String)

private theorem exists_grouped :
    ∃ groups, group resources = Resource.sortBy (·.1) groups ∧
      Grouped (Resource.sortBy id resources) groups := by
  have empty : Grouped [] [] :=
    ⟨List.nodup_nil, List.forall_mem_nil _, List.forall_mem_nil _, List.forall_mem_nil _⟩
  exact ⟨_, rfl, empty.addAll (Resource.sortBy id resources)⟩

/-- Groups are in the strict order of their titles. -/
theorem group_pairwise_lt : (group resources).Pairwise (fun left right => left.1 < right.1) := by
  rcases exists_grouped resources with ⟨groups, same, grouped⟩
  rw [same]
  exact Resource.sortBy_pairwise_lt _ grouped.titles_differ

/-- The groups are the resources with one title, in order, for every title that a resource has. -/
theorem mem_group_iff {title : String} {members : List String} :
    (title, members) ∈ group resources ↔
      members = membersOf (Resource.sortBy id resources) title ∧ members ≠ [] := by
  rcases exists_grouped resources with ⟨groups, same, grouped⟩
  rw [same, Resource.mem_sortBy]
  constructor
  · intro member
    exact ⟨grouped.members_eq _ member, grouped.not_empty _ member⟩
  · rintro ⟨all, notEmpty⟩
    rcases List.exists_mem_of_ne_nil members notEmpty with ⟨resource, isMember⟩
    rw [all] at isMember
    have parts := List.mem_filter.mp isMember
    have known := grouped.covered resource parts.1
    rw [beq_iff_eq.mp parts.2] at known
    rcases List.mem_map.mp known with ⟨⟨found, foundMembers⟩, member, isTitle⟩
    cases isTitle
    rw [all, ← grouped.members_eq _ member]
    exact member

end

/-- Where resources and titles are in order, the groups are found as the resources are given. -/
theorem group_of_pairwise {resources : List String} {groups : List (String × List String)}
    (resourcesInOrder : resources.Pairwise (fun left right => Resource.textLe left right = true))
    (isGroups : resources.foldl
      (fun groups resource => addToGroup groups (Naming.pascalCase resource) resource) [] = groups)
    (groupsInOrder :
      groups.Pairwise (fun left right => Resource.textLe left.1 right.1 = true)) :
    group resources = groups := by
  have sorted : Resource.sortBy id resources = resources :=
    Resource.sortBy_of_pairwise id resourcesInOrder
  change Resource.sortBy (·.1) ((Resource.sortBy id resources).foldl _ []) = groups
  rw [sorted, isGroups, Resource.sortBy_of_pairwise _ groupsInOrder]

/-- A resource is a member of a group exactly if it is given and has the title of the group. -/
theorem mem_membersOf {resources : List String} {title resource : String} :
    resource ∈ membersOf (Resource.sortBy id resources) title ↔
      resource ∈ resources ∧ Naming.pascalCase resource = title := by
  unfold membersOf
  rw [List.mem_filter, Resource.mem_sortBy, beq_iff_eq]

/-- Every resource has the group of its title. -/
theorem mem_group_of_mem {resources : List String} {resource : String}
    (member : resource ∈ resources) :
    (Naming.pascalCase resource,
      membersOf (Resource.sortBy id resources) (Naming.pascalCase resource)) ∈ group resources := by
  have isMember := mem_membersOf.mpr ⟨member, rfl⟩
  exact (mem_group_iff resources).mpr ⟨rfl, List.ne_nil_of_mem isMember⟩

/-- The members of a group are in the strict order of their names, if no resource is given twice. -/
theorem membersOf_pairwise_lt {resources : List String} (different : resources.Nodup)
    (title : String) :
    (membersOf (Resource.sortBy id resources) title).Pairwise (fun left right => left < right) := by
  have sorted := Resource.sortBy_pairwise_lt id ((List.map_id resources).symm ▸ different)
  exact sorted.sublist List.filter_sublist

theorem membersOf_nodup {resources : List String} (different : resources.Nodup) (title : String) :
    (membersOf (Resource.sortBy id resources) title).Nodup :=
  (membersOf_pairwise_lt different title).imp String.ne_of_lt

/-- The order in which resources are given has no influence on their groups. -/
theorem group_eq_of_perm {resources others : List String} (order : resources.Perm others)
    (different : resources.Nodup) : group resources = group others := by
  have sorted : Resource.sortBy id resources = Resource.sortBy id others :=
    Resource.sortBy_eq_of_perm id order ((List.map_id resources).symm ▸ different)
  exact congrArg (fun sorted => Resource.sortBy (·.1) (sorted.foldl
    (fun groups resource => addToGroup groups (Naming.pascalCase resource) resource) [])) sorted

end Package
end ApiAccessors
