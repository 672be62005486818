namespace ApiAccessors
namespace Table

/-!
# Tables

A table gives values to keys and keeps the order in which the keys came.  A key that is given
another value stays in its place, so that the keys of a table differ if it was made from nothing.
-/

variable {κ α : Type} [DecidableEq κ] {key other : κ} {value found : α} {table : List (κ × α)}

def put (key : κ) (value : α) : List (κ × α) → List (κ × α)
  | [] => [(key, value)]
  | (first, old) :: rest =>
      if first = key then (key, value) :: rest else (first, old) :: put key value rest

theorem put_cons (first : κ) (old : α) (rest : List (κ × α)) :
    put key value ((first, old) :: rest) =
      if first = key then (key, value) :: rest else (first, old) :: put key value rest := rfl

/-- A value is found under the key that it was given to, and all other keys keep theirs. -/
theorem lookup_put [BEq κ] [LawfulBEq κ] (key other : κ) (value : α) (table : List (κ × α)) :
    (put key value table).lookup other =
      if other = key then some value else table.lookup other := by
  induction table with
  | nil =>
      by_cases same : other = key
      · simp [put, same]
      · have unequal : (other == key) = false := by simpa using same
        simp [put, List.lookup_cons, same, unequal]
  | cons entry rest ih =>
      obtain ⟨first, old⟩ := entry
      rw [put_cons]
      by_cases here : first = key
      · subst here
        by_cases same : other = first
        · simp [same]
        · have unequal : (other == first) = false := by simpa using same
          simp [List.lookup_cons, same, unequal]
      · by_cases isFirst : other = first
        · subst isFirst
          simp [here]
        · have unequal : (other == first) = false := by simpa using isFirst
          simp [here, List.lookup_cons, unequal, ih]

theorem put_of_not_mem (unknown : key ∉ table.map (·.1)) :
    put key value table = table ++ [(key, value)] := by
  induction table with
  | nil => rfl
  | cons entry rest ih =>
      obtain ⟨first, old⟩ := entry
      have apart := List.ne_of_not_mem_cons unknown
      rw [put_cons, if_neg apart.symm, ih (List.not_mem_of_not_mem_cons unknown)]
      rfl

theorem put_eq_self [BEq κ] [LawfulBEq κ] (held : table.lookup key = some value) :
    put key value table = table := by
  induction table with
  | nil => cases held
  | cons entry rest ih =>
      obtain ⟨first, old⟩ := entry
      rw [List.lookup_cons] at held
      by_cases here : key = first
      · rw [beq_iff_eq.mpr here] at held
        cases held
        rw [put_cons, if_pos here.symm, here]
      · rw [beq_eq_false_iff_ne.mpr here] at held
        rw [put_cons, if_neg (Ne.symm here), ih held]

/-- What a table holds was put into it last, or it held it before. -/
theorem eq_or_mem_of_mem_put (member : (other, found) ∈ put key value table) :
    (other = key ∧ found = value) ∨ (other, found) ∈ table := by
  induction table with
  | nil =>
      cases List.mem_singleton.mp member
      exact Or.inl ⟨rfl, rfl⟩
  | cons entry rest ih =>
      obtain ⟨first, old⟩ := entry
      rw [put_cons] at member
      split at member
      · rcases List.mem_cons.mp member with here | later
        · cases here
          exact Or.inl ⟨rfl, rfl⟩
        · exact Or.inr (List.mem_cons_of_mem _ later)
      · rcases List.mem_cons.mp member with here | later
        · exact Or.inr (here ▸ List.mem_cons_self)
        · exact (ih later).imp_right (List.mem_cons_of_mem _)

theorem mem_keys_put :
    other ∈ (put key value table).map (·.1) ↔ other = key ∨ other ∈ table.map (·.1) := by
  induction table with
  | nil => simp [put]
  | cons entry rest ih =>
      obtain ⟨first, old⟩ := entry
      rw [put_cons]
      by_cases same : first = key
      · rw [if_pos same]
        simp [same]
      · rw [if_neg same, List.map_cons, List.mem_cons, ih, List.map_cons, List.mem_cons]
        exact or_left_comm

theorem nodup_keys_put (distinct : (table.map (·.1)).Nodup) :
    ((put key value table).map (·.1)).Nodup := by
  induction table with
  | nil => simp [put]
  | cons entry rest ih =>
      obtain ⟨first, old⟩ := entry
      rcases List.nodup_cons.mp distinct with ⟨apart, later⟩
      rw [put_cons]
      by_cases same : first = key
      · have elsewhere : key ∉ rest.map (·.1) := same ▸ apart
        rw [if_pos same]
        exact List.nodup_cons.mpr ⟨elsewhere, later⟩
      · rw [if_neg same]
        refine List.nodup_cons.mpr ⟨fun member => ?_, ih later⟩
        exact (mem_keys_put.mp member).elim same apart

/-- In a table with different keys a value that is put in takes the place of the one before. -/
theorem mem_put {entry : κ × α} (distinct : (table.map (·.1)).Nodup) :
    entry ∈ put key value table ↔ entry = (key, value) ∨ entry ∈ table ∧ entry.1 ≠ key := by
  induction table with
  | nil => simp [put]
  | cons here rest ih =>
      obtain ⟨first, old⟩ := here
      rcases List.nodup_cons.mp distinct with ⟨apart, later⟩
      rw [put_cons]
      by_cases same : first = key
      · rw [if_pos same, List.mem_cons, List.mem_cons]
        have elsewhere : entry ∈ rest → entry.1 ≠ key := by
          intro member isKey
          have notHere : entry.1 ∉ rest.map (·.1) := isKey.trans same.symm ▸ apart
          exact notHere (List.mem_map_of_mem member)
        constructor
        · exact Or.imp_right fun member => ⟨Or.inr member, elsewhere member⟩
        · rintro (isNew | ⟨rfl | member, different⟩)
          · exact Or.inl isNew
          · exact absurd same different
          · exact Or.inr member
      · rw [if_neg same, List.mem_cons, ih later, List.mem_cons]
        constructor
        · rintro (rfl | isNew | ⟨member, different⟩)
          · exact Or.inr ⟨Or.inl rfl, same⟩
          · exact Or.inl isNew
          · exact Or.inr ⟨Or.inr member, different⟩
        · rintro (isNew | ⟨isHere | member, different⟩)
          · exact Or.inr (Or.inl isNew)
          · exact Or.inl isHere
          · exact Or.inr (Or.inr ⟨member, different⟩)

end Table
end ApiAccessors
