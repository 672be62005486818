import ApiAccessors.Document.Value
import Mathlib.Data.List.Pairwise

namespace ApiAccessors

/-!
# Mappings without repeated keys

Entries are written down as a list, and a list can hold a key twice.  No reader makes such a
mapping, since a key that is given again changes the entry that is there.  What is said here about
documents therefore supposes that no mapping in them has a key twice, on the outside or anywhere
inside; a collection that contains itself is looked at once.

Only keys that are texts are ever looked up by name.  For them distinct keys mean that an entry is
found exactly if it is there, so that the order of the entries does not matter for what is found.
-/

namespace Entries

/-- No key is there twice. -/
def areDistinct (entries : Entries) : Bool :=
  decide (entries.Pairwise (fun first second => first.1.sameKey second.1 = false))

/-- No text is the key of two entries.  Unlike distinctness in general, this relation between two
entries is symmetric on the face of it. -/
def TextsDiffer (entries : Entries) : Prop :=
  entries.Pairwise (fun first second => ∀ name, first.1 = .text name → second.1 ≠ .text name)

theorem textsDiffer_of_areDistinct {entries : Entries} (distinct : entries.areDistinct = true) :
    TextsDiffer entries := by
  apply (of_decide_eq_true distinct).imp
  intro first second different name isFirst isSecond
  rw [isFirst, isSecond] at different
  simp [Value.sameKey] at different

theorem TextsDiffer.perm {entries other : Entries} (differ : TextsDiffer entries)
    (order : entries.Perm other) : TextsDiffer other := by
  apply (order.pairwise_iff _).mp differ
  intro first second different name isSecond isFirst
  exact different name isFirst isSecond

theorem mem_of_get? {entries : Entries} {sought value : Value}
    (found : get? entries sought = some value) : ∃ key, (key, value) ∈ entries := by
  induction entries with
  | nil => cases found
  | cons entry rest ih =>
      rcases entry with ⟨key, here⟩
      rw [get?] at found
      split at found
      · cases found
        exact ⟨key, List.mem_cons_self⟩
      · rcases ih found with ⟨other, member⟩
        exact ⟨other, List.mem_cons_of_mem _ member⟩

/-- Where no text is a key twice, looking up a text finds the entry that is there. -/
theorem TextsDiffer.field?_eq_some_iff {entries : Entries} (differ : TextsDiffer entries)
    {name : String} {value : Value} :
    field? entries name = some value ↔ (.text name, value) ∈ entries := by
  unfold field?
  induction entries with
  | nil => simp [get?]
  | cons entry rest ih =>
      rcases entry with ⟨key, here⟩
      have parts := List.pairwise_cons.mp differ
      rw [get?]
      by_cases same : key = .text name
      · rw [if_pos (sameKey_text_iff.mpr same), same]
        constructor
        · intro found
          cases found
          exact List.mem_cons_self
        · intro member
          rcases List.mem_cons.mp member with equal | later
          · cases equal
            rfl
          · exact False.elim (parts.1 _ later name same rfl)
      · rw [if_neg (fun found => same (sameKey_text_iff.mp found)), ih parts.2]
        constructor
        · exact List.mem_cons_of_mem _
        · intro member
          rcases List.mem_cons.mp member with equal | later
          · cases equal
            exact False.elim (same rfl)
          · exact later

/-- The order of entries has no influence on what is found under a text. -/
theorem TextsDiffer.field?_perm {entries other : Entries} (differ : TextsDiffer entries)
    (order : entries.Perm other) (name : String) : field? entries name = field? other name := by
  apply Option.ext
  intro value
  rw [differ.field?_eq_some_iff, (differ.perm order).field?_eq_some_iff]
  exact order.mem_iff

theorem insert_of_not_mem {entries : Entries} {name : String}
    (new : .text name ∉ entries.map (·.1)) (value : Value) :
    insert entries (.text name) value = entries ++ [(.text name, value)] := by
  induction entries with
  | nil => rfl
  | cons entry rest ih =>
      rcases entry with ⟨key, old⟩
      have apart : ¬key.sameKey (.text name) = true := by
        intro same
        exact List.ne_of_not_mem_cons new (sameKey_text_iff.mp same).symm
      rw [insert, if_neg apart, ih (List.not_mem_of_not_mem_cons new)]
      rfl

theorem insert_of_mem {entries : Entries} {name : String}
    (known : .text name ∈ entries.map (·.1)) (value : Value) :
    ∃ before old behind, entries = before ++ (.text name, old) :: behind ∧
      insert entries (.text name) value = before ++ (.text name, value) :: behind := by
  induction entries with
  | nil => cases known
  | cons entry rest ih =>
      rcases entry with ⟨key, old⟩
      by_cases same : key = .text name
      · rw [same, insert, if_pos (sameKey_text_iff.mpr rfl)]
        exact ⟨[], old, rest, rfl, rfl⟩
      · have later := (List.mem_cons.mp known).resolve_left (Ne.symm same)
        rcases ih later with ⟨before, other, behind, isRest, inserted⟩
        rw [insert, if_neg (fun found => same (sameKey_text_iff.mp found)), inserted, isRest]
        exact ⟨(key, old) :: before, other, behind, rfl, rfl⟩

end Entries

namespace Value

mutual

def hasDistinctKeys : Value → Bool
  | .list items => itemsHaveDistinctKeys items
  | .tuple items => itemsHaveDistinctKeys items
  | .map entries => Entries.areDistinct entries && entriesHaveDistinctKeys entries
  | .cyclic _ body => hasDistinctKeys body
  | _ => true

def itemsHaveDistinctKeys : List Value → Bool
  | [] => true
  | item :: rest => hasDistinctKeys item && itemsHaveDistinctKeys rest

def entriesHaveDistinctKeys : List (Value × Value) → Bool
  | [] => true
  | (_, value) :: rest => hasDistinctKeys value && entriesHaveDistinctKeys rest

end

theorem hasDistinctKeys_of_mem {entries : Entries}
    (distinct : entriesHaveDistinctKeys entries = true) {key value : Value}
    (member : (key, value) ∈ entries) : value.hasDistinctKeys = true := by
  induction entries with
  | nil => cases member
  | cons entry rest ih =>
      rcases entry with ⟨first, here⟩
      rw [entriesHaveDistinctKeys, Bool.and_eq_true_iff] at distinct
      rcases List.mem_cons.mp member with equal | later
      · cases equal
        exact distinct.1
      · exact ih distinct.2 later

private theorem putBackEntries_pairwise (number : Nat) (whole : Value) {entries : Entries}
    (relation : Value → Value → Prop)
    (apart : entries.Pairwise (fun first second => relation first.1 second.1)) :
    (putBackEntries number whole entries).Pairwise
      (fun first second => relation first.1 second.1) := by
  have keys : ∀ entries : Entries,
      (putBackEntries number whole entries).map (·.1) = entries.map (·.1) := by
    intro entries
    induction entries with
    | nil => rfl
    | cons entry rest ih => simp only [putBackEntries, List.map_cons, ih]
  have keysApart := List.pairwise_map.mpr apart
  rw [← keys] at keysApart
  exact List.pairwise_map.mp keysApart

mutual

private theorem putBack_hasDistinctKeys (number : Nat) {whole : Value}
    (wholeDistinct : whole.hasDistinctKeys = true) :
    (value : Value) → value.hasDistinctKeys = true →
      (putBack number whole value).hasDistinctKeys = true
  | .again other, _ => by
      rw [putBack]
      split
      · exact wholeDistinct
      · rfl
  | .list items, distinct => by
      rw [putBack, hasDistinctKeys]
      exact putBackItems_hasDistinctKeys number wholeDistinct items distinct
  | .tuple items, distinct => by
      rw [putBack, hasDistinctKeys]
      exact putBackItems_hasDistinctKeys number wholeDistinct items distinct
  | .map entries, distinct => by
      rw [hasDistinctKeys, Bool.and_eq_true_iff] at distinct
      rw [putBack, hasDistinctKeys, Bool.and_eq_true_iff]
      constructor
      · exact decide_eq_true (putBackEntries_pairwise number whole
          (fun first second => first.sameKey second = false) (of_decide_eq_true distinct.1))
      · exact putBackEntries_hasDistinctKeys number wholeDistinct entries distinct.2
  | .cyclic other body, distinct => by
      rw [putBack]
      split
      · exact distinct
      · exact putBack_hasDistinctKeys number wholeDistinct body distinct
  | .null, _ => rfl
  | .bool _, _ => rfl
  | .int _, _ => rfl
  | .float _, _ => rfl
  | .text _, _ => rfl
  | .bytes _, _ => rfl
  | .date _, _ => rfl
  | .moment _, _ => rfl
  | .set _, _ => rfl

private theorem putBackItems_hasDistinctKeys (number : Nat) {whole : Value}
    (wholeDistinct : whole.hasDistinctKeys = true) :
    (items : List Value) → itemsHaveDistinctKeys items = true →
      itemsHaveDistinctKeys (putBackItems number whole items) = true
  | [], _ => rfl
  | item :: rest, distinct => by
      rw [itemsHaveDistinctKeys, Bool.and_eq_true_iff] at distinct
      rw [putBackItems, itemsHaveDistinctKeys, Bool.and_eq_true_iff]
      exact ⟨putBack_hasDistinctKeys number wholeDistinct item distinct.1,
        putBackItems_hasDistinctKeys number wholeDistinct rest distinct.2⟩

private theorem putBackEntries_hasDistinctKeys (number : Nat) {whole : Value}
    (wholeDistinct : whole.hasDistinctKeys = true) :
    (entries : List (Value × Value)) → entriesHaveDistinctKeys entries = true →
      entriesHaveDistinctKeys (putBackEntries number whole entries) = true
  | [], _ => rfl
  | (_, value) :: rest, distinct => by
      rw [entriesHaveDistinctKeys, Bool.and_eq_true_iff] at distinct
      rw [putBackEntries, entriesHaveDistinctKeys, Bool.and_eq_true_iff]
      exact ⟨putBack_hasDistinctKeys number wholeDistinct value distinct.1,
        putBackEntries_hasDistinctKeys number wholeDistinct rest distinct.2⟩

end

theorem unfolded_hasDistinctKeys {value : Value} (distinct : value.hasDistinctKeys = true) :
    value.unfolded.hasDistinctKeys = true := by
  cases value with
  | cyclic number body => exact putBack_hasDistinctKeys number distinct body distinct
  | _ => exact distinct

theorem entries?_eq_some_iff {value : Value} {entries : Entries} :
    value.entries? = some entries ↔ value.unfolded = .map entries := by
  unfold entries?
  cases value.unfolded <;> simp

/-- A mapping without repeated keys has none in its values either. -/
theorem distinct_of_entries? {value : Value} {entries : Entries}
    (distinct : value.hasDistinctKeys = true) (isMapping : value.entries? = some entries) :
    entries.areDistinct = true ∧ entriesHaveDistinctKeys entries = true := by
  have unfoldedDistinct := unfolded_hasDistinctKeys distinct
  rw [entries?_eq_some_iff.mp isMapping, hasDistinctKeys] at unfoldedDistinct
  exact Bool.and_eq_true_iff.mp unfoldedDistinct

theorem fieldOrEmpty_hasDistinctKeys {value field : Value} {name : String}
    (distinct : value.hasDistinctKeys = true) (found : value.fieldOrEmpty name = .ok field) :
    field.hasDistinctKeys = true := by
  unfold fieldOrEmpty field? at found
  cases isMapping : value.entries? with
  | none =>
      rw [isMapping] at found
      cases found
  | some entries =>
      rw [isMapping] at found
      cases found
      cases held : Entries.field? entries name with
      | none => rfl
      | some given =>
          rcases Entries.mem_of_get? held with ⟨key, member⟩
          change (if given.truthy then given else .empty).hasDistinctKeys = true
          split
          · exact hasDistinctKeys_of_mem (distinct_of_entries? distinct isMapping).2 member
          · rfl

end Value
end ApiAccessors
