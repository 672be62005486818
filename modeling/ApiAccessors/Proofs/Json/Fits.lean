import ApiAccessors.Json.Reader
import ApiAccessors.Proofs.Document.Shape
import Mathlib.Data.List.Nodup

namespace ApiAccessors

/-!
# Values with a written form

The interchange notation has no marks for most kinds of values, and a program that reads it bounds
how long an integer may be and how many collections may be inside each other.  A value that stays
within all of this fits.  The number that goes with it is the room for collections inside each
other: what is taken out of a collection fits with one less.

Floating-point numbers have marks in the notation, but what is said here leaves them out.
-/

namespace Json

/-- A value has a written form: its mappings have texts for keys, each once, its integers are not
too long, and at most so many collections are inside each other. -/
inductive Fits : Nat → Value → Prop
  | null (room : Nat) : Fits room .null
  | bool (room : Nat) (value : Bool) : Fits room (.bool value)
  | int (room : Nat) {value : Int} (short : (toString value.natAbs).length ≤ Text.digitLimit) :
      Fits room (.int value)
  | text (room : Nat) (value : String) : Fits room (.text value)
  | list {room : Nat} {items : List Value} (fit : ∀ item ∈ items, Fits room item) :
      Fits (room + 1) (.list items)
  | map {room : Nat} {entries : Entries} (texts : ∀ entry ∈ entries, ∃ name, entry.1 = .text name)
      (differ : (entries.map (·.1)).Nodup) (fit : ∀ entry ∈ entries, Fits room entry.2) :
      Fits (room + 1) (.map entries)

namespace Fits

variable {room : Nat} {value : Value}

theorem mono {more : Nat} (enough : room ≤ more) (fits : Fits room value) : Fits more value := by
  induction fits generalizing more with
  | null room => exact .null more
  | bool room value => exact .bool more value
  | int room short => exact .int more short
  | text room value => exact .text more value
  | list fit ih =>
      cases more with
      | zero => omega
      | succ more => exact .list (fun item member => ih item member (Nat.le_of_succ_le_succ enough))
  | map texts differ fit ih =>
      cases more with
      | zero => omega
      | succ more =>
          exact .map texts differ
            (fun entry member => ih entry member (Nat.le_of_succ_le_succ enough))

/-- A mapping from names that differ fits if all its values do. -/
theorem record {fields : List (String × Value)} (differ : (fields.map (·.1)).Nodup)
    (fit : ∀ field ∈ fields, Fits room field.2) : Fits (room + 1) (.record fields) := by
  refine .map ?_ ?_ ?_
  · intro entry member
    rcases List.mem_map.mp member with ⟨field, -, rfl⟩
    exact ⟨field.1, rfl⟩
  · have keys : (fields.map (fun field => (Value.text field.1, field.2))).map (·.1) =
        (fields.map (·.1)).map Value.text := by
      rw [List.map_map, List.map_map]
      rfl
    rw [keys]
    exact List.Nodup.map (fun _ _ => Value.text.inj) differ
  · intro entry member
    rcases List.mem_map.mp member with ⟨field, isField, rfl⟩
    exact fit field isField

/-- No collection that fits contains itself. -/
theorem unfolded_eq (fits : Fits room value) : value.unfolded = value := by
  cases fits <;> rfl

theorem of_entries? {entries : Entries} (fits : Fits (room + 1) value)
    (areEntries : value.entries? = some entries) : ∀ entry ∈ entries, Fits room entry.2 := by
  rw [Value.entries?_eq_some_iff, fits.unfolded_eq] at areEntries
  rw [areEntries] at fits
  cases fits with
  | map texts differ fit => exact fit

theorem get? {entries : Entries} {key found : Value} (fit : ∀ entry ∈ entries, Fits room entry.2)
    (isFound : Entries.get? entries key = some found) : Fits room found := by
  rcases Entries.mem_of_get? isFound with ⟨own, member⟩
  exact fit _ member

theorem member (fits : Fits (room + 1) value) (name : String) :
    Fits room (value.member name) := by
  unfold Value.member
  cases areEntries : value.entries? with
  | none => exact .null room
  | some entries =>
      cases found : Entries.field? entries name with
      | none =>
          simp only [Option.bind_some, found]
          exact .null room
      | some field =>
          simp only [Option.bind_some, found]
          exact get? (fits.of_entries? areEntries) found

theorem empty (room : Nat) : Fits (room + 1) .empty :=
  .map (List.forall_mem_nil _) List.nodup_nil (List.forall_mem_nil _)

theorem orElse {given : Option Value} {other : Value} (fits : ∀ value ∈ given, Fits room value)
    (otherFits : Fits room other) : Fits room (Value.orElse given other) := by
  cases given with
  | none => exact otherFits
  | some value =>
      change Fits room (if value.truthy then value else other)
      split
      · exact fits value rfl
      · exact otherFits

theorem given (fits : Fits (room + 2) value) (name : String) :
    Fits (room + 1) (value.given name) := by
  rw [Value.given_eq_ite]
  split
  · exact fits.member name
  · exact empty room

theorem elements {items : List Value} (fits : Fits (room + 1) value)
    (found : value.elements = .ok items) : ∀ item ∈ items, Fits room item := by
  unfold Value.elements at found
  rw [fits.unfolded_eq] at found
  intro item member
  cases fits with
  | list fit =>
      cases found
      exact fit item member
  | map texts differ fit =>
      cases found
      rcases List.mem_map.mp member with ⟨entry, isEntry, rfl⟩
      rcases texts entry isEntry with ⟨name, isName⟩
      rw [isName]
      exact .text room name
  | text =>
      cases found
      rcases List.mem_map.mp member with ⟨c, -, rfl⟩
      exact .text room _
  | _ => cases found

end Fits
end Json

namespace Value

mutual

/-- Whether there is a floating-point number anywhere in a value. -/
def hasFloat : Value → Bool
  | .float _ => true
  | .list items => itemsHaveFloat items
  | .tuple items => itemsHaveFloat items
  | .set members => itemsHaveFloat members
  | .map entries => entriesHaveFloat entries
  | .cyclic _ body => hasFloat body
  | _ => false

def itemsHaveFloat : List Value → Bool
  | [] => false
  | item :: rest => hasFloat item || itemsHaveFloat rest

/-- Whether there is one in a key or a value. -/
def entriesHaveFloat : List (Value × Value) → Bool
  | [] => false
  | (key, value) :: rest => hasFloat key || hasFloat value || entriesHaveFloat rest

end

theorem hasFloat_of_mem_items {items : List Value} (none : itemsHaveFloat items = false)
    {item : Value} (member : item ∈ items) : item.hasFloat = false := by
  induction items with
  | nil => cases member
  | cons first rest ih =>
      rw [itemsHaveFloat, Bool.or_eq_false_iff] at none
      rcases List.mem_cons.mp member with rfl | later
      · exact none.1
      · exact ih none.2 later

theorem hasFloat_of_mem_entries {entries : Entries} (none : entriesHaveFloat entries = false)
    {entry : Value × Value} (member : entry ∈ entries) : entry.2.hasFloat = false := by
  induction entries with
  | nil => cases member
  | cons first rest ih =>
      rcases first with ⟨key, value⟩
      rw [entriesHaveFloat, Bool.or_eq_false_iff, Bool.or_eq_false_iff] at none
      rcases List.mem_cons.mp member with rfl | later
      · exact none.1.2
      · exact ih none.2 later

end Value
end ApiAccessors
