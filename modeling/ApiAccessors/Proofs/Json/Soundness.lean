import ApiAccessors.Json.Writer
import ApiAccessors.Proofs.Json.Fits
import ApiAccessors.Proofs.Json.Integers
import ApiAccessors.Proofs.Json.Refused
import Mathlib.Data.Nat.Digits.Defs

namespace ApiAccessors
namespace Json

/-!
# What is read has a written form

The reader keeps to the same bounds as the writer.  It counts the collections around the place where
it is, refuses integers with too many digits, and gives a key that comes again its new value instead
of a second place.  So whatever it makes fits, as long as no floating-point number is in it, and
what fits into a collection is what was read inside of it.
-/

/-- A value fits, unless there is a floating-point number in it. -/
def FitsBarFloats (room : Nat) (value : Value) : Prop :=
  value.hasFloat = false → Fits room value

section

variable {room : Nat}

theorem fitsBarFloats_list {items : List Value} (fit : ∀ item ∈ items, FitsBarFloats room item) :
    FitsBarFloats (room + 1) (.list items) := by
  intro none
  rw [Value.hasFloat] at none
  exact .list (fun item member => fit item member (Value.hasFloat_of_mem_items none member))

/-- Entries that a mapping can be made of. -/
structure IsRecord (room : Nat) (entries : Entries) : Prop where
  texts : ∀ entry ∈ entries, ∃ name, entry.1 = .text name
  differ : (entries.map (·.1)).Nodup
  fit : ∀ entry ∈ entries, FitsBarFloats room entry.2

namespace IsRecord

variable {entries : Entries}

theorem nil (room : Nat) : IsRecord room [] :=
  ⟨List.forall_mem_nil _, List.nodup_nil, List.forall_mem_nil _⟩

theorem fitsBarFloats (isRecord : IsRecord room entries) :
    FitsBarFloats (room + 1) (.map entries) := by
  intro none
  rw [Value.hasFloat] at none
  exact .map isRecord.texts isRecord.differ
    (fun entry member => isRecord.fit entry member (Value.hasFloat_of_mem_entries none member))

end IsRecord

/-- A key that comes again keeps its place. -/
theorem IsRecord.insert {entries : Entries} (isRecord : IsRecord room entries) (name : String)
    {value : Value} (fits : FitsBarFloats room value) :
    IsRecord room (Entries.insert entries (.text name) value) := by
  by_cases known : Value.text name ∈ entries.map (·.1)
  · rcases Entries.insert_of_mem known value with ⟨before, old, behind, rfl, inserted⟩
    have texts := List.forall_mem_append.mp isRecord.texts
    have fit := List.forall_mem_append.mp isRecord.fit
    have differ := isRecord.differ
    rw [List.map_append, List.map_cons] at differ
    rw [inserted]
    refine ⟨List.forall_mem_append.mpr ⟨texts.1, List.forall_mem_cons.mpr
      ⟨⟨name, rfl⟩, (List.forall_mem_cons.mp texts.2).2⟩⟩, ?_, List.forall_mem_append.mpr
      ⟨fit.1, List.forall_mem_cons.mpr ⟨fits, (List.forall_mem_cons.mp fit.2).2⟩⟩⟩
    rw [List.map_append, List.map_cons]
    exact differ
  · rw [Entries.insert_of_not_mem known]
    refine ⟨List.forall_mem_append.mpr ⟨isRecord.texts, List.forall_mem_singleton.mpr ⟨name, rfl⟩⟩,
      ?_, List.forall_mem_append.mpr ⟨isRecord.fit, List.forall_mem_singleton.mpr fits⟩⟩
    rw [List.map_append, List.map_singleton, List.nodup_append]
    refine ⟨isRecord.differ, List.nodup_singleton _, ?_⟩
    intro key isKey other isOther same
    rw [same, List.mem_singleton.mp isOther] at isKey
    exact known isKey

end

/-! ## Numbers -/

theorem digitsValue_lt (digits : List Char)
    (areDigits : ∀ c ∈ digits, Text.isAsciiDigit c = true) :
    digitsValue digits < 10 ^ digits.length := by
  have begun : ∀ (digits : List Char) (number : Nat),
      (∀ c ∈ digits, Text.isAsciiDigit c = true) →
      digits.foldl (fun number c => number * 10 + (c.toNat - '0'.toNat)) number <
        (number + 1) * 10 ^ digits.length := by
    intro digits
    induction digits with
    | nil =>
        intro number _
        simp
    | cons c rest ih =>
        intro number areDigits
        have isDigit := areDigits c List.mem_cons_self
        simp only [Text.isAsciiDigit, Bool.and_eq_true, decide_eq_true_eq] at isDigit
        have small : c.toNat - '0'.toNat < 10 := by
          have nine : '9'.toNat = '0'.toNat + 9 := rfl
          omega
        have later := ih (number * 10 + (c.toNat - '0'.toNat))
          (fun other member => areDigits other (List.mem_cons_of_mem _ member))
        refine Nat.lt_of_lt_of_le later ?_
        rw [List.length_cons, Nat.pow_succ, Nat.mul_comm (10 ^ rest.length), ← Nat.mul_assoc]
        exact Nat.mul_le_mul_right _ (by omega)
  have whole := begun digits 0 areDigits
  rwa [Nat.zero_add, Nat.one_mul] at whole

section

variable {limit room depth count : Nat} {text rest : List Char} {value : Value}

theorem readWhole_ne_nil {whole : List Char} (read : readWhole text = some (whole, rest)) :
    whole ≠ [] := by
  unfold readWhole at read
  split at read
  · cases read
    exact List.cons_ne_nil _ _
  · simp only at read
    split at read
    · cases read
    · rename_i notEmpty
      cases read
      simpa using notEmpty

/-- An integer is at most as long as the digits that it was read from. -/
theorem fitsBarFloats_readNumber (read : readNumber text = .ok (value, rest)) :
    FitsBarFloats room value := by
  unfold readNumber at read
  split at read
  rename_i negative unsigned isUnsigned
  split at read
  · cases read
  · rename_i whole behind isWhole
    simp only at read
    split at read
    · split at read
      · cases read
      · rename_i notLong
        cases read
        intro _
        refine .int room ?_
        have areDigits := (readWhole_spec isWhole).2
        have some := List.length_pos_iff.mpr (readWhole_ne_nil isWhole)
        have bound := Nat.repr_length _ _ some (digitsValue_lt whole areDigits)
        have isSize : (if negative then -(digitsValue whole : Int) else digitsValue whole).natAbs =
            digitsValue whole := by
          cases negative
          · exact Int.natAbs_natCast _
          · rw [if_pos rfl, Int.natAbs_neg, Int.natAbs_natCast]
        rw [isSize]
        exact bound.trans (Nat.not_lt.mp notLong)
    · cases read
      intro none
      cases none

theorem fitsBarFloats_readWord (read : readWord text = some (value, rest)) :
    FitsBarFloats room value := by
  unfold readWord at read
  split at read
  · rename_i word found isWord
    cases read
    have member := List.mem_of_find?_eq_some isWord
    simp only [words, List.mem_cons, Prod.mk.injEq, List.not_mem_nil, or_false] at member
    rcases member with ⟨-, rfl⟩ | ⟨-, rfl⟩ | ⟨-, rfl⟩ | ⟨-, rfl⟩ | ⟨-, rfl⟩ | ⟨-, rfl⟩
    · exact fun _ => .null room
    · exact fun _ => .bool room true
    · exact fun _ => .bool room false
    all_goals
      intro none
      cases none
  · cases read

/-! ## Values -/

/-- What is read of values, members and items, of which so many may still be begun, fits where it
is. -/
structure MakesFitting (limit count : Nat) : Prop where
  value : ∀ depth room text value rest, depth + room = limit →
    readValue limit depth count text = .ok (value, rest) → FitsBarFloats room value
  members : ∀ depth room entries text value rest, depth + room = limit →
    IsRecord room entries → readMembers limit depth count entries text = .ok (value, rest) →
    FitsBarFloats (room + 1) value
  items : ∀ depth room items text value rest, depth + room = limit →
    (∀ item ∈ items, FitsBarFloats room item) →
    readItems limit depth count items text = .ok (value, rest) → FitsBarFloats (room + 1) value

namespace MakesFitting

variable (fitting : MakesFitting limit count)

include fitting

theorem value_succ (deep : depth + room = limit)
    (read : readValue limit depth (count + 1) text = .ok (value, rest)) :
    FitsBarFloats room value := by
  unfold readValue at read
  split at read
  · split at read
    · cases read
      exact fun _ => .text room _
    · cases read
  · split at read
    · cases read
    · rename_i shallow
      -- The reader did not stop at the limit, so there is room for one more collection.
      cases room with
      | zero => omega
      | succ room =>
          split at read
          · cases read
            exact (IsRecord.nil room).fitsBarFloats
          · exact fitting.members (depth + 1) room [] _ _ _ (by omega) (IsRecord.nil room) read
  · split at read
    · cases read
    · rename_i shallow
      cases room with
      | zero => omega
      | succ room =>
          split at read
          · cases read
            exact fitsBarFloats_list (List.forall_mem_nil _)
          · exact fitting.items (depth + 1) room [] _ _ _ (by omega) (List.forall_mem_nil _) read
  · split at read
    · rename_i isWord
      cases read
      exact fitsBarFloats_readWord isWord
    · exact fitsBarFloats_readNumber read

theorem items_succ {items : List Value} (deep : depth + room = limit)
    (fit : ∀ item ∈ items, FitsBarFloats room item)
    (read : readItems limit depth (count + 1) items text = .ok (value, rest)) :
    FitsBarFloats (room + 1) value := by
  unfold readItems at read
  split at read
  · cases read
  · rename_i item behind isItem
    have itemFits := fitting.value _ _ _ _ _ deep isItem
    have allFit : ∀ other ∈ item :: items, FitsBarFloats room other :=
      List.forall_mem_cons.mpr ⟨itemFits, fit⟩
    split at read
    · cases read
      exact fitsBarFloats_list (fun other member => allFit other (List.mem_reverse.mp member))
    · exact fitting.items _ _ _ _ _ _ deep allFit read
    · cases read

theorem members_succ {entries : Entries} (deep : depth + room = limit)
    (isRecord : IsRecord room entries)
    (read : readMembers limit depth (count + 1) entries text = .ok (value, rest)) :
    FitsBarFloats (room + 1) value := by
  unfold readMembers at read
  split at read
  · split at read
    · cases read
    rename_i key behindKey isKey
    split at read
    · split at read
      · cases read
      rename_i item behind isItem
      have longer := isRecord.insert (String.ofList key) (fitting.value _ _ _ _ _ deep isItem)
      simp only at read
      split at read
      · cases read
        exact longer.fitsBarFloats
      · exact fitting.members _ _ _ _ _ _ deep longer read
      · cases read
    · cases read
  · cases read

end MakesFitting

theorem makesFitting (limit count : Nat) : MakesFitting limit count := by
  induction count with
  | zero =>
      -- Without fuel nothing is read.
      refine ⟨?_, ?_, ?_⟩
      · intro depth room text value rest _ read
        cases read
      · intro depth room entries text value rest _ _ read
        cases read
      · intro depth room items text value rest _ _ read
        cases read
  | succ count ih =>
      exact ⟨fun _ _ _ _ _ => ih.value_succ, fun _ _ _ _ _ _ => ih.members_succ,
        fun _ _ _ _ _ _ => ih.items_succ⟩

/-- Whatever is read from a whole text fits, if there is no floating-point number in it. -/
theorem fits_of_read (isRead : read limit text = .ok value) (none : value.hasFloat = false) :
    Fits limit value := by
  unfold read at isRead
  split at isRead
  · cases isRead
  split at isRead
  · cases isRead
  · rename_i found behind isValue
    split at isRead
    · cases isRead
      exact (makesFitting limit _).value 0 limit _ _ _ (Nat.zero_add _) isValue none
    · cases isRead

end

/-! ## Values that no text stands for -/

/-- An integer that fits is smaller than the first one with too many digits. -/
theorem Fits.natAbs_lt {room : Nat} {value : Int} (fits : Fits room (.int value)) :
    value.natAbs < 10 ^ Text.digitLimit := by
  cases fits with
  | int _ short =>
      have bound := digitsValue_lt (Nat.toDigits 10 value.natAbs)
        (fun c member => isAsciiDigit_of_mem_toDigits member)
      have digits : (toString value.natAbs).toList = Nat.toDigits 10 value.natAbs := Nat.toList_repr
      rw [digitsValue_toDigits, ← digits, String.length_toList] at bound
      exact bound.trans_le (Nat.pow_le_pow_right (by decide) short)

/-- The first integer with too many digits does not fit. -/
theorem not_fits_pow (room : Nat) : ¬Fits room (.int (10 ^ Text.digitLimit)) := by
  have size : ∀ digits : Nat, ((10 : Int) ^ digits).natAbs = 10 ^ digits := by
    intro digits
    rw [Int.natAbs_pow]
    rfl
  exact fun fits => Nat.not_lt.mpr (size Text.digitLimit).ge fits.natAbs_lt

/-! ## What is written -/

section

variable {writing depth : Nat} {style : Style} {around : List Nat}

/-- Where a row is written, each of its items is. -/
theorem exists_writeValue_of_writeItems {items : List Value} {text : List Char}
    (wrote : writeItems writing style around depth items = .ok text) :
    ∀ item ∈ items, ∃ part, writeValue writing style around (depth + 1) item = .ok part := by
  induction items generalizing text with
  | nil => exact List.forall_mem_nil _
  | cons item rest ih =>
      rw [writeItems] at wrote
      split at wrote
      · rename_i head tail isHead isTail
        exact List.forall_mem_cons.mpr ⟨⟨head, isHead⟩, ih isTail⟩
      · cases wrote
      · cases wrote

theorem exists_writeValue_of_writeMembers {entries : Entries} {text : List Char}
    (wrote : writeMembers writing style around depth entries = .ok text) :
    ∀ entry ∈ entries, ∃ part,
      writeValue writing style around (depth + 1) entry.2 = .ok part := by
  induction entries generalizing text with
  | nil => exact List.forall_mem_nil _
  | cons entry rest ih =>
      rcases entry with ⟨key, value⟩
      rw [writeMembers] at wrote
      split at wrote
      · rename_i name head tail isName isHead isTail
        exact List.forall_mem_cons.mpr ⟨⟨head, isHead⟩, ih isTail⟩
      all_goals cases wrote

theorem exists_writeValue_of_list {items : List Value} {text : List Char}
    (wrote : writeValue writing style around depth (.list items) = .ok text) :
    depth < writing ∧ ∀ item ∈ items, ∃ part,
      writeValue writing style around (depth + 1) item = .ok part := by
  rw [writeValue] at wrote
  cases items with
  | nil =>
      rw [writeRow] at wrote
      split at wrote
      · cases wrote
      · exact ⟨by omega, List.forall_mem_nil _⟩
  | cons first rest =>
      rw [writeRow] at wrote
      split at wrote
      · cases wrote
      · split at wrote
        · rename_i head tail isHead isTail
          exact ⟨by omega, List.forall_mem_cons.mpr
            ⟨⟨head, isHead⟩, exists_writeValue_of_writeItems isTail⟩⟩
        all_goals cases wrote

theorem exists_writeValue_of_map {entries : Entries} {text : List Char}
    (wrote : writeValue writing style around depth (.map entries) = .ok text) :
    depth < writing ∧ ∀ entry ∈ entries, ∃ part,
      writeValue writing style around (depth + 1) entry.2 = .ok part := by
  cases entries with
  | nil =>
      rw [writeValue] at wrote
      split at wrote
      · cases wrote
      · exact ⟨by omega, List.forall_mem_nil _⟩
  | cons entry rest =>
      rcases entry with ⟨key, value⟩
      rw [writeValue] at wrote
      split at wrote
      · cases wrote
      · split at wrote
        · rename_i name head tail isName isHead isTail
          exact ⟨by omega, List.forall_mem_cons.mpr
            ⟨⟨head, isHead⟩, exists_writeValue_of_writeMembers isTail⟩⟩
        all_goals cases wrote

/-- What is written had room, so it fits there if it fits anywhere. -/
theorem Fits.of_writeValue {room : Nat} {value : Value} (fits : Fits room value)
    {text : List Char} (wrote : writeValue writing style around depth value = .ok text) :
    Fits (writing - depth) value := by
  have inside : depth < writing → writing - depth = writing - (depth + 1) + 1 := by omega
  induction fits generalizing depth text with
  | null room => exact .null _
  | bool room value => exact .bool _ value
  | int room short => exact .int _ short
  | text room value => exact .text _ value
  | list fit ih =>
      rcases exists_writeValue_of_list wrote with ⟨deep, written⟩
      rw [inside deep]
      refine .list (fun item member => ?_)
      rcases written item member with ⟨part, isPart⟩
      exact ih item member isPart (by omega)
  | map texts differ fit ih =>
      rcases exists_writeValue_of_map wrote with ⟨deep, written⟩
      rw [inside deep]
      refine .map texts differ (fun entry member => ?_)
      rcases written entry member with ⟨part, isPart⟩
      exact ih entry member isPart (by omega)

theorem Fits.of_write {room : Nat} {value : Value} (fits : Fits room value) {text : String}
    (wrote : write writing style value = .ok text) : Fits writing value := by
  unfold write at wrote
  cases isWritten : writeValue writing style [] 0 value with
  | error fault =>
      rw [isWritten] at wrote
      cases wrote
  | ok written => exact fits.of_writeValue isWritten

end

/-- An integer that does not fit is not written. -/
theorem write_int_of_not_fits {room : Nat} {value : Int} (tooLong : ¬Fits room (.int value))
    (limit : Nat) (style : Style) : write limit style (.int value) = .error .badValue := by
  have long : Value.isLongInteger value = true :=
    decide_eq_true (Nat.lt_of_not_le (fun short => tooLong (.int room short)))
  have refused : scalarText (.int value) = .error .badValue := if_pos long
  unfold write
  rw [writeValue, refused]
  · rfl
  all_goals
    intros
    contradiction

/-- An empty list inside so many others. -/
def nested : Nat → Value
  | 0 => .list []
  | depth + 1 => .list [nested depth]

theorem Fits.lt_of_nested {room depth : Nat} (fits : Fits room (nested depth)) : depth < room := by
  induction depth generalizing room with
  | zero =>
      cases fits with
      | list fit => exact Nat.zero_lt_succ _
  | succ depth ih =>
      cases fits with
      | list fit => exact Nat.succ_lt_succ (ih (fit _ List.mem_cons_self))

/-- Lists that are too many inside each other are not written. -/
theorem write_nested {limit depth : Nat} (deep : limit ≤ depth) (style : Style) :
    write limit style (nested depth) = .error .tooDeep := by
  have refused : ∀ (depth around : Nat), limit ≤ around + depth →
      writeValue limit style [] around (nested depth) = .error .tooDeep := by
    intro depth
    induction depth with
    | zero =>
        intro around deep
        rw [nested, writeValue, writeRow]
        exact if_pos deep
    | succ depth ih =>
        intro around deep
        rw [nested, writeValue, writeRow]
        split
        · rfl
        · rw [ih (around + 1) (by omega)]
  unfold write
  rw [refused depth 0 (by omega)]
  rfl

theorem hasFloat_nested (depth : Nat) : (nested depth).hasFloat = false := by
  induction depth with
  | zero => rfl
  | succ depth ih =>
      rw [nested, Value.hasFloat, Value.itemsHaveFloat, ih]
      rfl

end Json
end ApiAccessors
