import ApiAccessors.Http.Query
import ApiAccessors.Proofs.Json.Integers
import ApiAccessors.Proofs.Outcome

namespace ApiAccessors
namespace Query

/-!
# What a query mentions and what it sends

A flat query mentions scalars and nulls at two levels, under a key and in the list of a key.  Every
scalar is sent as one pair, in the order of the mentions, and a null under a key is not sent.  A
null in a list is sent, though, and as the text of a null.  No other scalar has this text, apart
from the text itself, so a query sends just what it gives exactly if no list in it has a null.

An integer that is too long has no text.  A query that needs one is not sent at all.
-/

def textOf : Value → String
  | .bool value => if value then "true" else "false"
  | other => other.display

/-- A scalar or null in a query: under a key, or in the list of a key. -/
structure Mention where
  key : Value
  inList : Bool
  value : Value

namespace Mention

/-- Whether nothing is given where the mention stands. -/
def isMissing (mention : Mention) : Bool :=
  match mention.value with
  | .null => true
  | _ => false

def pair (mention : Mention) : Value × String :=
  (if mention.inList then .text (mention.key.display ++ "[]") else mention.key,
    textOf mention.value)

/-- The texts of the pair exist; a key under which no list stands is sent as it is. -/
def HasText (mention : Mention) : Prop :=
  (mention.inList = true → mention.key.hasLongInteger = false) ∧
    mention.value.hasLongInteger = false

instance (mention : Mention) : Decidable mention.HasText :=
  inferInstanceAs (Decidable ((_ → _) ∧ _))

theorem isMissing_iff {mention : Mention} : mention.isMissing = true ↔ mention.value = .null := by
  rcases mention with ⟨key, inList, value⟩
  cases value <;> simp [isMissing]

end Mention

/-- A scalar, a null, or a list of them. -/
inductive IsFlat : Value → Prop
  | scalar {value : Value} (isScalar : value.isScalar = true) : IsFlat value
  | list {items : List Value} (areScalars : ∀ item ∈ items, item.isScalar = true) :
      IsFlat (.list items)
  | tuple {items : List Value} (areScalars : ∀ item ∈ items, item.isScalar = true) :
      IsFlat (.tuple items)

def mentionsOf (entry : Value × Value) : List Mention :=
  match entry.2 with
  | .list items => items.map (⟨entry.1, true, ·⟩)
  | .tuple items => items.map (⟨entry.1, true, ·⟩)
  | value => [⟨entry.1, false, value⟩]

def mentions (entries : Entries) : List Mention := entries.flatMap mentionsOf

/-- What is sent of some mentions: those in lists, and of the others those that give something. -/
def sent (mentions : List Mention) : List (Value × String) :=
  (mentions.filter (fun mention => mention.inList || !mention.isMissing)).map Mention.pair

/-- What some mentions give. -/
def given (mentions : List Mention) : List (Value × String) :=
  (mentions.filter (fun mention => !mention.isMissing)).map Mention.pair

theorem valueText_eq (value : Value) :
    valueText value = if value.hasLongInteger then .error .badValue else .ok (textOf value) := by
  cases value <;> rfl

theorem itemPair_eq (key item : Value) :
    itemPair key item =
      if (Mention.mk key true item).HasText then .ok (Mention.mk key true item).pair
      else .error .badValue := by
  have texts : (Mention.mk key true item).HasText ↔
      key.hasLongInteger = false ∧ item.hasLongInteger = false := by
    simp [Mention.HasText]
  unfold itemPair Value.spell
  simp only [valueText_eq, texts]
  cases key.hasLongInteger
  · cases item.hasLongInteger <;> rfl
  · rfl

theorem entryPairs_eq (entry : Value × Value) :
    entryPairs entry =
      if ∀ mention ∈ mentionsOf entry, mention.HasText then .ok (sent (mentionsOf entry))
      else .error .badValue := by
  have items (values : List Value) :
      values.mapM (itemPair entry.1) =
        if ∀ mention ∈ values.map (Mention.mk entry.1 true), mention.HasText
        then .ok (sent (values.map (Mention.mk entry.1 true))) else .error .badValue := by
    rw [Outcome.mapM_eq_ite (fun item _ => itemPair_eq entry.1 item)]
    simp only [List.forall_mem_map]
    unfold sent
    rw [List.filter_eq_self.mpr (by simp), List.map_map]
    rfl
  have single (value : Value) (given : (Mention.mk entry.1 false value).isMissing = false) :
      (valueText value).map (fun text => [(entry.1, text)]) =
        if ∀ mention ∈ [Mention.mk entry.1 false value], mention.HasText
        then .ok (sent [Mention.mk entry.1 false value]) else .error .badValue := by
    rw [valueText_eq]
    simp only [List.forall_mem_singleton, Mention.HasText, sent, List.filter_singleton, given]
    cases value.hasLongInteger <;> rfl
  rcases entry with ⟨key, value⟩
  cases value with
  | null => rfl
  | list values => exact items values
  | tuple values => exact items values
  | _ =>
      simp only [entryPairs, mentionsOf]
      exact single _ rfl

/-- A query is sent in whole, or not at all where a text is missing. -/
theorem pairs_eq_sent (entries : Entries) :
    pairs (.map entries) =
      if ∀ mention ∈ mentions entries, mention.HasText then .ok (sent (mentions entries))
      else .error .badValue := by
  have flat : (entries.map (fun entry => sent (mentionsOf entry))).flatten =
      sent (mentions entries) := by
    induction entries with
    | nil => rfl
    | cons entry rest ih =>
        rw [List.map_cons, List.flatten_cons, ih]
        simp [sent, mentions]
  have walked : pairs (.map entries) = (entries.mapM entryPairs).map List.flatten := by
    cases entries <;> rfl
  have texts : (∀ entry ∈ entries, ∀ mention ∈ mentionsOf entry, mention.HasText) ↔
      ∀ mention ∈ mentions entries, mention.HasText := by
    simp only [mentions, List.forall_mem_flatMap]
  rw [walked, Outcome.mapM_eq_ite (fun entry _ => entryPairs_eq entry)]
  simp only [texts]
  split
  · exact congrArg Except.ok flat
  · rfl

/-- A null in a list makes what is sent longer than what is given. -/
theorem sent_eq_given_iff (mentions : List Mention) :
    sent mentions = given mentions ↔
      ∀ mention ∈ mentions, mention.inList = true → mention.value ≠ .null := by
  constructor
  · intro same mention member isItem isNull
    have lengths := congrArg List.length same
    unfold sent given at lengths
    rw [List.length_map, List.length_map] at lengths
    have kept := List.Sublist.eq_of_length
      (List.monotone_filter_right mentions (fun mention given => by simp_all)) lengths.symm
    have isSent : mention ∈ mentions.filter (fun mention =>
        mention.inList || !mention.isMissing) :=
      List.mem_filter.mpr ⟨member, by rw [isItem, Bool.true_or]⟩
    rw [← kept, List.mem_filter, Mention.isMissing_iff.mpr isNull] at isSent
    exact absurd isSent.2 (by decide)
  · intro noNulls
    unfold sent given
    congr 1
    refine List.filter_congr (fun mention member => ?_)
    cases isItem : mention.inList with
    | false => rfl
    | true =>
        have isGiven : mention.isMissing = false :=
          Bool.eq_false_iff.mpr (fun missing =>
            noNulls mention member isItem (Mention.isMissing_iff.mp missing))
        rw [isGiven]
        rfl

def nullText : String := "None"

private theorem ne_nullText {text : String} {c : Char} (member : c ∈ text.toList)
    (foreign : c ∉ nullText.toList) : text ≠ nullText :=
  fun same => foreign (same ▸ member)

theorem toString_ne_nullText (number : Int) : toString number ≠ nullText := by
  intro same
  have member : 'N' ∈ (toString number).toList := by
    rw [same]
    decide
  rw [Json.toList_toString] at member
  split at member
  · exact absurd (Json.isAsciiDigit_of_mem_toDigits member) (by decide)
  · rcases List.mem_cons.mp member with isSign | isDigit
    · exact absurd isSign (by decide)
    · exact absurd (Json.isAsciiDigit_of_mem_toDigits isDigit) (by decide)

/-- Every number has a point in its text or a sign in its exponent. -/
theorem mark_mem_decimalText (decimal : Binary64.Decimal) :
    ∃ c ∈ ['.', '+', '-'], c ∈ Binary64.decimalText decimal := by
  have exponent : ∀ (number : Int) (before : List Char),
      ∃ c ∈ ['.', '+', '-'], c ∈ before ++ Binary64.exponentText number := by
    intro number before
    refine ⟨if number < 0 then '-' else '+', by split <;> decide, List.mem_append_right _ ?_⟩
    exact List.mem_cons_of_mem _ List.mem_cons_self
  have point : ∀ before behind : List Char,
      ∃ c ∈ ['.', '+', '-'], c ∈ before ++ '.' :: behind :=
    fun before behind => ⟨'.', by decide, List.mem_append_right _ List.mem_cons_self⟩
  unfold Binary64.decimalText
  simp only
  split
  · split
    · exact point ['0'] _
    · split
      · exact point _ ['0']
      · exact point _ _
  · split
    · rename_i noDigits
      exact absurd noDigits Nat.toDigits_ne_nil
    · exact exponent _ [_]
    · rename_i digit others _ _
      exact exponent _ (digit :: '.' :: others)

theorem float_ne_nullText (number : Binary64) :
    number.text Binary64.display ≠ nullText := by
  cases number with
  | nan => decide
  | infinite negative => cases negative <;> decide
  | finite negative significand exponent =>
      have marked : ∃ c ∈ ['.', '+', '-'],
          c ∈ ((Binary64.finite negative significand exponent).text Binary64.display).toList := by
        unfold Binary64.text
        simp only [String.toList_ofList]
        have digits : ∃ c ∈ ['.', '+', '-'], c ∈ (if significand = 0 then ['0', '.', '0']
            else Binary64.decimalText (Binary64.shortest significand exponent)) := by
          split
          · exact ⟨'.', by decide, by decide⟩
          · exact mark_mem_decimalText _
        rcases digits with ⟨c, isMark, member⟩
        refine ⟨c, isMark, ?_⟩
        split
        · exact List.mem_cons_of_mem _ member
        · exact member
      rcases marked with ⟨c, isMark, member⟩
      refine ne_nullText member ?_
      have foreign : ['.', '+', '-'].all (fun c => !nullText.toList.contains c) = true := by decide
      simpa using List.all_eq_true.mp foreign c isMark

theorem dash_mem_date (date : Date) : '-' ∈ date.text.toList := by
  simp [Date.text]

private theorem textOf_iff_of_ne {value : Value} (notNull : value ≠ .null)
    (notText : value ≠ .text nullText) (different : textOf value ≠ nullText) :
    textOf value = nullText ↔ value = .null ∨ value = .text nullText :=
  iff_of_false different (not_or_intro notNull notText)

/-- Only a null and the text of a null have this text. -/
theorem textOf_eq_nullText_iff {value : Value} (isScalar : value.isScalar = true) :
    textOf value = nullText ↔ value = .null ∨ value = .text nullText := by
  cases value with
  | null => exact iff_of_true rfl (Or.inl rfl)
  | text text => simp [textOf, Value.display]
  | bool value =>
      refine textOf_iff_of_ne (by simp) (by simp) ?_
      cases value <;> decide
  | int number => exact textOf_iff_of_ne (by simp) (by simp) (toString_ne_nullText number)
  | float number => exact textOf_iff_of_ne (by simp) (by simp) (float_ne_nullText number)
  | bytes bytes =>
      have quoted : 'b' ∈ (textOf (.bytes bytes)).toList := by
        change 'b' ∈ (String.ofList (Text.Literal.encodeBytes bytes)).toList
        rw [String.toList_ofList]
        exact List.mem_cons_self
      exact textOf_iff_of_ne (by simp) (by simp) (ne_nullText quoted (by decide))
  | date date =>
      exact textOf_iff_of_ne (by simp) (by simp) (ne_nullText (dash_mem_date date) (by decide))
  | moment moment =>
      have dashed : '-' ∈ moment.text.toList := by simp [Moment.text, dash_mem_date]
      exact textOf_iff_of_ne (by simp) (by simp) (ne_nullText dashed (by decide))
  | _ => cases isScalar

theorem IsFlat.isScalar_of_mem {entry : Value × Value} (flat : IsFlat entry.2) :
    ∀ mention ∈ mentionsOf entry, mention.value.isScalar = true := by
  rcases entry with ⟨key, value⟩
  cases flat with
  | list areScalars => exact List.forall_mem_map.mpr areScalars
  | tuple areScalars => exact List.forall_mem_map.mpr areScalars
  | scalar isScalar =>
      cases value with
      | list items => cases isScalar
      | tuple items => cases isScalar
      | _ => exact List.forall_mem_singleton.mpr isScalar

/-- A flat query sends its scalars in order, and a null just if it stands in a list, as long as
every text that it needs exists; so it sends what it gives exactly if all do and no list in it has a
null.  The text of a null is sent for nothing else but a null and this text. -/
theorem pairs_of_flat {entries : Entries} (flat : ∀ entry ∈ entries, IsFlat entry.2) :
    pairs (.map entries) =
        (if ∀ mention ∈ mentions entries, mention.HasText then .ok (sent (mentions entries))
          else .error .badValue) ∧
      (pairs (.map entries) = .ok (given (mentions entries)) ↔
        ∀ mention ∈ mentions entries,
          mention.HasText ∧ (mention.inList = true → mention.value ≠ .null)) ∧
      ∀ mention ∈ mentions entries,
        mention.pair.2 = nullText ↔ mention.value = .null ∨ mention.value = .text nullText := by
  refine ⟨pairs_eq_sent entries, ?_, fun mention member => ?_⟩
  · rw [pairs_eq_sent, forall₂_and, ← sent_eq_given_iff]
    split
    · rename_i texts
      rw [Except.ok.injEq]
      exact (and_iff_right texts).symm
    · rename_i missing
      exact iff_of_false (by simp) (fun both => missing both.1)
  · rcases List.mem_flatMap.mp member with ⟨entry, isEntry, isMention⟩
    exact textOf_eq_nullText_iff ((flat entry isEntry).isScalar_of_mem mention isMention)

/-- Nulls on both levels, a truth value, and a text that looks like a null. -/
def sparseQuery : Entries := [
  (.text "done", .bool false), (.text "q", .null),
  (.text "tags", .list [.text "a", .null, .text "None", .int 1])]

theorem pairs_of_flat_sparse :
    (∀ entry ∈ sparseQuery, IsFlat entry.2) ∧
      pairs (.map sparseQuery) = .ok [(.text "done", "false"), (.text "tags[]", "a"),
        (.text "tags[]", "None"), (.text "tags[]", "None"), (.text "tags[]", "1")] ∧
      pairs (.map sparseQuery) ≠ .ok (given (mentions sparseQuery)) := by
  have flat : ∀ entry ∈ sparseQuery, IsFlat entry.2 := by
    refine List.forall_mem_cons.mpr ⟨.scalar rfl, List.forall_mem_cons.mpr ⟨.scalar rfl,
      List.forall_mem_singleton.mpr (.list ?_)⟩⟩
    decide
  rcases pairs_of_flat flat with ⟨isSent, given_iff, -⟩
  refine ⟨flat, isSent.trans (if_pos (by decide)), fun isGiven => ?_⟩
  refine (given_iff.mp isGiven ⟨.text "tags", true, .null⟩ ?_).2 rfl rfl
  simp [mentions, mentionsOf, sparseQuery]

/-- A list with a null sends a pair for it. -/
theorem null_in_list_is_sent :
    pairs (.map [(.text "tags", .list [.text "a", .null])]) =
        .ok [(.text "tags[]", "a"), (.text "tags[]", "None")] ∧
      given (mentions [(.text "tags", .list [.text "a", .null])]) = [(.text "tags[]", "a")] :=
  ⟨rfl, rfl⟩

end Query
end ApiAccessors
