import ApiAccessors.Proofs.Json.Document
import Mathlib.Data.List.Infix
import Mathlib.Data.List.TakeWhile

namespace ApiAccessors
namespace Json

/-!
# Texts that are refused

Apart from complaints, which name a place in the text, the reader has three ways to fail: the length
of an integer, half of a surrogate pair, and the depth of a document.  Each is found only where it
is: the text then has a row of digits that is longer than the limit, or a string with a lone half,
or more opening brackets than there is room for.  A reader of a part leaves over an end of what it
was given, so that whatever a later part finds stands in the whole text.
-/

/-- A row of more digits than are read as one number. -/
def HasLongNumber (text : List Char) : Prop :=
  ∃ digits, digits <:+: text ∧ (∀ c ∈ digits, Text.isAsciiDigit c = true) ∧
    Text.digitLimit < digits.length

/-- A string with half of a surrogate pair without the other half. -/
def HasLoneHalf (text : List Char) : Prop :=
  ∃ raw units, IsString raw units ∧ arePaired units = false ∧ quoted raw <:+: text

/-- How many brackets open a list or a mapping, those inside strings included. -/
def openings (text : List Char) : Nat := text.countP (fun c => c == '[' || c == '\x7b')

/-- What comes of reading a text leaves over an end of it, and refuses it only for something that it
has: a long number, a lone half, or more opening brackets than there is room for. -/
structure Reads {α : Type} (room : Nat) (text : List Char) (outcome : Read α) : Prop where
  suffix_of_ok : ∀ value rest, outcome = .ok (value, rest) → rest <:+ text
  long_of_error : outcome = .error .tooManyDigits → HasLongNumber text
  lone_of_error : outcome = .error .unpaired → HasLoneHalf text
  deep_of_error : outcome = .error .tooDeep → room < openings text

namespace Reads

variable {α : Type} {room : Nat} {text other rest : List Char} {outcome : Read α}

theorem ok {value : α} (suffix : rest <:+ text) :
    Reads room text (.ok (value, rest) : Read α) := by
  refine ⟨?_, ?_, ?_, ?_⟩
  · intro _ _ same
    cases same
    exact suffix
  all_goals
    intro same
    cases same

theorem complaint (what : Complaint) (place : Nat) :
    Reads room text (.error (.complaint what place) : Read α) := by
  refine ⟨?_, ?_, ?_, ?_⟩
  · intro _ _ same
    cases same
  all_goals
    intro same
    cases same

theorem stop (what : Complaint) (rest : List Char) :
    Reads room text (Json.stop what rest : Read α) :=
  complaint what rest.length

/-- What stops a part stops the whole. -/
theorem error_of {β : Type} {part : Read β} {fault : ReadFault} (reads : Reads room text part)
    (isFault : part = .error fault) : Reads room text (.error fault : Read α) := by
  rw [isFault] at reads
  refine ⟨?_, ?_, ?_, ?_⟩
  · intro _ _ same
    cases same
  · exact fun same => reads.long_of_error (congrArg Except.error (Except.error.inj same))
  · exact fun same => reads.lone_of_error (congrArg Except.error (Except.error.inj same))
  · exact fun same => reads.deep_of_error (congrArg Except.error (Except.error.inj same))

/-- What is read of an end of a text is read of the text.  There must be as much room as before, or
one place less behind an opening bracket. -/
theorem of_suffix {more : Nat} (suffix : other <:+ text)
    (enough : more + openings other ≤ room + openings text) (reads : Reads room other outcome) :
    Reads more text outcome := by
  refine ⟨?_, ?_, ?_, ?_⟩
  · exact fun value rest same => (reads.suffix_of_ok value rest same).trans suffix
  · intro same
    rcases reads.long_of_error same with ⟨digits, inside, areDigits, long⟩
    exact ⟨digits, inside.trans suffix.isInfix, areDigits, long⟩
  · intro same
    rcases reads.lone_of_error same with ⟨raw, units, isString, lone, inside⟩
    exact ⟨raw, units, isString, lone, inside.trans suffix.isInfix⟩
  · intro same
    have deep := reads.deep_of_error same
    omega

end Reads

variable {room : Nat} {text rest : List Char}

theorem openings_le {other : List Char} (suffix : other <:+ text) :
    openings other ≤ openings text :=
  suffix.sublist.countP_le

theorem Reads.of_end {α : Type} {other : List Char} {outcome : Read α} (suffix : other <:+ text)
    (reads : Reads room other outcome) : Reads room text outcome :=
  reads.of_suffix suffix (Nat.add_le_add_left (openings_le suffix) room)

theorem skipSpace_suffix (text : List Char) : skipSpace text <:+ text :=
  List.dropWhile_suffix _

theorem suffix_of_skipSpace {c : Char} (begins : skipSpace text = c :: rest) : rest <:+ text :=
  (List.suffix_cons c rest).trans (begins ▸ skipSpace_suffix text)

theorem consUnit_eq_ok {unit : Nat} {outcome : Read (List Nat)} {units : List Nat}
    (made : consUnit unit outcome = .ok (units, rest)) :
    ∃ others, units = unit :: others ∧ outcome = .ok (others, rest) := by
  cases outcome with
  | ok pair =>
      cases made
      exact ⟨_, rfl, rfl⟩
  | error fault => cases made

/-- Units are read from the spelling of a string in front of a quote. -/
theorem isString_of_readUnits {opened : Nat} {units : List Nat}
    (read : readUnits opened text = .ok (units, rest)) :
    ∃ raw, IsString raw units ∧ text = raw ++ '"' :: rest := by
  fun_induction readUnits opened text generalizing units with
  | case2 behind =>
      cases read
      exact ⟨[], .nil, rfl⟩
  | case3 a b c d behind unit isUnit _ ih =>
      rcases consUnit_eq_ok read with ⟨others, rfl, inner⟩
      rcases ih inner with ⟨raw, isString, same⟩
      exact ⟨_, .cons (.numbered isUnit) isString, by rw [same]; rfl⟩
  | case7 mark behind _ _ c isMark ih =>
      rcases consUnit_eq_ok read with ⟨others, rfl, inner⟩
      rcases ih inner with ⟨raw, isString, same⟩
      exact ⟨_, .cons (.marked isMark) isString, by rw [same]; rfl⟩
  | case10 c behind notQuote _ _ noEnd noMark notControl ih =>
      have notBackslash : c ≠ '\\' := by
        intro isBackslash
        cases behind with
        | nil => exact noEnd isBackslash rfl
        | cons mark later => exact noMark mark later isBackslash rfl
      rcases consUnit_eq_ok read with ⟨others, rfl, inner⟩
      rcases ih inner with ⟨raw, isString, same⟩
      exact ⟨_, .cons (.plain notQuote notBackslash (Nat.not_lt.mp notControl)) isString,
        by rw [same]; rfl⟩
  | _ => cases read

/-- The units of a string are only refused with a complaint. -/
theorem readUnits_eq_error {opened : Nat} {fault : ReadFault}
    (refused : readUnits opened text = .error fault) :
    ∃ what place, fault = .complaint what place := by
  have passed : ∀ {unit : Nat} {outcome : Read (List Nat)},
      consUnit unit outcome = .error fault → outcome = .error fault := by
    intro unit outcome stopped
    cases outcome with
    | ok pair => cases stopped
    | error found => exact stopped
  fun_induction readUnits opened text with
  | case2 => cases refused
  | case3 _ _ _ _ _ _ _ _ ih => exact ih (passed refused)
  | case7 _ _ _ _ _ _ ih => exact ih (passed refused)
  | case10 _ _ _ _ _ _ _ _ ih => exact ih (passed refused)
  | _ =>
      cases refused
      exact ⟨_, _, rfl⟩

theorem reads_readString (opened : Nat) (text : List Char) :
    Reads room ('"' :: text) (readString opened text) := by
  unfold readString
  rcases outcome : readUnits opened text with fault | ⟨units, rest⟩
  · rcases readUnits_eq_error outcome with ⟨what, place, rfl⟩
    exact .complaint what place
  · rcases isString_of_readUnits outcome with ⟨raw, isString, same⟩
    simp only
    split
    · exact .ok ⟨'"' :: (raw ++ ['"']), by simp [same]⟩
    · rename_i lone
      refine ⟨?_, ?_, ?_, ?_⟩
      · intro _ _ impossible
        cases impossible
      · intro impossible
        cases impossible
      · exact fun _ => ⟨raw, units, isString, Bool.eq_false_iff.mpr lone, [], rest,
          by simp [same, quoted]⟩
      · intro impossible
        cases impossible

theorem readWhole_spec {whole : List Char} (read : readWhole text = some (whole, rest)) :
    whole ++ rest = text ∧ ∀ c ∈ whole, Text.isAsciiDigit c = true := by
  unfold readWhole at read
  split at read
  · cases read
    exact ⟨rfl, List.forall_mem_singleton.mpr rfl⟩
  · simp only at read
    split at read
    · cases read
    · cases read
      exact ⟨List.takeWhile_append_dropWhile, fun c member => List.mem_takeWhile_imp member⟩

theorem readFraction_suffix {places : List Char} (read : readFraction text = some (places, rest)) :
    rest <:+ text := by
  unfold readFraction at read
  split at read
  · simp only at read
    split at read
    · cases read
    · cases read
      exact (List.dropWhile_suffix _).trans (List.suffix_cons _ _)
  · cases read

theorem readExponent_suffix {scale : Int} (read : readExponent text = some (scale, rest)) :
    rest <:+ text := by
  unfold readExponent at read
  split at read
  · cases read
  rename_i mark others
  split at read
  · split at read
    rename_i negative digits isDigits
    have ends : digits <:+ others := by
      split at isDigits
      · cases isDigits
        exact List.suffix_cons _ _
      · cases isDigits
        exact List.suffix_cons _ _
      · cases isDigits
        exact List.suffix_rfl
    simp only at read
    split at read
    · cases read
    · cases read
      exact ((List.dropWhile_suffix _).trans ends).trans (List.suffix_cons _ _)
  · cases read

theorem reads_readNumber (text : List Char) : Reads room text (readNumber text) := by
  unfold readNumber
  split
  rename_i negative unsigned isUnsigned
  have ends : unsigned <:+ text := by
    split at isUnsigned
    · cases isUnsigned
      exact List.suffix_cons _ _
    · cases isUnsigned
      exact List.suffix_rfl
  split
  · exact Reads.stop _ _
  · rename_i whole rest isWhole
    rcases readWhole_spec isWhole with ⟨parts, areDigits⟩
    have restEnds : rest <:+ text := List.IsSuffix.trans ⟨whole, parts⟩ ends
    simp only
    split
    · split
      · rename_i long
        have inside : whole <:+: unsigned := ⟨[], rest, parts⟩
        refine ⟨?_, fun _ => ⟨whole, inside.trans ends.isInfix, areDigits, long⟩, ?_, ?_⟩
        · intro _ _ same
          cases same
        all_goals
          intro same
          cases same
      · exact Reads.ok restEnds
    · have behindEnds : ((readFraction rest).map (·.2)).getD rest <:+ text := by
        cases isFraction : readFraction rest with
        | none => exact restEnds
        | some fraction => exact (readFraction_suffix isFraction).trans restEnds
      apply Reads.ok
      cases isExponent : readExponent (((readFraction rest).map (·.2)).getD rest) with
      | none => exact behindEnds
      | some exponent => exact (readExponent_suffix isExponent).trans behindEnds

theorem readWord_suffix {value : Value} (read : readWord text = some (value, rest)) :
    rest <:+ text := by
  unfold readWord at read
  split at read
  · cases read
    exact List.drop_suffix _ _
  · cases read

theorem openings_bracket {c : Char} (isBracket : (c == '[' || c == '\x7b') = true)
    (rest : List Char) : openings (c :: rest) = openings rest + 1 :=
  List.countP_cons_of_pos isBracket

/-- All values, members and items that may still be begun are read soundly. -/
structure ReadsWithin (limit count : Nat) : Prop where
  value : ∀ depth text, Reads (limit - depth) text (readValue limit depth count text)
  members : ∀ depth entries text,
    Reads (limit - depth) text (readMembers limit depth count entries text)
  items : ∀ depth items text, Reads (limit - depth) text (readItems limit depth count items text)

namespace ReadsWithin

variable {limit count : Nat} (within : ReadsWithin limit count)

/-- A bracket that opens too many collections is refused. -/
theorem reads_tooDeep {c : Char} (isBracket : (c == '[' || c == '\x7b') = true) {depth : Nat}
    (deep : limit ≤ depth) (rest : List Char) :
    Reads (limit - depth) (c :: rest) (.error .tooDeep : Read Value) := by
  refine ⟨?_, ?_, ?_, ?_⟩
  · intro _ _ same
    cases same
  · intro same
    cases same
  · intro same
    cases same
  · intro _
    rw [openings_bracket isBracket]
    omega

/-- What is read behind an opening bracket has one place less. -/
theorem reads_inner {c : Char} (isBracket : (c == '[' || c == '\x7b') = true) {depth : Nat}
    (shallow : ¬limit ≤ depth) {rest : List Char} {outcome : Read Value}
    (reads : Reads (limit - (depth + 1)) (skipSpace rest) outcome) :
    Reads (limit - depth) (c :: rest) outcome := by
  refine reads.of_suffix ((skipSpace_suffix rest).trans (List.suffix_cons _ _)) ?_
  have fewer := openings_le (skipSpace_suffix rest)
  rw [openings_bracket isBracket]
  omega

include within

theorem value_succ (depth : Nat) (text : List Char) :
    Reads (limit - depth) text (readValue limit depth (count + 1) text) := by
  unfold readValue
  split
  · rename_i text rest
    have reads : Reads (limit - depth) _ _ := reads_readString ('"' :: rest).length rest
    split
    · rename_i chars behind isString
      exact Reads.ok (reads.suffix_of_ok _ _ isString)
    · rename_i fault isFault
      exact reads.error_of isFault
  · rename_i text rest
    split
    · rename_i tooDeep
      exact reads_tooDeep (by decide) tooDeep rest
    · rename_i shallow
      split
      · rename_i behind isEmpty
        exact Reads.ok ((suffix_of_skipSpace isEmpty).trans (List.suffix_cons _ _))
      · exact reads_inner (by decide) shallow (within.members _ _ _)
  · rename_i text rest
    split
    · rename_i tooDeep
      exact reads_tooDeep (by decide) tooDeep rest
    · rename_i shallow
      split
      · rename_i behind isEmpty
        exact Reads.ok ((suffix_of_skipSpace isEmpty).trans (List.suffix_cons _ _))
      · exact reads_inner (by decide) shallow (within.items _ _ _)
  · split
    · rename_i word behind isWord
      exact Reads.ok (readWord_suffix isWord)
    · exact reads_readNumber text

theorem items_succ (depth : Nat) (items : List Value) (text : List Char) :
    Reads (limit - depth) text (readItems limit depth (count + 1) items text) := by
  have reads := within.value depth text
  unfold readItems
  split
  · rename_i fault isFault
    exact reads.error_of isFault
  · rename_i value rest isValue
    have ends := reads.suffix_of_ok _ _ isValue
    split
    · rename_i behind isClose
      exact Reads.ok ((suffix_of_skipSpace isClose).trans ends)
    · rename_i behind isComma
      exact (within.items _ _ _).of_end
        (((skipSpace_suffix behind).trans (suffix_of_skipSpace isComma)).trans ends)
    · exact Reads.stop _ _

theorem members_succ (depth : Nat) (entries : Entries) (text : List Char) :
    Reads (limit - depth) text (readMembers limit depth (count + 1) entries text) := by
  unfold readMembers
  split
  · rename_i text rest
    have key : Reads (limit - depth) _ _ := reads_readString ('"' :: rest).length rest
    split
    · rename_i fault isFault
      exact key.error_of isFault
    rename_i chars behindKey isKey
    have keyEnds := key.suffix_of_ok _ _ isKey
    split
    · rename_i behindColon isColon
      have colonEnds := (suffix_of_skipSpace isColon).trans keyEnds
      have reads := (within.value depth (skipSpace behindColon)).of_end
        ((skipSpace_suffix behindColon).trans colonEnds)
      split
      · rename_i fault isFault
        exact reads.error_of isFault
      rename_i value behind isValue
      have ends := reads.suffix_of_ok _ _ isValue
      simp only
      split
      · rename_i rest isClose
        exact Reads.ok ((suffix_of_skipSpace isClose).trans ends)
      · rename_i rest isComma
        exact (within.members _ _ _).of_end
          (((skipSpace_suffix rest).trans (suffix_of_skipSpace isComma)).trans ends)
      · exact Reads.stop _ _
    · exact Reads.stop _ _
  · exact Reads.stop _ _

end ReadsWithin

theorem readsWithin (limit count : Nat) : ReadsWithin limit count := by
  induction count with
  | zero =>
      exact ⟨fun _ _ => Reads.stop _ _, fun _ _ _ => Reads.stop _ _, fun _ _ _ => Reads.stop _ _⟩
  | succ count ih => exact ⟨ih.value_succ, ih.members_succ, ih.items_succ⟩

/-- A text is refused without a complaint only for a long number, a lone half, or more brackets than
there is room for. -/
theorem cause_of_read {limit : Nat} {fault : ReadFault} (refused : read limit text = .error fault) :
    (∃ what place, fault = .complaint what place) ∨
      (fault = .tooManyDigits ∧ HasLongNumber text) ∨ (fault = .unpaired ∧ HasLoneHalf text) ∨
      (fault = .tooDeep ∧ limit < openings text) := by
  have complains : ∀ what (rest : List Char), (stop what rest : Except ReadFault Value) =
      .error fault → ∃ what place, fault = .complaint what place := by
    intro what rest same
    cases same
    exact ⟨_, _, rfl⟩
  unfold read at refused
  split at refused
  · exact Or.inl (complains _ _ refused)
  have reads := ((readsWithin limit (2 * text.length + 2)).value 0 (skipSpace text)).of_end
    (skipSpace_suffix text)
  split at refused
  · rename_i found isFault
    cases refused
    cases fault with
    | complaint what place => exact Or.inl ⟨_, _, rfl⟩
    | tooManyDigits => exact Or.inr (Or.inl ⟨rfl, reads.long_of_error isFault⟩)
    | unpaired => exact Or.inr (Or.inr (Or.inl ⟨rfl, reads.lone_of_error isFault⟩))
    | tooDeep => exact Or.inr (Or.inr (Or.inr ⟨rfl, reads.deep_of_error isFault⟩))
  · split at refused
    · cases refused
    · exact Or.inl (complains _ _ refused)

end Json
end ApiAccessors
