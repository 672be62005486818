import ApiAccessors.Proofs.Json.DocumentReading
import ApiAccessors.Proofs.Yaml.PlainNumbers

namespace ApiAccessors
namespace Yaml

/-!
# Documents of both notations

A document in the interchange notation that keeps to some rules is a document between brackets of
the other notation, too, and stands for the same mapping there.  Its words and numbers are plain
scalars of the right kinds, and its strings are quoted scalars.  Where the notations part is said by
the rules.
-/

open Json (IsGap Item Member Numeral)

/-- White space is made of spaces and line ends; no line ends inside a string, and no numbers in it
are halves of surrogate pairs; a colon is on the line of its key and not too far away from where
that begins; an exponent has a sign and stands behind a fraction. -/
def sharedRules : Json.Rules where
  gap := IsGap
  string := fun raw units => (∀ c ∈ raw, isBreak c = false) ∧ ∀ unit ∈ units, unit.isValidChar
  colon := fun raw gap =>
    (∀ c ∈ gap, c = ' ') ∧ (Json.quoted raw).length + gap.length ≤ Lexer.keyLimit
  numeral := fun numeral => IsFullNumeral numeral ∧ numeral.IsShort

/-- A document that keeps to the rules of both notations. -/
structure IsShared (room : Nat) (text : List Char) (entries : Entries) : Prop where
  document : Json.IsDocument sharedRules room text entries
  chars : ∀ c ∈ text, isDocumentChar c = true

section

variable {unit : Nat} {units : List Nat} {raw : List Char}

theorem noHalf_of_isValidChar (isValid : unit.isValidChar) :
    Json.isHighSurrogate unit = false ∧ Json.isLowSurrogate unit = false := by
  have valid : unit < 0xD800 ∨ 0xDFFF < unit ∧ unit < 0x110000 := isValid
  simp only [Json.isHighSurrogate, Json.isLowSurrogate, Bool.and_eq_false_iff,
    decide_eq_false_iff_not]
  omega

/-- Where no half of a pair stands, each unit is a character of its own. -/
theorem joinUnits_of_isValidChar (areValid : ∀ unit ∈ units, unit.isValidChar) :
    Json.arePaired units = true ∧ Json.joinUnits units = units.map Char.ofNat := by
  induction units with
  | nil => exact ⟨rfl, rfl⟩
  | cons unit units ih =>
      rcases List.forall_mem_cons.mp areValid with ⟨here, later⟩
      have noHalf := noHalf_of_isValidChar here
      cases units with
      | nil => simp [Json.arePaired, Json.joinUnits, noHalf]
      | cons next rest =>
          rcases ih later with ⟨paired, joined⟩
          rw [Json.arePaired, Json.joinUnits, noHalf.1, noHalf.2, paired, joined]
          exact ⟨rfl, rfl⟩

theorem escapedChar?_of_json {mark c : Char} (isMark : Json.escapedChar? mark = some c) :
    escapedChar? mark = some c := by
  unfold Json.escapedChar? at isMark
  split at isMark
  case h_9 => cases isMark
  all_goals exact isMark

/-- Four digits make the same number in both notations. -/
theorem readHex_of_fourHex? {a b c d : Char} (isUnit : Json.fourHex? a b c d = some unit) :
    Text.readHex 4 0 [a, b, c, d] = some (unit, []) := by
  simp only [Json.fourHex?, bind, Option.bind_eq_some_iff, pure, Option.some.injEq] at isUnit
  rcases isUnit with ⟨first, isFirst, second, isSecond, third, isThird, last, isLast, rfl⟩
  simp only [Text.readHex, isFirst, isSecond, isThird, isLast, Nat.zero_mul, Nat.zero_add]

theorem isQuotedText_of_isString (isString : Json.IsString raw units)
    (noBreak : ∀ c ∈ raw, isBreak c = false) (areValid : ∀ unit ∈ units, unit.isValidChar) :
    IsQuotedText raw (units.map Char.ofNat) := by
  induction isString with
  | nil => exact .nil
  | cons isPiece isString ih =>
      rcases List.forall_mem_append.mp noBreak with ⟨here, behind⟩
      rcases List.forall_mem_cons.mp areValid with ⟨isValid, later⟩
      have rest := ih behind later
      rw [List.map_cons]
      cases isPiece with
      | plain notQuote notBackslash notControl =>
          rw [Char.ofNat_toNat]
          exact .plain notQuote notBackslash (here _ List.mem_cons_self) rest
      | marked isMark =>
          rw [Char.ofNat_toNat]
          exact .escaped (escapedChar?_of_json isMark) rest
      | numbered isUnit => exact .numbered rfl (readHex_of_fourHex? isUnit) isValid rest

end

theorem sharedRules_within : sharedRules.Within Json.readable := by
  have isSpace : ∀ c, c = ' ' ∨ c = '\n' → Json.isSpace c = true := by
    rintro c (rfl | rfl)
    · rfl
    · rfl
  exact ⟨fun _ isGap c member => isSpace c (isGap c member),
    fun _ _ follows => (joinUnits_of_isValidChar follows.2).1,
    fun _ _ isColon c member => isSpace c (Or.inl (isColon.1 c member)), fun _ follows => follows.2⟩

theorem isPlainText_null : IsPlainText "null".toList :=
  ⟨List.all_eq_true.mp (by decide), Or.inl ⟨_, _, rfl, by decide⟩⟩

theorem isPlainText_bool (value : Bool) :
    IsPlainText (if value then "true" else "false").toList := by
  cases value with
  | true => exact ⟨List.all_eq_true.mp (by decide), Or.inl ⟨_, _, rfl, by decide⟩⟩
  | false => exact ⟨List.all_eq_true.mp (by decide), Or.inl ⟨_, _, rfl, by decide⟩⟩

theorem isPlainText_number (numeral : Numeral) : IsPlainText numeral.text := by
  rcases numeral.exists_cons with ⟨digit, rest, begins, isDigit⟩
  have starts : beginsWord digit = true :=
    Text.forall_digit (fun c => beginsWord c = true) (by decide) isDigit
  constructor
  · intro c member
    exact Text.forall_numberChar (fun c => isPlainChar c = true) (by decide)
      (Text.isNumberChar_of_numeral numeral c member)
  · unfold Numeral.text
    split
    · rw [begins]
      exact Or.inr ⟨digit, rest, rfl, starts⟩
    · exact Or.inl ⟨digit, rest, begins, starts⟩

/-- A key of the interchange notation as one of the other notation. -/
def flowMember (member : Member) : FlowMember :=
  ⟨member.before, member.raw, member.units.map Char.ofNat, member.behind, member.item⟩

theorem isSpacedItem_of_follows {item : Item} (follows : item.Follows sharedRules) :
    IsSpacedItem item :=
  ⟨follows.before, follows.behind⟩

theorem isSpacedMember_of_follows {member : Member} (follows : member.Follows sharedRules) :
    IsSpacedMember (flowMember member) where
  before := follows.before
  isQuoted := isQuotedText_of_isString follows.isString follows.string.1 follows.string.2
  onlySpaces := follows.colon.1
  near := follows.colon.2
  item := isSpacedItem_of_follows follows.item

theorem name_flowMember {member : Member} (follows : member.Follows sharedRules) :
    (flowMember member).name = member.name := by
  unfold FlowMember.name Member.name Json.unitsText
  rw [(joinUnits_of_isValidChar follows.string.2).2]
  rfl

/-- What a text stands for by the rules of both notations it stands for in the other notation. -/
theorem flow_of_denotes {room : Nat} {text : List Char} {value : Value}
    (denotes : Json.Denotes sharedRules room text value) : Flow room text value := by
  induction denotes with
  | null room => exact .plain room isPlainText_null isPlainValue_null
  | bool room value => exact .plain room (isPlainText_bool value) (isPlainValue_bool value)
  | @number room numeral follows =>
      exact .plain room (isPlainText_number numeral) (isPlainValue_number follows.1 follows.2)
  | text room isString follows =>
      unfold Json.unitsText
      rw [(joinUnits_of_isValidChar follows.2).2]
      exact .quoted room (isQuotedText_of_isString isString follows.1 follows.2)
  | list isGap follow denote ih =>
      exact .list isGap (fun item member => isSpacedItem_of_follows (follow item member)) ih
  | @map room gap members isGap follow differ denote ih =>
      have names : (members.map flowMember).map FlowMember.name = members.map Member.name := by
        rw [List.map_map]
        exact List.map_congr_left (fun member isMember =>
          name_flowMember (follow member isMember))
      have entries : (members.map flowMember).map FlowMember.entry = members.map Member.entry := by
        rw [List.map_map]
        refine List.map_congr_left (fun member isMember => ?_)
        exact congrArg (fun name => (Value.text name, member.item.value))
          (name_flowMember (follow member isMember))
      have made := @Flow.map room gap (members.map flowMember) isGap
        (List.forall_mem_map.mpr (fun member isMember =>
          isSpacedMember_of_follows (follow member isMember)))
        (names ▸ differ) (List.forall_mem_map.mpr ih)
      rw [entries, List.map_map] at made
      exact made

theorem IsShared.isFlowDocument {room : Nat} {text : List Char} {entries : Entries}
    (shared : IsShared room text entries) : IsFlowDocument room text entries := by
  rcases shared with ⟨document, chars⟩
  cases document with
  | intro isBefore denotes isBehind =>
      rcases denotes.exists_brace with ⟨inner, rfl⟩
      exact .intro isBefore (flow_of_denotes denotes) isBehind chars

end Yaml
end ApiAccessors
