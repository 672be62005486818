import ApiAccessors.Json.Writer
import ApiAccessors.Proofs.Json.Integers
import ApiAccessors.Proofs.Json.Strings

namespace ApiAccessors
namespace Json

/-!
# Written forms

A written form is made of printable ASCII characters and ends of lines.  A style adds nothing to it
but a mark between two items and, around the parts, blanks and ends of lines, which the reader
skips.  What is wanted of a written form is that the reader takes it off the front of its input
wherever it stands and stops right behind it; here this is shown of scalars.

The reader may begin only so many collections inside each other, and it has fuel for two steps for
each character.  Both bounds are carried along.
-/

/-- A character that can stand in a written form. -/
def IsPlain (c : Char) : Prop := c = '\n' ∨ 0x20 ≤ c.toNat ∧ c.toNat < 0x7F

instance (c : Char) : Decidable (IsPlain c) := inferInstanceAs (Decidable (_ ∨ _))

/-- A text that is given can be tested letter by letter. -/
theorem isPlain_of_all {text : List Char} (all : text.all (fun c => decide (IsPlain c)) = true) :
    ∀ c ∈ text, IsPlain c :=
  fun c member => of_decide_eq_true (List.all_eq_true.mp all c member)

/-- What stands between the parts of a written form: blanks and ends of lines. -/
def IsGap (gap : List Char) : Prop := ∀ c ∈ gap, c = ' ' ∨ c = '\n'

/-- Beside the marks between items a style writes nothing but gaps. -/
structure Style.AddsGaps (style : Style) : Prop where
  opening : ∀ depth, IsGap (style.opening depth)
  between : ∀ depth, ∃ gap, style.between depth = ',' :: gap ∧ IsGap gap
  closing : ∀ depth, IsGap (style.closing depth)

theorem addsGaps_compact : compact.AddsGaps where
  opening := fun _ => List.forall_mem_nil _
  between := fun _ => ⟨[' '], rfl, List.forall_mem_singleton.mpr (Or.inl rfl)⟩
  closing := fun _ => List.forall_mem_nil _

theorem isGap_indentation (width : Nat) : IsGap (indentation width) := by
  intro c member
  rcases List.mem_cons.mp member with same | inner
  · exact Or.inr same
  · exact Or.inl (List.mem_replicate.mp inner).2

theorem addsGaps_indented (width : Nat) : (indented width).AddsGaps where
  opening := fun _ => isGap_indentation _
  between := fun _ => ⟨_, rfl, isGap_indentation _⟩
  closing := fun _ => isGap_indentation _

/-- A text is read as a value wherever it stands, with room for so many collections of those that
can be inside each other. -/
structure ReadsBack (limit room : Nat) (text : List Char) (value : Value) : Prop where
  begins : ∃ c rest, text = c :: rest ∧ isSpace c = false ∧ c ≠ ']'
  plain : ∀ c ∈ text, IsPlain c
  reads : ∀ depth count rest, depth + room ≤ limit → 2 * text.length ≤ count →
    EndsNumber rest → readValue limit depth count (text ++ rest) = .ok (value, rest)

section

variable {gap : List Char}

theorem IsGap.plain (isGap : IsGap gap) : ∀ c ∈ gap, IsPlain c := by
  intro c member
  rcases isGap c member with rfl | rfl
  · decide
  · decide

theorem skipSpace_append (isGap : IsGap gap) (text : List Char) :
    skipSpace (gap ++ text) = skipSpace text := by
  apply List.dropWhile_append_of_pos
  intro c member
  rcases isGap c member with rfl | rfl
  · decide
  · decide

theorem skipSpace_cons {c : Char} (noSpace : isSpace c = false) (rest : List Char) :
    skipSpace (c :: rest) = c :: rest :=
  List.dropWhile_cons_of_neg (Bool.eq_false_iff.mp noSpace)

theorem skipSpace_gap (isGap : IsGap gap) {c : Char} (noSpace : isSpace c = false)
    (rest : List Char) : skipSpace (gap ++ c :: rest) = c :: rest := by
  rw [skipSpace_append isGap, skipSpace_cons noSpace]

theorem ReadsBack.skipSpace_gap {limit room : Nat} {text : List Char} {value : Value}
    (back : ReadsBack limit room text value) (isGap : IsGap gap) (rest : List Char) :
    skipSpace (gap ++ (text ++ rest)) = text ++ rest := by
  rcases back.begins with ⟨c, others, isText, noSpace, -⟩
  rw [isText, List.cons_append, Json.skipSpace_gap isGap noSpace]

/-- Neither what is in a gap nor a mark behind a value continues a number. -/
theorem endsNumber_cons {c : Char} (isMark : c ∈ [' ', '\n', ',', ']', '\x7d'])
    (rest : List Char) : EndsNumber (c :: rest) := by
  intro first isFirst
  cases isFirst
  simp only [List.mem_cons, List.not_mem_nil, or_false] at isMark
  rcases isMark with rfl | rfl | rfl | rfl | rfl
  all_goals exact ⟨by decide, by decide, by decide, by decide⟩

theorem endsNumber_gap (isGap : IsGap gap) {text : List Char} (ends : EndsNumber text) :
    EndsNumber (gap ++ text) := by
  cases gap with
  | nil => exact ends
  | cons c rest =>
      rcases isGap c List.mem_cons_self with rfl | rfl
      all_goals exact endsNumber_cons (by decide) _

end

theorem isPlain_of_mem_writeChar {c written : Char} (member : written ∈ writeChar c) :
    IsPlain written := by
  have digit : ∀ value < 16, IsPlain (Text.HexCase.small.digit value) := by decide
  have escape : ∀ unit, ∀ written ∈ unitEscape unit, IsPlain written := by
    intro unit written member
    simp only [unitEscape, Text.HexCase.write, List.nil_append, List.cons_append, List.mem_cons,
      List.not_mem_nil, or_false] at member
    rcases member with rfl | rfl | rfl | rfl | rfl | rfl
    · decide
    · decide
    all_goals exact digit _ (Nat.mod_lt _ (by decide))
  rcases writeChar_cases c with ⟨mark, isWritten, isMark, -⟩ |
    ⟨isWritten, -, -, printable⟩ | ⟨isWritten, -⟩ | ⟨isWritten, -⟩
  · rw [isWritten] at member
    simp only [List.mem_cons, List.not_mem_nil, or_false] at member
    rcases member with rfl | rfl
    · decide
    · unfold escapedChar? at isMark
      split at isMark
      case h_9 => cases isMark
      all_goals decide
  · rw [isWritten] at member
    exact Or.inr (List.mem_singleton.mp member ▸ printable)
  · rw [isWritten] at member
    exact escape _ written member
  · rw [isWritten] at member
    rcases List.mem_append.mp member with high | low
    · exact escape _ written high
    · exact escape _ written low

theorem isPlain_of_mem_writeString {text : String} {c : Char} (member : c ∈ writeString text) :
    IsPlain c := by
  simp only [writeString, List.mem_cons, List.mem_append, List.mem_flatMap, List.not_mem_nil,
    or_false] at member
  rcases member with rfl | ⟨given, -, written⟩ | rfl
  · decide
  · exact isPlain_of_mem_writeChar written
  · decide

private theorem readValue_string (limit depth count : Nat) (text : String) (rest : List Char) :
    readValue limit depth (count + 1) (writeString text ++ rest) = .ok (.text text, rest) := by
  unfold writeString
  rw [List.cons_append, readValue, readString_writeString]
  simp only [String.ofList_toList]

theorem readsBack_text (limit room : Nat) (value : String) :
    ReadsBack limit room (writeString value) (.text value) := by
  refine ⟨⟨_, _, rfl, by decide, by decide⟩, fun _ => isPlain_of_mem_writeString, ?_⟩
  intro depth count rest _ enough _
  cases count with
  | zero => simp [writeString] at enough
  | succ count => exact readValue_string limit depth count value rest

/-- The characters that begin a string, a mapping or a list, or end a list. -/
def isBracket (c : Char) : Bool := c == '"' || c == '\x7b' || c == '[' || c == ']'

/-- A word or, failing that, a number. -/
def readScalar (text : List Char) : Read Value :=
  match readWord text with
  | some (value, rest) => .ok (value, rest)
  | none => readNumber text

theorem readValue_eq_readScalar (limit depth count : Nat) {c : Char}
    (noBracket : isBracket c = false) (rest : List Char) :
    readValue limit depth (count + 1) (c :: rest) = readScalar (c :: rest) := by
  simp only [isBracket, Bool.or_eq_false_iff, beq_eq_false_iff_ne] at noBracket
  rcases noBracket with ⟨⟨⟨notQuote, notBrace⟩, notBracket⟩, -⟩
  rw [readValue]
  · rfl
  all_goals
    intro others begins
    cases begins
    contradiction

private theorem readsBack_scalar (limit room : Nat) {c : Char} {others : List Char} {value : Value}
    (noBracket : isBracket c = false) (noSpace : isSpace c = false)
    (plain : ∀ letter ∈ c :: others, IsPlain letter)
    (read : ∀ rest, EndsNumber rest → readScalar (c :: (others ++ rest)) = .ok (value, rest)) :
    ReadsBack limit room (c :: others) value := by
  refine ⟨⟨c, others, rfl, noSpace, ?_⟩, plain, ?_⟩
  · rintro rfl
    cases noBracket
  · intro depth count rest _ enough ends
    cases count with
    | zero => simp at enough
    | succ count =>
        rw [List.cons_append, readValue_eq_readScalar limit depth count noBracket]
        exact read rest ends

theorem readsBack_null (limit room : Nat) : ReadsBack limit room "null".toList .null :=
  readsBack_scalar limit room rfl rfl (isPlain_of_all (by decide)) (fun _ _ => rfl)

theorem readsBack_bool (limit room : Nat) (value : Bool) :
    ReadsBack limit room (if value then "true" else "false").toList (.bool value) := by
  cases value with
  | false => exact readsBack_scalar limit room rfl rfl (isPlain_of_all (by decide)) (fun _ _ => rfl)
  | true => exact readsBack_scalar limit room rfl rfl (isPlain_of_all (by decide)) (fun _ _ => rfl)

theorem readWord_digit {c : Char} (isDigit : Text.isAsciiDigit c = true)
    (rest : List Char) : readWord (c :: rest) = none ∧ readWord ('-' :: c :: rest) = none := by
  have noDigits : ['n', 't', 'f', 'N', 'I', '-'].all (fun c => !Text.isAsciiDigit c) = true := by
    decide
  have apart : ∀ letter ∈ ['n', 't', 'f', 'N', 'I', '-'], ¬letter = c := by
    rintro letter isLetter rfl
    have noDigit := List.all_eq_true.mp noDigits letter isLetter
    rw [isDigit] at noDigit
    cases noDigit
  simp only [List.mem_cons, List.not_mem_nil, or_false, forall_eq_or_imp, forall_eq] at apart
  constructor
  · simp [readWord, words, apart]
  · simp [readWord, words, apart]

private theorem isPlain_of_digit {c : Char} (isDigit : Text.isAsciiDigit c = true) :
    IsPlain c := by
  have bounds : '0'.toNat ≤ c.toNat ∧ c.toNat ≤ '9'.toNat := by
    simpa only [Text.isAsciiDigit, Bool.and_eq_true, decide_eq_true_eq] using isDigit
  exact Or.inr ⟨Nat.le_trans (by decide) bounds.1, Nat.lt_of_le_of_lt bounds.2 (by decide)⟩

theorem apart_of_digit {c : Char} (isDigit : Text.isAsciiDigit c = true) :
    isBracket c = false ∧ isSpace c = false := by
  constructor
  · apply Bool.eq_false_iff.mpr
    intro bracket
    simp only [isBracket, Bool.or_eq_true, beq_iff_eq] at bracket
    rcases bracket with ((rfl | rfl) | rfl) | rfl
    all_goals exact absurd isDigit (by decide)
  · apply Bool.eq_false_iff.mpr
    intro space
    simp only [isSpace, Bool.or_eq_true, beq_iff_eq] at space
    rcases space with ((rfl | rfl) | rfl) | rfl
    all_goals exact absurd isDigit (by decide)

theorem readsBack_int (limit room : Nat) {value : Int}
    (short : (toString value.natAbs).length ≤ Text.digitLimit) :
    ReadsBack limit room (toString value).toList (.int value) := by
  have read : ∀ rest, EndsNumber rest →
      readNumber ((toString value).toList ++ rest) = .ok (.int value, rest) :=
    fun _ ends => readNumber_toString short ends
  cases isDigits : Nat.toDigits 10 value.natAbs with
  | nil => exact absurd isDigits Nat.toDigits_ne_nil
  | cons first digits =>
      have isDigit : Text.isAsciiDigit first = true :=
        isAsciiDigit_of_mem_toDigits (isDigits ▸ List.mem_cons_self)
      rcases apart_of_digit isDigit with ⟨noBracket, noSpace⟩
      have plain : ∀ c ∈ first :: digits, IsPlain c :=
        fun c member => isPlain_of_digit (isAsciiDigit_of_mem_toDigits (isDigits ▸ member))
      have written := toList_toString value
      rw [isDigits] at written
      -- The first character decides how the reader goes on: it is a digit or the sign.
      split at written
      · rw [written] at read ⊢
        apply readsBack_scalar limit room noBracket noSpace plain
        intro rest ends
        unfold readScalar
        rw [(readWord_digit isDigit _).1]
        exact read rest ends
      · rw [written] at read ⊢
        apply readsBack_scalar limit room rfl rfl (List.forall_mem_cons.mpr ⟨by decide, plain⟩)
        intro rest ends
        unfold readScalar
        rw [List.cons_append, (readWord_digit isDigit _).2]
        exact read rest ends

end Json
end ApiAccessors
