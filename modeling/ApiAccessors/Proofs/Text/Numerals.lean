import ApiAccessors.Proofs.Json.DocumentReading
import ApiAccessors.Proofs.Text.AsciiCase
import ApiAccessors.Text.Numeral

namespace ApiAccessors
namespace Text

/-!
# Numerals of the ten digits

The readers of numerals accept the digits of every script, white space and low lines.  A numeral
that is made of the ten digits alone, with a point and an exponent, has none of this.  On such a
numeral they agree with the reader of the interchange notation.
-/

/-- What can be checked for the ASCII characters that are digits holds of all digits. -/
theorem forall_digit (holds : Char → Prop)
    (checked : ∀ code < 128, isAsciiDigit (Char.ofNat code) = true → holds (Char.ofNat code))
    {c : Char} (isDigit : isAsciiDigit c = true) : holds c :=
  forall_ascii (fun c => isAsciiDigit c = true → holds c) checked (isAscii_of_digit isDigit) isDigit

theorem decimalValue?_of_digit {c : Char} (isDigit : isAsciiDigit c = true) :
    decimalValue? c = some (c.toNat - '0'.toNat) :=
  forall_digit (fun c => decimalValue? c = some (c.toNat - '0'.toNat)) (by decide) isDigit

/-- No small letter comes of a digit. -/
theorem toLower_of_digit {c : Char} (isDigit : isAsciiDigit c = true) : c.toLower = c :=
  forall_digit (fun c => c.toLower = c) (by decide) isDigit

theorem isBlank_of_digit {c : Char} (isDigit : isAsciiDigit c = true) : isBlank c = false :=
  forall_digit (fun c => isBlank c = false) (by decide) isDigit

theorem digitsInBase?_ten {digits : List Char} (areDigits : ∀ c ∈ digits, isAsciiDigit c = true)
    (number : Nat) :
    digitsInBase? 10 number digits =
      some (digits.foldl (fun number c => number * 10 + (c.toNat - '0'.toNat)) number) := by
  induction digits generalizing number with
  | nil => rfl
  | cons c rest ih =>
      rcases List.forall_mem_cons.mp areDigits with ⟨isDigit, others⟩
      have small : c.toNat - '0'.toNat < 10 := by
        simp only [isAsciiDigit, Bool.and_eq_true, decide_eq_true_eq] at isDigit
        have nine : '9'.toNat = '0'.toNat + 9 := rfl
        omega
      have isValue : digitValue? c = some (c.toNat - '0'.toNat) := by
        unfold digitValue?
        rw [decimalValue?_of_digit isDigit]
      rw [digitsInBase?, isValue]
      exact (if_pos small).trans (ih others _)

theorem trim_eq_self {text : List Char} (noBlank : ∀ c ∈ text, isBlank c = false) :
    trim text = text := by
  have keeps : ∀ other : List Char, (∀ c ∈ other, isBlank c = false) →
      other.dropWhile isBlank = other := by
    intro other none
    cases other with
    | nil => rfl
    | cons c rest =>
        exact List.dropWhile_cons_of_neg (Bool.eq_false_iff.mp (none c List.mem_cons_self))
  unfold trim dropEndWhile
  rw [keeps text noBlank, keeps _ (fun c member => noBlank c (List.mem_reverse.mp member)),
    List.reverse_reverse]

theorem takeSign_of_digit {c : Char} (isDigit : isAsciiDigit c = true) (rest : List Char) :
    takeSign (c :: rest) = (false, c :: rest) := by
  unfold takeSign
  split
  · rename_i begins
    rw [(List.cons.inj begins).1] at isDigit
    cases isDigit
  · rename_i begins
    rw [(List.cons.inj begins).1] at isDigit
    cases isDigit
  · rfl

theorem dropLowLines?_of_digits (digits : Json.Digits) :
    dropLowLines? digits.chars = some digits.chars := by
  have noLine : ∀ c ∈ digits.chars, (c == '_') = false := by
    intro c member
    apply beq_eq_false_iff_ne.mpr
    rintro rfl
    cases digits.areDigits '_' member
  unfold dropLowLines?
  simp [splitWhere_eq_singleton noLine, digits.notEmpty]

theorem readInteger?_of_digits (digits : Json.Digits) (short : digits.chars.length ≤ numeralLimit) :
    readInteger? 10 digits.chars = some (Json.digitsValue digits.chars : Int) := by
  have noBlank : ∀ c ∈ digits.chars, isBlank c = false :=
    fun c member => isBlank_of_digit (digits.areDigits c member)
  have noSign : takeSign digits.chars = (false, digits.chars) := by
    rcases digits.exists_cons with ⟨first, others, isDigits, isDigit⟩
    rw [isDigits]
    exact takeSign_of_digit isDigit others
  have noMark : dropBaseMark 10 digits.chars = digits.chars := by
    unfold dropBaseMark
    split
    · rename_i isMark
      cases isMark
    · rfl
  unfold readInteger?
  simp only [trim_eq_self noBlank, noSign, noMark, dropLowLines?_of_digits,
    digitsInBase?_ten digits.areDigits]
  rw [if_neg (by simp [Nat.not_lt.mpr short])]
  rfl

theorem mapM_decimalValue? {digits : List Char} (areDigits : ∀ c ∈ digits, isAsciiDigit c = true) :
    digits.mapM decimalValue? = some (digits.map (fun c => c.toNat - '0'.toNat)) := by
  induction digits with
  | nil => rfl
  | cons c rest ih =>
      rcases List.forall_mem_cons.mp areDigits with ⟨isDigit, others⟩
      rw [List.mapM_cons, decimalValue?_of_digit isDigit, ih others]
      rfl

theorem filterMap_decimalValue? {digits : List Char}
    (areDigits : ∀ c ∈ digits, isAsciiDigit c = true) :
    digits.filterMap decimalValue? = digits.map (fun c => c.toNat - '0'.toNat) := by
  induction digits with
  | nil => rfl
  | cons c rest ih =>
      rcases List.forall_mem_cons.mp areDigits with ⟨isDigit, others⟩
      rw [List.filterMap_cons, decimalValue?_of_digit isDigit, ih others, List.map_cons]

theorem foldl_values (digits : List Char) :
    (digits.map (fun c => c.toNat - '0'.toNat)).foldl (fun number value => number * 10 + value) 0 =
      Json.digitsValue digits := by
  rw [List.foldl_map]
  rfl

theorem readScale?_of_exponent (exponent : Json.Exponent) :
    readScale? exponent.text = some exponent.value := by
  rcases exponent with ⟨mark, isMark, sign, isSign, digits⟩
  have marks : (decide (mark = 'e') || decide (mark = 'E')) = true := by simpa using isMark
  have noSign : takeSign digits.chars = (false, digits.chars) := by
    rcases digits.exists_cons with ⟨first, others, isDigits, isDigit⟩
    rw [isDigits]
    exact takeSign_of_digit isDigit others
  unfold readScale? Json.Exponent.text Json.Exponent.value
  rcases isSign with rfl | rfl | rfl
  · simp only [List.nil_append, noSign, marks, mapM_decimalValue? digits.areDigits, foldl_values]
    simp [digits.notEmpty]
  · simp only [List.cons_append, List.nil_append, takeSign, marks,
      mapM_decimalValue? digits.areDigits, foldl_values]
    simp [digits.notEmpty]
  · simp only [List.cons_append, List.nil_append, takeSign, marks,
      mapM_decimalValue? digits.areDigits, foldl_values]
    simp [digits.notEmpty]

theorem isSome_of_digits (digits : Json.Digits) :
    ∀ c ∈ digits.chars, (decimalValue? c).isSome = true := by
  intro c member
  rw [decimalValue?_of_digit (digits.areDigits c member)]
  rfl

def isNumberChar (c : Char) : Bool := isAsciiDigit c || ['.', 'e', 'E', '+', '-'].contains c

theorem isNumberChar_of_digits (digits : Json.Digits) :
    ∀ c ∈ digits.chars, isNumberChar c = true :=
  fun c member => Bool.or_eq_true_iff.mpr (Or.inl (digits.areDigits c member))

theorem isNumberChar_of_exponent (exponent : Json.Exponent) :
    ∀ c ∈ exponent.text, isNumberChar c = true := by
  rcases exponent with ⟨mark, isMark, sign, isSign, digits⟩
  refine List.forall_mem_cons.mpr ⟨?_, List.forall_mem_append.mpr
    ⟨?_, isNumberChar_of_digits digits⟩⟩
  · rcases isMark with rfl | rfl
    · rfl
    · rfl
  · rcases isSign with rfl | rfl | rfl
    · exact List.forall_mem_nil _
    · exact List.forall_mem_singleton.mpr rfl
    · exact List.forall_mem_singleton.mpr rfl

theorem isNumberChar_of_unsigned (numeral : Json.Numeral) :
    ∀ c ∈ numeral.unsignedText, isNumberChar c = true := by
  have fraction : ∀ c ∈ numeral.fractionText, isNumberChar c = true := by
    unfold Json.Numeral.fractionText
    cases numeral.places with
    | none => exact List.forall_mem_nil _
    | some places => exact List.forall_mem_cons.mpr ⟨rfl, isNumberChar_of_digits places⟩
  have exponent : ∀ c ∈ numeral.exponentText, isNumberChar c = true := by
    unfold Json.Numeral.exponentText
    cases numeral.exponent with
    | none => exact List.forall_mem_nil _
    | some exponent => exact isNumberChar_of_exponent exponent
  exact List.forall_mem_append.mpr ⟨isNumberChar_of_digits numeral.whole,
    List.forall_mem_append.mpr ⟨fraction, exponent⟩⟩

theorem isNumberChar_of_numeral (numeral : Json.Numeral) :
    ∀ c ∈ numeral.text, isNumberChar c = true := by
  unfold Json.Numeral.text
  split
  · exact List.forall_mem_cons.mpr ⟨rfl, isNumberChar_of_unsigned numeral⟩
  · exact isNumberChar_of_unsigned numeral

/-- What can be checked for the ASCII characters of numbers holds of all characters of numbers. -/
theorem forall_numberChar (holds : Char → Prop)
    (checked : ∀ code < 128, isNumberChar (Char.ofNat code) = true → holds (Char.ofNat code))
    {c : Char} (isNumberChar : isNumberChar c = true) : holds c := by
  have isAscii : c.toNat < 128 := by
    rcases Bool.or_eq_true_iff.mp isNumberChar with isDigit | isMark
    · exact isAscii_of_digit isDigit
    · simp only [List.contains_eq_mem, decide_eq_true_eq, List.mem_cons, List.not_mem_nil,
        or_false] at isMark
      rcases isMark with rfl | rfl | rfl | rfl | rfl
      all_goals decide
  exact forall_ascii (fun c => Text.isNumberChar c = true → holds c) checked isAscii isNumberChar

/-- What is behind a point: digits, and perhaps an exponent. -/
private theorem span_places (places : Json.Digits) (exponent : Option Json.Exponent) :
    let text := places.chars ++ (exponent.map Json.Exponent.text).getD []
    text.takeWhile (fun c => (decimalValue? c).isSome) = places.chars ∧
      text.dropWhile (fun c => (decimalValue? c).isSome) =
        (exponent.map Json.Exponent.text).getD [] := by
  refine span_append (isSome_of_digits places) ?_
  intro c isFirst
  cases exponent with
  | none => cases isFirst
  | some exponent =>
      cases isFirst
      rcases exponent.isMark with isMark | isMark
      · rw [isMark]
        decide
      · rw [isMark]
        decide

/-- No name of a number that is not finite begins with a digit. -/
private theorem map_toLower_ne {first : Char} (isDigit : isAsciiDigit first = true)
    (others : List Char) {name : List Char} {letter : Char} {rest : List Char}
    (isName : name = letter :: rest) (noDigit : isAsciiDigit letter = false) :
    (first :: others).map Char.toLower ≠ name := by
  rw [isName]
  intro same
  rw [List.map_cons, toLower_of_digit isDigit] at same
  rw [(List.cons.inj same).1] at isDigit
  cases isDigit.symm.trans noDigit

theorem readUnsignedReal?_of_digits (negative : Bool) (whole places : Json.Digits)
    (exponent : Option Json.Exponent) :
    readUnsignedReal? negative
        (whole.chars ++ '.' :: (places.chars ++ (exponent.map Json.Exponent.text).getD [])) =
      some (Binary64.ofDecimal negative (Json.digitsValue (whole.chars ++ places.chars))
        ((exponent.map Json.Exponent.value).getD 0 - places.chars.length)) := by
  rcases span_places places exponent with ⟨isPlaces, isBehind⟩
  have isSplit := span_append (isSome_of_digits whole)
    (show ∀ c ∈ ('.' :: (places.chars ++ (exponent.map Json.Exponent.text).getD [])).head?,
        (decimalValue? c).isSome = false by
      intro c isFirst
      cases isFirst
      decide)
  have isScale : readScale? ((exponent.map Json.Exponent.text).getD []) =
      some ((exponent.map Json.Exponent.value).getD 0) := by
    cases exponent with
    | none => rfl
    | some exponent => exact readScale?_of_exponent exponent
  have areDigits : ∀ c ∈ whole.chars ++ places.chars, isAsciiDigit c = true :=
    List.forall_mem_append.mpr ⟨whole.areDigits, places.areDigits⟩
  have noName : ∀ {name : List Char} {letter : Char} {rest : List Char}, name = letter :: rest →
      isAsciiDigit letter = false →
      (whole.chars ++ '.' :: (places.chars ++ (exponent.map Json.Exponent.text).getD [])).map
        Char.toLower ≠ name := by
    intro name letter rest isName noDigit
    rcases whole.exists_cons with ⟨first, others, isWhole, isDigit⟩
    rw [isWhole, List.cons_append]
    exact map_toLower_ne isDigit _ isName noDigit
  unfold readUnsignedReal?
  simp only [isSplit, isPlaces, isBehind, isScale, filterMap_decimalValue? areDigits, foldl_values,
    noName (show "inf".toList = 'i' :: _ from rfl) (by decide),
    noName (show "infinity".toList = 'i' :: _ from rfl) (by decide),
    noName (show "nan".toList = 'n' :: _ from rfl) (by decide)]
  simp [whole.notEmpty]

/-- A number with digits behind its point is read as it is in the interchange notation. -/
theorem readReal?_of_numeral {numeral : Json.Numeral} (hasPlaces : numeral.places.isSome = true) :
    readReal? numeral.unsignedText = some (numeral.realValue false) := by
  rcases numeral.exists_cons with ⟨first, others, begins, isDigit⟩
  have noBlank : ∀ c ∈ numeral.unsignedText, isBlank c = false := by
    intro c member
    exact forall_numberChar (fun c => isBlank c = false) (by decide)
      (isNumberChar_of_unsigned numeral c member)
  have noSign : takeSign numeral.unsignedText = (false, numeral.unsignedText) := by
    rw [begins]
    exact takeSign_of_digit isDigit others
  unfold readReal?
  rw [trim_eq_self noBlank, noSign]
  rcases numeral with ⟨negative, whole, noLeadingZero, places, exponent⟩
  rcases Option.isSome_iff_exists.mp hasPlaces with ⟨places, rfl⟩
  exact readUnsignedReal?_of_digits false whole places exponent

end Text
end ApiAccessors
