import ApiAccessors.Proofs.Text.Numerals
import ApiAccessors.Proofs.Yaml.FlowDocument

namespace ApiAccessors
namespace Yaml

/-!
# Plain words and numbers

A plain scalar tells its kind by its form.  The words and the numbers of the interchange notation
have the kinds that they should have, and the values, but for numbers with an exponent: it counts
only behind a fraction and with a sign.
-/

open Json (Digits Exponent Numeral)

/-- An exponent is written with a sign and behind a fraction. -/
structure IsFullNumeral (numeral : Numeral) : Prop where
  fraction : numeral.exponent.isSome = true → numeral.places.isSome = true
  sign : ∀ exponent ∈ numeral.exponent, exponent.sign ≠ []

theorem isPlainValue_null : IsPlainValue "null".toList .null := by
  have isNull : Kind.ofText "null".toList = .null := by decide
  constructor
  · rw [isNull]
    rfl
  · rw [isNull]
    rfl

theorem isPlainValue_bool (value : Bool) :
    IsPlainValue (if value then "true" else "false").toList (.bool value) := by
  have isBool : Kind.ofText (if value then "true" else "false").toList = .bool := by
    cases value <;> decide
  have isWord : Kind.truthWords.lookup (String.ofList (Text.lower
      (String.ofList (if value then "true" else "false").toList).toList)) = some value := by
    cases value <;> decide
  constructor
  · rw [isBool]
    rfl
  · rw [isBool]
    unfold scalarValue
    simp only [isWord]

namespace Kind

/-! ## Forms of numbers -/

theorem isSpacedDigit_of_digits (digits : Digits) : ∀ c ∈ digits.chars, isSpacedDigit c = true :=
  fun c member => Bool.or_eq_true_iff.mpr (Or.inl (digits.areDigits c member))

/-- Digits are found in front of what does not continue them. -/
theorem spacedDigits?_append (digits : Digits) {rest : List Char}
    (ends : ∀ c ∈ rest.head?, isSpacedDigit c = false) :
    spacedDigits? (digits.chars ++ rest) = some rest := by
  have spaced := isSpacedDigit_of_digits digits
  rcases digits.exists_cons with ⟨first, others, isDigits, isDigit⟩
  rw [isDigits] at spaced ⊢
  have isRest := (Text.span_append (List.forall_mem_cons.mp spaced).2 ends).2
  rw [List.cons_append, spacedDigits?, isRest]
  exact if_pos isDigit

theorem spacedDigits?_digits (digits : Digits) : spacedDigits? digits.chars = some [] := by
  have found := spacedDigits?_append digits (show ∀ c ∈ ([] : List Char).head?, _ from
    fun _ impossible => by cases impossible)
  rwa [List.append_nil] at found

variable {numeral : Numeral}

theorem dropSign_numeral (numeral : Numeral) : dropSign numeral.text = numeral.unsignedText := by
  unfold Numeral.text
  split
  · rfl
  · rcases numeral.exists_cons with ⟨first, others, begins, isDigit⟩
    rw [begins]
    unfold dropSign
    split
    · rename_i same
      rw [(List.cons.inj same).1] at isDigit
      cases isDigit
    · rename_i same
      rw [(List.cons.inj same).1] at isDigit
      cases isDigit
    · rfl

theorem dropSign_cons (first : Char) (rest : List Char) :
    dropSign (first :: rest) =
      if first == '-' || first == '+' then rest else first :: rest := by
  unfold dropSign
  split
  · rename_i same
    cases same
    rfl
  · rename_i same
    cases same
    rfl
  · rename_i noMinus noPlus
    have signs : first ≠ '-' ∧ first ≠ '+' :=
      ⟨fun same => noMinus rest (by rw [same]), fun same => noPlus rest (by rw [same])⟩
    simp [signs]

/-- The characters that a number begins with. -/
def startsNumber (c : Char) : Bool := isDigit c || c == '-'

theorem exists_start (numeral : Numeral) :
    ∃ first rest, numeral.text = first :: rest ∧ startsNumber first = true := by
  rcases numeral.exists_cons with ⟨first, others, begins, isDigit⟩
  unfold Numeral.text
  split
  · exact ⟨'-', _, rfl, rfl⟩
  · exact ⟨first, others, begins, Bool.or_eq_true_iff.mpr (Or.inl isDigit)⟩

/-- No number is one of the words that begin with something else. -/
theorem text_ne_of_start {form : List Char}
    (foreign : form.head?.all (fun c => !startsNumber c) = true) : numeral.text ≠ form := by
  rcases exists_start numeral with ⟨first, rest, begins, starts⟩
  intro same
  rw [← same, begins] at foreign
  simp [starts] at foreign

theorem isTruthWord_numeral (numeral : Numeral) : isTruthWord numeral.text = false := by
  have foreign : truthWords.all (fun word => (wordForms word.1).all
      (fun form => form.head?.all (fun c => !startsNumber c))) = true := by
    decide
  apply Bool.eq_false_iff.mpr
  intro isWord
  rcases List.any_eq_true.mp isWord with ⟨word, isTruth, isForm⟩
  rw [List.contains_eq_mem, decide_eq_true_eq] at isForm
  have isForeign := List.all_eq_true.mp (List.all_eq_true.mp foreign word isTruth) _ isForm
  exact text_ne_of_start isForeign rfl

/-- No line ends behind a number. -/
theorem ofText_numeral (numeral : Numeral) :
    ofText numeral.text =
      if isFloat numeral.text then .float
      else if isInt numeral.text then .int
      else if numeral.text == ['<', '<'] then .merge
      else if isNull numeral.text then .null
      else if isTimestamp numeral.text then .timestamp
      else if numeral.text == ['='] then .standIn
      else if isPropertyMark numeral.text then .unknown
      else .text := by
  have noBreak : (numeral.text.getLast? == some '\n' && numeral.text.length != 1) = false := by
    apply Bool.eq_false_iff.mpr
    intro isLast
    have isEnd := (Bool.and_eq_true_iff.mp isLast).1
    have isChar := Text.isNumberChar_of_numeral numeral '\n'
      (List.mem_of_getLast? (beq_iff_eq.mp isEnd))
    cases isChar
  unfold ofText
  simp only [noBreak, Bool.false_eq_true, if_false, isTruthWord_numeral]

theorem unsignedText_of_isInteger (isInteger : numeral.isInteger = true) :
    numeral.unsignedText = numeral.whole.chars := by
  rcases Bool.and_eq_true_iff.mp isInteger with ⟨noPlaces, noExponent⟩
  unfold Numeral.unsignedText Numeral.fractionText Numeral.exponentText
  rw [Option.isNone_iff_eq_none.mp noPlaces, Option.isNone_iff_eq_none.mp noExponent]
  exact List.append_nil _

theorem isFloat_of_isInteger (isInteger : numeral.isInteger = true) :
    isFloat numeral.text = false := by
  have isUnsigned := (dropSign_numeral numeral).trans (unsignedText_of_isInteger isInteger)
  have noPoint : ∀ rest, numeral.text ≠ '.' :: rest := fun _ => text_ne_of_start rfl
  have noName : ∀ name ∈ [".nan", ".NaN", ".NAN"], String.ofList numeral.text ≠ name := by
    intro name isName same
    have isText := congrArg String.toList same
    rw [String.toList_ofList] at isText
    simp only [List.mem_cons, List.not_mem_nil, or_false] at isName
    rcases isName with rfl | rfl | rfl
    all_goals exact noPoint _ isText
  have noWholePoint : ∀ rest, numeral.whole.chars ≠ '.' :: rest := by
    intro rest same
    have isDigit := numeral.whole.areDigits '.' (same ▸ List.mem_cons_self)
    cases isDigit
  unfold isFloat
  simp only [isUnsigned, spacedDigits?_digits]
  simp only [List.mem_cons, List.not_mem_nil, or_false, forall_eq_or_imp, forall_eq] at noName
  simp [noName, isFractionAndExponent, sixtieths?]

theorem isInt_of_isInteger (isInteger : numeral.isInteger = true) :
    isInt numeral.text = true := by
  have isUnsigned := (dropSign_numeral numeral).trans (unsignedText_of_isInteger isInteger)
  unfold isInt
  rw [isUnsigned]
  by_cases isZero : numeral.whole.chars.head? = some '0'
  · rw [numeral.noLeadingZero isZero]
    rfl
  · have noZero : ∀ rest, numeral.whole.chars ≠ '0' :: rest := by
      intro rest same
      exact isZero (by rw [same]; rfl)
    simp [noZero, spacedDigits?_digits]

theorem ofText_of_isInteger (isInteger : numeral.isInteger = true) :
    ofText numeral.text = .int := by
  rw [ofText_numeral, isFloat_of_isInteger isInteger, isInt_of_isInteger isInteger]
  rfl

theorem isExponentOrEmpty_of_full (full : IsFullNumeral numeral) :
    isExponentOrEmpty numeral.exponentText = true := by
  unfold Numeral.exponentText
  cases isExponent : numeral.exponent with
  | none => rfl
  | some exponent =>
      have signed := full.sign exponent isExponent
      rcases exponent with ⟨mark, isMark, sign, isSign, digits⟩
      have marks : (mark == 'e' || mark == 'E') = true := by simpa using isMark
      have areDigits : digits.chars.all isDigit = true := List.all_eq_true.mpr digits.areDigits
      have notEmpty : digits.chars.isEmpty = false := by simpa using digits.notEmpty
      rcases isSign with rfl | rfl | rfl
      · exact absurd rfl signed
      · change isExponentOrEmpty (mark :: '+' :: digits.chars) = true
        rw [isExponentOrEmpty, marks, notEmpty, areDigits]
        rfl
      · change isExponentOrEmpty (mark :: '-' :: digits.chars) = true
        rw [isExponentOrEmpty, marks, notEmpty, areDigits]
        rfl

theorem ofText_of_places (full : IsFullNumeral numeral)
    (hasPlaces : numeral.places.isSome = true) : ofText numeral.text = .float := by
  rcases Option.isSome_iff_exists.mp hasPlaces with ⟨places, isPlaces⟩
  have exponentEnds : ∀ c ∈ numeral.exponentText.head?, isSpacedDigit c = false := by
    unfold Numeral.exponentText
    cases numeral.exponent with
    | none =>
        intro c isFirst
        cases isFirst
    | some exponent =>
        intro c isFirst
        cases isFirst
        rcases exponent.isMark with isMark | isMark
        · rw [isMark]
          rfl
        · rw [isMark]
          rfl
  have isUnsigned : numeral.unsignedText =
      numeral.whole.chars ++ '.' :: (places.chars ++ numeral.exponentText) := by
    unfold Numeral.unsignedText Numeral.fractionText
    rw [isPlaces]
    rfl
  have pointEnds : ∀ c ∈ ('.' :: (places.chars ++ numeral.exponentText)).head?,
      isSpacedDigit c = false := by
    intro c isFirst
    cases isFirst
    rfl
  have isBehind := (Text.span_append (isSpacedDigit_of_digits places) exponentEnds).2
  have isReal : isFloat numeral.text = true := by
    unfold isFloat
    simp only [dropSign_numeral, isUnsigned, spacedDigits?_append numeral.whole pointEnds]
    rw [isFractionAndExponent, isBehind, isExponentOrEmpty_of_full full]
    rfl
  rw [ofText_numeral, if_pos isReal]

end Kind

/-! ## Values of numbers -/

section

variable {numeral : Numeral}

/-- No character of a number is dropped. -/
theorem dropUnderscores_numeral (numeral : Numeral) :
    dropUnderscores numeral.text = numeral.text := by
  apply List.filter_eq_self.mpr
  intro c member
  exact Text.forall_numberChar (fun c => (c != '_') = true) (by decide)
    (Text.isNumberChar_of_numeral numeral c member)

theorem intValue_of_isInteger (isInteger : numeral.isInteger = true) (short : numeral.IsShort) :
    intValue numeral.text = .ok numeral.integerValue := by
  have isUnsigned := Kind.unsignedText_of_isInteger isInteger
  have isRead := Text.readInteger?_of_digits numeral.whole (short isInteger)
  have noColon : ':' ∉ numeral.whole.chars := by
    intro member
    cases numeral.whole.areDigits ':' member
  unfold intValue
  rw [dropUnderscores_numeral]
  unfold Numeral.text Numeral.integerValue
  rw [isUnsigned]
  by_cases isZero : numeral.whole.chars.head? = some '0'
  · rw [numeral.noLeadingZero isZero]
    cases numeral.negative with
    | true => rfl
    | false => rfl
  · rcases numeral.whole.exists_cons with ⟨first, others, isWhole, isDigit⟩
    have noZero : first ≠ '0' := by
      rintro rfl
      exact isZero (by rw [isWhole]; rfl)
    have noSign : first ≠ '-' ∧ first ≠ '+' := by
      constructor
      · rintro rfl
        cases isDigit
      · rintro rfl
        cases isDigit
    rw [isWhole] at isRead noColon ⊢
    cases numeral.negative with
    | true =>
        simp [noZero, noColon, isRead]
        rfl
    | false =>
        simp [noSign, noZero, noColon, isRead]
        rfl

theorem isMark_small : 'e' = 'e' ∨ 'e' = 'E' := Or.inl rfl

/-- A number with a small letter for the mark of its exponent. -/
def smallLetter (numeral : Numeral) : Numeral :=
  { numeral with
    exponent := numeral.exponent.map
      (fun exponent => { exponent with mark := 'e', isMark := isMark_small }) }

theorem realValue_smallLetter (numeral : Numeral) (negative : Bool) :
    (smallLetter numeral).realValue negative = numeral.realValue negative := by
  unfold Numeral.realValue smallLetter
  cases numeral.exponent with
  | none => rfl
  | some exponent => rfl

theorem map_toLower_digits (digits : Digits) :
    digits.chars.map Char.toLower = digits.chars := by
  have same : digits.chars.map Char.toLower = digits.chars.map id :=
    List.map_congr_left (fun c member => Text.toLower_of_digit (digits.areDigits c member))
  rw [same, List.map_id]

theorem map_toLower_exponent (exponent : Exponent) :
    exponent.text.map Char.toLower = 'e' :: (exponent.sign ++ exponent.digits.chars) := by
  rcases exponent with ⟨mark, isMark, sign, isSign, digits⟩
  have isLetter : mark.toLower = 'e' := by
    rcases isMark with rfl | rfl
    · rfl
    · rfl
  have isSign : sign.map Char.toLower = sign := by
    rcases isSign with rfl | rfl | rfl
    · rfl
    · rfl
    · rfl
  unfold Exponent.text
  rw [List.map_cons, List.map_append, isLetter, isSign, map_toLower_digits]

theorem lower_numeral (numeral : Numeral) :
    Text.lower numeral.text = (smallLetter numeral).text := by
  have ascii : Text.IsAscii numeral.text := by
    intro c member
    exact Text.forall_numberChar (fun c => c.toNat < 128) (by decide)
      (Text.isNumberChar_of_numeral numeral c member)
  have fraction : numeral.fractionText.map Char.toLower = numeral.fractionText := by
    unfold Numeral.fractionText
    cases numeral.places with
    | none => rfl
    | some places => exact congrArg ('.' :: ·) (map_toLower_digits places)
  have exponent : numeral.exponentText.map Char.toLower = (smallLetter numeral).exponentText := by
    unfold Numeral.exponentText smallLetter
    cases numeral.exponent with
    | none => rfl
    | some exponent => exact map_toLower_exponent exponent
  have unsigned : numeral.unsignedText.map Char.toLower = (smallLetter numeral).unsignedText := by
    unfold Numeral.unsignedText
    rw [List.map_append, List.map_append, map_toLower_digits, fraction, exponent]
    rfl
  rw [Text.lower_of_ascii ascii]
  unfold Numeral.text
  rw [apply_ite (List.map Char.toLower), List.map_cons, unsigned]
  rfl

theorem unsignedFloat_numeral (numeral : Numeral) :
    unsignedFloat numeral.text = (smallLetter numeral).unsignedText := by
  rcases Kind.exists_start (smallLetter numeral) with ⟨first, rest, begins, -⟩
  unfold unsignedFloat
  rw [dropUnderscores_numeral, lower_numeral, ← Kind.dropSign_numeral, begins, Kind.dropSign_cons]

/-- A number begins with a minus sign exactly if it is negative. -/
theorem head_numeral_iff (numeral : Numeral) :
    numeral.text.head? = some '-' ↔ numeral.negative = true := by
  unfold Numeral.text
  cases numeral.negative with
  | true => exact iff_of_true rfl rfl
  | false =>
      rcases numeral.exists_cons with ⟨first, others, begins, isDigit⟩
      refine iff_of_false ?_ Bool.false_ne_true
      rw [if_neg Bool.false_ne_true, begins]
      intro isMinus
      cases isMinus
      cases isDigit

theorem floatValue_of_places (hasPlaces : numeral.places.isSome = true) :
    floatValue numeral.text = .ok (numeral.realValue numeral.negative) := by
  have isRead := Text.readReal?_of_numeral
    (show (smallLetter numeral).places.isSome = true from hasPlaces)
  have isMinus := head_numeral_iff (smallLetter numeral)
  have noColon : ':' ∉ (smallLetter numeral).unsignedText := by
    intro member
    cases Text.isNumberChar_of_unsigned _ ':' member
  rcases (smallLetter numeral).exists_cons with ⟨digit, others, isUnsigned, isDigit⟩
  have noPoint : digit ≠ '.' := by
    rintro rfl
    cases isDigit
  rcases Kind.exists_start (smallLetter numeral) with ⟨first, rest, begins, -⟩
  rw [begins] at isMinus
  unfold floatValue
  rw [dropUnderscores_numeral, lower_numeral, unsignedFloat_numeral, begins]
  rw [isUnsigned] at isRead noColon ⊢
  have isInfinity : (digit :: others == ".inf".toList) = false := by simp [noPoint]
  have isNotANumber : (digit :: others == notANumber) = false := by simp [notANumber, noPoint]
  simp only [isInfinity, isNotANumber, Bool.false_eq_true, if_false, List.contains_eq_mem, noColon,
    decide_false, isRead, requireValue, realValue_smallLetter]
  cases isNegative : numeral.negative with
  | true =>
      have isFirst : first = '-' := Option.some.inj (isMinus.mpr isNegative)
      rw [isFirst]
      exact congrArg Except.ok (Binary64.negate_ofDecimal _ _)
  | false =>
      have noMinus : first ≠ '-' := by
        rintro rfl
        cases isNegative.symm.trans (isMinus.mp rfl)
      simp [noMinus]

/-- The numbers of the interchange notation, but for those with other exponents, have their values
as plain scalars. -/
theorem isPlainValue_number (full : IsFullNumeral numeral) (short : numeral.IsShort) :
    IsPlainValue numeral.text numeral.value := by
  cases isInteger : numeral.isInteger with
  | true =>
      have isKind := Kind.ofText_of_isInteger isInteger
      constructor
      · rw [isKind]
        rfl
      · rw [isKind]
        unfold scalarValue Numeral.value
        simp only [String.toList_ofList, intValue_of_isInteger isInteger short, isInteger, if_true]
        rfl
  | false =>
      have hasPlaces : numeral.places.isSome = true := by
        cases isPlaces : numeral.places with
        | some places => rfl
        | none =>
            unfold Numeral.isInteger at isInteger
            rw [isPlaces] at isInteger
            have hasExponent : numeral.exponent.isSome = true := by simpa using isInteger
            have fraction := full.fraction hasExponent
            rw [isPlaces] at fraction
            cases fraction
      have isKind := Kind.ofText_of_places full hasPlaces
      constructor
      · rw [isKind]
        rfl
      · rw [isKind]
        unfold scalarValue Numeral.value
        simp only [String.toList_ofList, floatValue_of_places hasPlaces, isInteger]
        rfl

end

end Yaml
end ApiAccessors
