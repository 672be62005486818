import ApiAccessors.Proofs.Outcome
import ApiAccessors.Proofs.Yaml.FlowDocument

namespace ApiAccessors
namespace Yaml

/-!
# Quoted text

What stands between the quotes of a scalar on one line is read as the characters it stands for.
Blanks that follow each other are read together; all else goes character by character or escape by
escape.
-/

namespace Cursor

variable {cursor : Cursor} {c : Char} {rest front behind : List Char}

theorem rest_advance (begins : cursor.rest = c :: rest) : cursor.advance.rest = rest := by
  unfold advance
  rw [begins]
  simp only
  split
  · rfl
  · split
    · rfl
    · rfl

theorem offset_advance (begins : cursor.rest = c :: rest) :
    cursor.advance.offset = cursor.offset + 1 := by
  unfold advance
  rw [begins]
  simp only
  split
  · rfl
  · split
    · rfl
    · rfl

theorem line_advance (begins : cursor.rest = c :: rest) (noBreak : isBreak c = false) :
    cursor.advance.line = cursor.line := by
  unfold advance
  rw [begins]
  simp only [noBreak, Bool.false_and, Bool.false_eq_true, if_false]
  split
  · rfl
  · rfl

theorem advanceBy_add (first second : Nat) (cursor : Cursor) :
    cursor.advanceBy (first + second) = (cursor.advanceBy first).advanceBy second := by
  induction first generalizing cursor with
  | zero => rw [Nat.zero_add, advanceBy]
  | succ first ih => rw [Nat.succ_add, advanceBy, advanceBy, ih]

theorem rest_advanceBy (begins : cursor.rest = front ++ behind) :
    (cursor.advanceBy front.length).rest = behind := by
  induction front generalizing cursor with
  | nil => exact begins
  | cons c front ih => exact ih (rest_advance begins)

theorem offset_advanceBy (begins : cursor.rest = front ++ behind) :
    (cursor.advanceBy front.length).offset = cursor.offset + front.length := by
  induction front generalizing cursor with
  | nil => rfl
  | cons c front ih =>
      rw [List.length_cons, advanceBy, ih (rest_advance begins), offset_advance begins]
      omega

theorem line_advanceBy (begins : cursor.rest = front ++ behind)
    (noBreak : ∀ c ∈ front, isBreak c = false) :
    (cursor.advanceBy front.length).line = cursor.line := by
  induction front generalizing cursor with
  | nil => rfl
  | cons c front ih =>
      rcases List.forall_mem_cons.mp noBreak with ⟨here, later⟩
      rw [List.length_cons, advanceBy, ih (rest_advance begins) later, line_advance begins here]

theorem takeBreak_of_not_isBreak (begins : cursor.rest = c :: rest) (noBreak : isBreak c = false) :
    cursor.takeBreak = ([], cursor) := by
  simp only [isBreak, Bool.or_eq_false_iff, beq_eq_false_iff_ne] at noBreak
  unfold takeBreak
  rw [begins]
  simp [isBreak, noBreak]

end Cursor

theorem hexValue?_isBreak {c : Char} {value : Nat} (isValue : Text.hexValue? c = some value) :
    isBreak c = false := by
  have noDigits : ['\n', '\r', '\x85', '\u2028', '\u2029'].all
      (fun mark => (Text.hexValue? mark).isNone) = true := by
    decide
  have noBreak : c ∉ ['\n', '\r', '\x85', '\u2028', '\u2029'] := by
    intro member
    have isNone := List.all_eq_true.mp noDigits c member
    rw [isValue] at isNone
    cases isNone
  simp only [List.mem_cons, List.not_mem_nil, or_false, not_or] at noBreak
  unfold isBreak
  simp only [noBreak, beq_eq_false_iff_ne.mpr, ne_eq, not_false_eq_true, Bool.or_self]

/-- A number of digits is read whatever stands behind it. -/
theorem readHex_append {width begun code : Nat} {digits : List Char}
    (isCode : Text.readHex width begun digits = some (code, [])) :
    digits.length = width ∧ (∀ c ∈ digits, isBreak c = false) ∧
      ∀ rest, Text.readHex width begun (digits ++ rest) = some (code, rest) := by
  induction width generalizing begun digits with
  | zero =>
      cases isCode
      exact ⟨rfl, List.forall_mem_nil _, fun _ => rfl⟩
  | succ width ih =>
      cases digits with
      | nil => cases isCode
      | cons c digits =>
          rw [Text.readHex] at isCode
          cases isValue : Text.hexValue? c with
          | none =>
              rw [isValue] at isCode
              cases isCode
          | some value =>
              rw [isValue] at isCode
              rcases ih isCode with ⟨isLength, noBreak, isRead⟩
              refine ⟨congrArg (· + 1) isLength,
                List.forall_mem_cons.mpr ⟨hexValue?_isBreak isValue, noBreak⟩, fun rest => ?_⟩
              rw [List.cons_append, Text.readHex, isValue]
              exact isRead rest

theorem isBreak_of_escapedChar? {mark c : Char} (isEscape : escapedChar? mark = some c) :
    isBreak mark = false := by
  unfold escapedChar? at isEscape
  split at isEscape
  case h_19 => cases isEscape
  all_goals rfl

theorem isBreak_of_escapeWidth? {letter : Char} {width : Nat}
    (isWidth : escapeWidth? letter = some width) : isBreak letter = false := by
  unfold escapeWidth? at isWidth
  split at isWidth
  case h_4 => cases isWidth
  all_goals rfl

theorem escapedChar?_of_escapeWidth? {letter : Char} {width : Nat}
    (isWidth : escapeWidth? letter = some width) : escapedChar? letter = none := by
  unfold escapeWidth? at isWidth
  split at isWidth
  case h_4 => cases isWidth
  all_goals rfl

theorem IsQuotedText.noBreak {raw text : List Char} (isQuoted : IsQuotedText raw text) :
    ∀ c ∈ raw, isBreak c = false := by
  induction isQuoted with
  | nil => exact List.forall_mem_nil _
  | plain notQuote notBackslash noBreak isQuoted ih => exact List.forall_mem_cons.mpr ⟨noBreak, ih⟩
  | escaped isEscape isQuoted ih =>
      exact List.forall_mem_cons.mpr
        ⟨rfl, List.forall_mem_cons.mpr ⟨isBreak_of_escapedChar? isEscape, ih⟩⟩
  | numbered isWidth isCode isValid isQuoted ih =>
      exact List.forall_mem_cons.mpr ⟨rfl, List.forall_mem_cons.mpr
        ⟨isBreak_of_escapeWidth? isWidth,
          List.forall_mem_append.mpr ⟨(readHex_append isCode).2.1, ih⟩⟩⟩

section

variable {cursor : Cursor} {raw text behind : List Char}

theorem numericEscape_of_readHex {width code : Nat} {digits : List Char}
    (isCode : Text.readHex width 0 digits = some (code, [])) (isValid : code.isValidChar)
    (begins : cursor.rest = digits ++ behind) :
    numericEscape width cursor = .ok (Char.ofNat code, cursor.advanceBy width) := by
  have valid : code < 0xD800 ∨ 0xDFFF < code ∧ code < 0x110000 := isValid
  have notGreat : ¬greatestCode < code := by
    have code : greatestCode = 0x10FFFF := rfl
    omega
  have notTooGreat : ¬greatestNumber < code := by
    have number : greatestNumber = 0x7FFFFFFF := rfl
    omega
  have noHalf : (decide (0xD800 ≤ code) && decide (code < 0xE000)) = false := by
    simp only [Bool.and_eq_false_iff, decide_eq_false_iff_not]
    omega
  unfold numericEscape
  rw [begins, (readHex_append isCode).2.2]
  simp only [if_neg notTooGreat, if_neg notGreat, noHalf, Bool.false_eq_true, if_false]

/-- An escape is read as its character. -/
theorem quotedRest_of_escapeSequence {fuel count : Nat} {c : Char}
    (begins : cursor.rest = '\\' :: behind)
    (isRead : escapeSequence fuel cursor.advance = .ok ([c], cursor.advance.advanceBy count)) :
    quotedRest '"' (fuel + 1) cursor =
      (quotedRest '"' fuel (cursor.advanceBy (count + 1))).map
        (fun found => (c :: found.1, found.2)) := by
  rw [quotedRest, begins]
  simp only [isRead]
  change (Except.ok ([c], cursor.advanceBy (count + 1)) >>= _) = _
  rw [Outcome.ok_bind]
  simp only
  cases quotedRest '"' fuel (cursor.advanceBy (count + 1)) with
  | ok found => rfl
  | error failure => rfl

theorem escapeSequence_escaped {mark c : Char} (isEscape : escapedChar? mark = some c)
    (fuel : Nat) (begins : cursor.rest = mark :: behind) :
    escapeSequence fuel cursor = .ok ([c], cursor.advanceBy 1) := by
  unfold escapeSequence
  rw [begins]
  simp only [isEscape]
  rfl

theorem escapeSequence_numbered {letter : Char} {width code : Nat} {digits : List Char}
    (isWidth : escapeWidth? letter = some width)
    (isCode : Text.readHex width 0 digits = some (code, [])) (isValid : code.isValidChar)
    (fuel : Nat) (begins : cursor.rest = letter :: (digits ++ behind)) :
    escapeSequence fuel cursor = .ok ([Char.ofNat code], cursor.advanceBy (width + 1)) := by
  unfold escapeSequence
  rw [begins]
  simp only [escapedChar?_of_escapeWidth? isWidth, isWidth]
  rw [numericEscape_of_readHex isCode isValid (Cursor.rest_advance begins)]
  rfl

/-- The blanks that come next are kept, if no line ends behind them. -/
theorem quotedRest_blanks {c : Char} {rest : List Char} (begins : cursor.rest = c :: rest)
    (isBlank : isSpaceOrTab c = true)
    (noBreak : ∀ next ∈ (cursor.rest.dropWhile isSpaceOrTab).head?, isBreak next = false)
    (fuel : Nat) :
    quotedRest '"' (fuel + 1) cursor =
      (quotedRest '"' fuel (cursor.advanceBy (cursor.rest.takeWhile isSpaceOrTab).length)).map
        (fun found => (cursor.rest.takeWhile isSpaceOrTab ++ found.1, found.2)) := by
  have isSplit : cursor.rest =
      cursor.rest.takeWhile isSpaceOrTab ++ cursor.rest.dropWhile isSpaceOrTab :=
    List.takeWhile_append_dropWhile.symm
  have behindBlanks := Cursor.rest_advanceBy isSplit
  have noTakeBreak : (cursor.advanceBy (cursor.rest.takeWhile isSpaceOrTab).length).takeBreak =
      ([], cursor.advanceBy (cursor.rest.takeWhile isSpaceOrTab).length) := by
    cases isRest : cursor.rest.dropWhile isSpaceOrTab with
    | nil =>
        unfold Cursor.takeBreak
        rw [behindBlanks, isRest]
    | cons next others =>
        rw [isRest] at behindBlanks noBreak
        exact Cursor.takeBreak_of_not_isBreak behindBlanks (noBreak next rfl)
  have isSpace : quotedSpace fuel cursor = .ok (cursor.rest.takeWhile isSpaceOrTab,
      cursor.advanceBy (cursor.rest.takeWhile isSpaceOrTab).length) := by
    unfold quotedSpace Cursor.span
    simp only [noTakeBreak]
  have notQuote : (c == '"') = false := by
    apply Bool.eq_false_iff.mpr
    intro same
    rw [beq_iff_eq.mp same] at isBlank
    cases isBlank
  have notBackslash : (c == '\\') = false := by
    apply Bool.eq_false_iff.mpr
    intro same
    rw [beq_iff_eq.mp same] at isBlank
    cases isBlank
  rw [quotedRest]
  simp only [isSpace]
  rw [begins]
  simp only [notQuote, notBackslash, isBlank, Bool.or_true, Bool.and_false, Bool.false_eq_true,
    if_false, if_true]
  rw [← begins]
  change (Except.ok (cursor.rest.takeWhile isSpaceOrTab,
    cursor.advanceBy (cursor.rest.takeWhile isSpaceOrTab).length) >>= _) = _
  rw [Outcome.ok_bind]
  simp only
  cases quotedRest '"' fuel
      (cursor.advanceBy (cursor.rest.takeWhile isSpaceOrTab).length) with
  | ok found => rfl
  | error failure => rfl

/-- One of several blanks takes no fuel, because they are read together. -/
theorem quotedRest_blank {blank : Char} {rest : List Char} (begins : cursor.rest = blank :: rest)
    (isBlank : isSpaceOrTab blank = true)
    (noBreak : ∀ next ∈ (rest.dropWhile isSpaceOrTab).head?, isBreak next = false) (fuel : Nat) :
    quotedRest '"' (fuel + 1) cursor =
      (quotedRest '"' (if rest.head?.any isSpaceOrTab then fuel + 1 else fuel) cursor.advance).map
        (fun found => (blank :: found.1, found.2)) := by
  have inner := Cursor.rest_advance begins
  have isDropped : cursor.rest.dropWhile isSpaceOrTab = rest.dropWhile isSpaceOrTab := by
    rw [begins, List.dropWhile_cons_of_pos isBlank]
  have isTaken : cursor.rest.takeWhile isSpaceOrTab = blank :: rest.takeWhile isSpaceOrTab := by
    rw [begins, List.takeWhile_cons_of_pos isBlank]
  rw [quotedRest_blanks begins isBlank (by rwa [isDropped]), isTaken, List.length_cons,
    Cursor.advanceBy]
  cases rest with
  | nil =>
      change (quotedRest '"' fuel cursor.advance).map
        (fun found => ([blank] ++ found.1, found.2)) = _
      rfl
  | cons c others =>
      cases blankNext : isSpaceOrTab c with
      | false =>
          rw [List.takeWhile_cons_of_neg (Bool.eq_false_iff.mp blankNext),
            if_neg (by simp [blankNext])]
          rfl
      | true =>
          rw [if_pos (by simp [blankNext]),
            quotedRest_blanks inner blankNext (by rwa [inner]), inner]
          cases quotedRest '"' fuel (cursor.advance.advanceBy
              ((c :: others).takeWhile isSpaceOrTab).length) with
          | ok found => rfl
          | error failure => rfl

/-- A character that needs no care stands for itself. -/
theorem quotedRest_plain {c : Char} {rest : List Char} (begins : cursor.rest = c :: rest)
    (notQuote : c ≠ '"') (notBackslash : c ≠ '\\')
    (noSpace : (isBreak c || isSpaceOrTab c) = false) (fuel : Nat) :
    quotedRest '"' (fuel + 1) cursor =
      (quotedRest '"' fuel cursor.advance).map (fun found => (c :: found.1, found.2)) := by
  rw [quotedRest, begins]
  simp only [beq_eq_false_iff_ne.mpr notQuote, beq_eq_false_iff_ne.mpr notBackslash, noSpace,
    Bool.and_false, Bool.false_eq_true, if_false]
  cases quotedRest '"' fuel cursor.advance with
  | ok found => rfl
  | error failure => rfl

/-- No line ends in quoted text with its closing quote. -/
private theorem noBreak_dropWhile (noBreak : ∀ c ∈ raw, isBreak c = false) :
    ∀ next ∈ ((raw ++ '"' :: behind).dropWhile isSpaceOrTab).head?, isBreak next = false := by
  intro next isNext
  induction raw with
  | nil =>
      cases isNext
      rfl
  | cons c raw ih =>
      rcases List.forall_mem_cons.mp noBreak with ⟨here, later⟩
      cases isBlank : isSpaceOrTab c with
      | true =>
          rw [List.cons_append, List.dropWhile_cons_of_pos isBlank] at isNext
          exact ih later isNext
      | false =>
          rw [List.cons_append, List.dropWhile_cons_of_neg (Bool.eq_false_iff.mp isBlank)] at isNext
          cases isNext
          exact here

/-- Quoted text is read up to its closing quote. -/
theorem quotedRest_of_isQuotedText (isQuoted : IsQuotedText raw text) (fuel : Nat)
    (enough : raw.length < fuel) (begins : cursor.rest = raw ++ '"' :: behind) :
    quotedRest '"' fuel cursor = .ok (text, cursor.advanceBy (raw.length + 1)) := by
  induction isQuoted generalizing fuel cursor with
  | nil =>
      cases fuel with
      | zero => omega
      | succ fuel =>
          have closes : cursor.rest = '"' :: behind := begins
          rw [quotedRest, closes]
          rfl
  | @plain c raw text notQuote notBackslash noBreak isQuoted ih =>
      cases fuel with
      | zero => omega
      | succ fuel =>
          rw [List.length_cons] at enough
          have inner := Cursor.rest_advance begins
          cases isBlank : isSpaceOrTab c with
          | false =>
              have noSpace : (isBreak c || isSpaceOrTab c) = false :=
                Bool.or_eq_false_iff.mpr ⟨noBreak, isBlank⟩
              rw [quotedRest_plain begins notQuote notBackslash noSpace,
                ih fuel (by omega) inner]
              rfl
          | true =>
              rw [quotedRest_blank begins isBlank (noBreak_dropWhile isQuoted.noBreak),
                ih _ (by split <;> omega) inner]
              rfl
  | @escaped mark c raw text isEscape isQuoted ih =>
      cases fuel with
      | zero => omega
      | succ fuel =>
          simp only [List.length_cons] at enough
          have inner := Cursor.rest_advance begins
          have later : (cursor.advanceBy (1 + 1)).rest = raw ++ '"' :: behind :=
            Cursor.rest_advance inner
          rw [quotedRest_of_escapeSequence begins (escapeSequence_escaped isEscape fuel inner),
            ih fuel (by omega) later]
          rfl
  | @numbered letter width code digits raw text isWidth isCode isValid isQuoted ih =>
      cases fuel with
      | zero => omega
      | succ fuel =>
          simp only [List.length_cons, List.length_append] at enough
          have inner : cursor.advance.rest = letter :: (digits ++ raw ++ '"' :: behind) :=
            Cursor.rest_advance begins
          rw [List.append_assoc] at inner
          have isLength := (readHex_append isCode).1
          have later := Cursor.rest_advanceBy (Cursor.rest_advance inner)
          rw [isLength] at later
          change (cursor.advanceBy (width + 1 + 1)).rest = _ at later
          have isAfter : (cursor.advanceBy (width + 1 + 1)).advanceBy (raw.length + 1) =
              cursor.advanceBy (('\\' :: letter :: (digits ++ raw)).length + 1) := by
            rw [← Cursor.advanceBy_add]
            congr 1
            simp only [List.length_cons, List.length_append]
            omega
          rw [quotedRest_of_escapeSequence begins
            (escapeSequence_numbered isWidth isCode isValid fuel inner), ← isAfter,
            ih fuel (by omega) later]
          rfl

theorem quotedScalar_of_isQuotedText (isQuoted : IsQuotedText raw text) (fuel : Nat)
    (enough : raw.length < fuel) (begins : cursor.rest = Json.quoted raw ++ behind) :
    quotedScalar '"' fuel cursor =
      .ok (String.ofList text, cursor.advanceBy (Json.quoted raw).length) := by
  have isText : Json.quoted raw ++ behind = '"' :: (raw ++ '"' :: behind) := by
    simp [Json.quoted]
  have isLength : (Json.quoted raw).length = raw.length + 2 := by
    simp [Json.quoted]
  rw [isText] at begins
  unfold quotedScalar
  rw [quotedRest_of_isQuotedText isQuoted fuel enough (Cursor.rest_advance begins), isLength]
  rfl

end

end Yaml
end ApiAccessors
