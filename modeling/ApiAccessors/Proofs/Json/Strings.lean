import ApiAccessors.Json.Writer
import ApiAccessors.Proofs.Text.Literal

namespace ApiAccessors
namespace Json

/-!
# Strings are read back

In its written form a character stands for itself, behind a backslash, or by its code units, of
which a character beyond the first plane has two.  The reader collects code units first and makes
characters of them in the end.  So it is shown for one character which units its written form gives,
and then that the units of characters make these characters again: the unit of a single character is
never half a pair, so it does not join with what follows.
-/

/-- The code units of a character. -/
def unitsOf (c : Char) : List Nat :=
  if c.toNat < 0x10000 then [c.toNat]
  else [0xD800 + (c.toNat - 0x10000) / 0x400, 0xDC00 + (c.toNat - 0x10000) % 0x400]

/-- Put code units in front of what has been read. -/
def prependUnits (units : List Nat) (outcome : Read (List Nat)) : Read (List Nat) :=
  units.foldr consUnit outcome

theorem prependUnits_ok (units others : List Nat) (rest : List Char) :
    prependUnits units (.ok (others, rest)) = .ok (units ++ others, rest) := by
  induction units with
  | nil => rfl
  | cons unit units ih =>
      change consUnit unit (prependUnits units _) = _
      rw [ih]
      rfl

private theorem isValidChar (c : Char) :
    c.toNat < 0xD800 ∨ 0xDFFF < c.toNat ∧ c.toNat < 0x110000 :=
  c.valid

theorem readUnits_plain (opened : Nat) {c : Char} (notQuote : c ≠ '"')
    (notBackslash : c ≠ '\\') (notControl : 0x20 ≤ c.toNat) (rest : List Char) :
    readUnits opened (c :: rest) = consUnit c.toNat (readUnits opened rest) := by
  rw [readUnits]
  · rw [if_neg (Nat.not_lt.mpr notControl)]
  all_goals
    intros
    contradiction

theorem readUnits_marked (opened : Nat) {mark c : Char}
    (isMark : escapedChar? mark = some c) (rest : List Char) :
    readUnits opened ('\\' :: mark :: rest) = consUnit c.toNat (readUnits opened rest) := by
  have notNumeric : mark ≠ 'u' := by
    rintro rfl
    cases isMark
  rw [readUnits]
  · rw [isMark]
  all_goals
    intros
    contradiction

private theorem fourHex?_write {unit : Nat} (small : unit < 0x10000) :
    ∃ a b c d, Text.HexCase.small.write 4 unit = [a, b, c, d] ∧ fourHex? a b c d = some unit := by
  refine ⟨_, _, _, _, rfl, ?_⟩
  have digit : ∀ number : Nat, Text.hexValue? (Text.HexCase.small.digit (number % 16)) =
      some (number % 16) :=
    fun number => Text.Literal.hexValue?_digit _ (Nat.mod_lt _ (by decide))
  have value : ((unit / 16 / 16 / 16 % 16 * 16 + unit / 16 / 16 % 16) * 16 + unit / 16 % 16) * 16 +
      unit % 16 = unit := by
    omega
  simp only [fourHex?, digit, bind, Option.bind, pure, value]

/-- A numeric escape is read as its unit, if anything follows it. -/
private theorem readUnits_unitEscape (opened : Nat) {unit : Nat} (small : unit < 0x10000)
    {rest : List Char} (follows : rest ≠ []) :
    readUnits opened (unitEscape unit ++ rest) = consUnit unit (readUnits opened rest) := by
  rcases fourHex?_write small with ⟨a, b, c, d, digits, isUnit⟩
  have isMore : rest.isEmpty = false := by simpa using follows
  unfold unitEscape
  rw [digits]
  change readUnits opened ('\\' :: 'u' :: a :: b :: c :: d :: rest) = _
  rw [readUnits, isUnit, isMore]

/-- The characters that stand behind a backslash. -/
private def markedChars : List Char := ['"', '\\', '\n', '\r', '\t', '\x0C', '\x08']

/-- The ways to write a character. -/
theorem writeChar_cases (c : Char) :
    (∃ mark, writeChar c = ['\\', mark] ∧ escapedChar? mark = some c ∧ c.toNat < 0x10000) ∨
      (writeChar c = [c] ∧ c ≠ '"' ∧ c ≠ '\\' ∧ 0x20 ≤ c.toNat ∧ c.toNat < 0x7F) ∨
      (writeChar c = unitEscape c.toNat ∧ c.toNat < 0x10000) ∨
      (writeChar c = unitEscape (0xD800 + (c.toNat - 0x10000) / 0x400) ++
        unitEscape (0xDC00 + (c.toNat - 0x10000) % 0x400) ∧ ¬c.toNat < 0x10000) := by
  by_cases isMarked : c ∈ markedChars
  · left
    simp only [markedChars, List.mem_cons, List.not_mem_nil, or_false] at isMarked
    rcases isMarked with rfl | rfl | rfl | rfl | rfl | rfl | rfl
    all_goals exact ⟨_, rfl, rfl, by decide⟩
  · right
    simp only [markedChars, List.mem_cons, List.not_mem_nil, or_false, not_or] at isMarked
    obtain ⟨quote, backslash, newline, back, tab, feed, rubout⟩ := isMarked
    unfold writeChar
    simp only [quote, backslash, newline, back, tab, feed, rubout, if_false]
    by_cases printable : (0x20 ≤ c.toNat && c.toNat < 0x7F) = true
    · rw [if_pos printable]
      simp only [Bool.and_eq_true, decide_eq_true_eq] at printable
      exact Or.inl ⟨rfl, quote, backslash, printable⟩
    · rw [if_neg printable]
      by_cases small : c.toNat < 0x10000
      · rw [if_pos small]
        exact Or.inr (Or.inl ⟨rfl, small⟩)
      · rw [if_neg small]
        exact Or.inr (Or.inr ⟨rfl, small⟩)

/-- A written character is read as its units. -/
theorem readUnits_writeChar (opened : Nat) (c : Char) {rest : List Char} (follows : rest ≠ []) :
    readUnits opened (writeChar c ++ rest) =
      prependUnits (unitsOf c) (readUnits opened rest) := by
  rcases writeChar_cases c with ⟨mark, written, isMark, small⟩ |
    ⟨written, notQuote, notBackslash, notControl, small⟩ | ⟨written, small⟩ | ⟨written, great⟩
  · rw [written, unitsOf, if_pos small]
    exact readUnits_marked opened isMark rest
  · rw [written, unitsOf, if_pos (by omega)]
    exact readUnits_plain opened notQuote notBackslash notControl rest
  · rw [written, unitsOf, if_pos small]
    exact readUnits_unitEscape opened small follows
  · have valid := isValidChar c
    have low := readUnits_unitEscape opened
      (show 0xDC00 + (c.toNat - 0x10000) % 0x400 < 0x10000 by omega) follows
    rw [written, unitsOf, if_neg great, List.append_assoc,
      readUnits_unitEscape opened (by omega) (by simp [unitEscape]), low]
    rfl

theorem readUnits_flatMap_writeChar (opened : Nat) (text rest : List Char) :
    readUnits opened (text.flatMap writeChar ++ '"' :: rest) =
      .ok (text.flatMap unitsOf, rest) := by
  induction text with
  | nil => rfl
  | cons c text ih =>
      rw [List.flatMap_cons, List.append_assoc, readUnits_writeChar opened c (by simp), ih,
        prependUnits_ok, List.flatMap_cons]

private theorem not_isSurrogate (c : Char) :
    isHighSurrogate c.toNat = false ∧ isLowSurrogate c.toNat = false := by
  have valid := isValidChar c
  simp only [isHighSurrogate, isLowSurrogate, Bool.and_eq_false_iff, decide_eq_false_iff_not]
  omega

/-- The two units of a character beyond the first plane are halves of a pair. -/
private theorem isSurrogate_of_le {c : Char} (great : ¬c.toNat < 0x10000) :
    isHighSurrogate (0xD800 + (c.toNat - 0x10000) / 0x400) = true ∧
      isLowSurrogate (0xDC00 + (c.toNat - 0x10000) % 0x400) = true := by
  have valid := isValidChar c
  simp only [isHighSurrogate, isLowSurrogate, Bool.and_eq_true_iff, decide_eq_true_eq]
  omega

/-- The units of a character make it again, whatever units follow. -/
theorem joinUnits_unitsOf (c : Char) (units : List Nat) :
    joinUnits (unitsOf c ++ units) = c :: joinUnits units := by
  have valid := isValidChar c
  by_cases small : c.toNat < 0x10000
  · rw [unitsOf, if_pos small, List.singleton_append]
    cases units with
    | nil => exact congrArg (fun made => [made]) (Char.ofNat_toNat c)
    | cons next rest =>
        rw [joinUnits, (not_isSurrogate c).1, Bool.false_and, if_neg Bool.false_ne_true,
          Char.ofNat_toNat]
  · have number : 0x10000 + (0xD800 + (c.toNat - 0x10000) / 0x400 - 0xD800) * 0x400 +
        (0xDC00 + (c.toNat - 0x10000) % 0x400 - 0xDC00) = c.toNat := by
      omega
    rw [unitsOf, if_neg small]
    change joinUnits (_ :: _ :: units) = _
    rw [joinUnits, (isSurrogate_of_le small).1, (isSurrogate_of_le small).2, Bool.true_and,
      if_pos rfl, pairedChar, number, Char.ofNat_toNat]

theorem arePaired_unitsOf (c : Char) (units : List Nat) :
    arePaired (unitsOf c ++ units) = arePaired units := by
  by_cases small : c.toNat < 0x10000
  · rw [unitsOf, if_pos small, List.singleton_append]
    cases units with
    | nil => simp only [arePaired, not_isSurrogate c, Bool.not_false, Bool.and_self]
    | cons next rest =>
        rw [arePaired, (not_isSurrogate c).1, (not_isSurrogate c).2, Bool.false_and,
          if_neg Bool.false_ne_true]
        rfl
  · rw [unitsOf, if_neg small]
    change arePaired (_ :: _ :: units) = _
    rw [arePaired, (isSurrogate_of_le small).1, (isSurrogate_of_le small).2, Bool.true_and,
      if_pos rfl]

theorem joinUnits_flatMap_unitsOf (text : List Char) : joinUnits (text.flatMap unitsOf) = text := by
  induction text with
  | nil => rfl
  | cons c text ih => rw [List.flatMap_cons, joinUnits_unitsOf, ih]

theorem arePaired_flatMap_unitsOf (text : List Char) :
    arePaired (text.flatMap unitsOf) = true := by
  induction text with
  | nil => rfl
  | cons c text ih => rw [List.flatMap_cons, arePaired_unitsOf, ih]

/-- A written string is read back, and what stands behind it is left. -/
theorem readString_writeString (opened : Nat) (text : String) (rest : List Char) :
    readString opened ((text.toList.flatMap writeChar ++ ['"']) ++ rest) =
      .ok (text.toList, rest) := by
  unfold readString
  rw [List.append_assoc, List.singleton_append, readUnits_flatMap_writeChar]
  simp only [arePaired_flatMap_unitsOf, joinUnits_flatMap_unitsOf, if_true]

end Json
end ApiAccessors
