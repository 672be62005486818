import ApiAccessors.Json.Reader
import ApiAccessors.Proofs.Naming.FreeNumber
import Mathlib.Data.List.TakeWhile

namespace ApiAccessors
namespace Json

/-!
# Integers are read back

An integer is written in decimal digits, which the reader takes for an integer again as long as
nothing behind them continues the number.
-/

/-- A text does not continue a number in front of it. -/
def EndsNumber (text : List Char) : Prop :=
  ∀ c ∈ text.head?, Text.isAsciiDigit c = false ∧ c ≠ '.' ∧ c ≠ 'e' ∧ c ≠ 'E'

theorem readFraction_of_endsNumber {text : List Char} (ends : EndsNumber text) :
    readFraction text = none := by
  unfold readFraction
  split
  · exact absurd rfl (ends '.' rfl).2.1
  · rfl

theorem readExponent_of_endsNumber {text : List Char} (ends : EndsNumber text) :
    readExponent text = none := by
  unfold readExponent
  split
  · rfl
  · rename_i mark rest
    have facts := ends mark rfl
    simp [facts.2.2.1, facts.2.2.2]

theorem digitsValue_toDigits (number : Nat) : digitsValue (Nat.toDigits 10 number) = number := by
  have same : ∀ (digits : List Char) (begun : Nat),
      digits.foldl (fun number c => number * 10 + (c.toNat - '0'.toNat)) begun =
        Nat.ofDigitChars 10 digits begun := by
    intro digits begun
    rw [Nat.ofDigitChars_eq_foldl]
    congr 1
    funext number c
    rw [Nat.mul_comm]
  exact (same _ 0).trans Nat.ofDigitChars_ten_toDigits

theorem isAsciiDigit_of_mem_toDigits {number : Nat} {c : Char}
    (member : c ∈ Nat.toDigits 10 number) : Text.isAsciiDigit c = true := by
  rw [← Nat.toList_repr] at member
  exact Naming.isAsciiDigit_of_mem_toString member

/-- No digits stand behind a leading zero. -/
theorem toDigits_head_ne_zero {number : Nat} (positive : 0 < number) :
    (Nat.toDigits 10 number).head? ≠ some '0' := by
  induction number using Nat.strongRecOn with
  | ind number ih =>
      by_cases single : number < 10
      · rw [Nat.toDigits_of_lt_base single]
        intro isZero
        have zero : number = 0 := by simpa using isZero
        omega
      · have tens := ih (number / 10) (by omega) (by omega)
        rw [Nat.toDigits_of_base_le (by decide) (by omega)]
        rw [List.head?_append_of_ne_nil _ Nat.toDigits_ne_nil]
        exact tens

private theorem split_of_endsNumber {rest : List Char} (ends : EndsNumber rest) :
    rest.takeWhile Text.isAsciiDigit = [] ∧ rest.dropWhile Text.isAsciiDigit = rest := by
  cases rest with
  | nil => exact ⟨rfl, rfl⟩
  | cons c others =>
      have noDigit := (ends c rfl).1
      rw [List.takeWhile_cons, List.dropWhile_cons, noDigit]
      exact ⟨rfl, rfl⟩

theorem readWhole_toDigits (number : Nat) {rest : List Char} (ends : EndsNumber rest) :
    readWhole (Nat.toDigits 10 number ++ rest) = some (Nat.toDigits 10 number, rest) := by
  by_cases zero : number = 0
  · rw [zero, Nat.toDigits_zero]
    rfl
  · have noZero := toDigits_head_ne_zero (Nat.pos_of_ne_zero zero)
    have areDigits : ∀ c ∈ Nat.toDigits 10 number, Text.isAsciiDigit c = true :=
      fun c member => isAsciiDigit_of_mem_toDigits member
    have notEmpty : Nat.toDigits 10 number ≠ [] := Nat.toDigits_ne_nil
    rcases split_of_endsNumber ends with ⟨noDigits, isRest⟩
    rw [readWhole]
    · rw [List.takeWhile_append_of_pos areDigits, List.dropWhile_append_of_pos areDigits, noDigits,
        isRest, List.append_nil, if_neg (by simp)]
    · intro others begins
      have isFirst := congrArg List.head? begins
      rw [List.head?_append_of_ne_nil _ notEmpty] at isFirst
      exact noZero isFirst

theorem toList_toString (value : Int) :
    (toString value).toList =
      if 0 ≤ value then Nat.toDigits 10 value.natAbs
      else '-' :: Nat.toDigits 10 value.natAbs := by
  rw [Int.toString_eq_repr, Int.repr_eq_if]
  split
  · have same : value.toNat = value.natAbs := by omega
    rw [Nat.toList_repr, same]
  · have same : (-value).toNat = value.natAbs := by omega
    rw [String.toList_append, Nat.toList_repr, same]
    rfl

/-- A written integer is read back, if it is not too long and nothing behind it continues it. -/
theorem readNumber_toString {value : Int} {rest : List Char}
    (short : (toString value.natAbs).length ≤ Text.digitLimit) (ends : EndsNumber rest) :
    readNumber ((toString value).toList ++ rest) = .ok (.int value, rest) := by
  have notLong : ¬Text.digitLimit < (Nat.toDigits 10 value.natAbs).length := by
    have digits : (toString value.natAbs).toList = Nat.toDigits 10 value.natAbs := Nat.toList_repr
    rw [← digits, String.length_toList]
    exact Nat.not_lt.mpr short
  have whole := readWhole_toDigits value.natAbs ends
  have fraction := readFraction_of_endsNumber ends
  have exponent := readExponent_of_endsNumber ends
  rw [toList_toString]
  split
  · rename_i notNegative
    have noSign : ∀ others, Nat.toDigits 10 value.natAbs ++ rest ≠ '-' :: others := by
      intro others begins
      have isFirst := congrArg List.head? begins
      rw [List.head?_append_of_ne_nil _ Nat.toDigits_ne_nil] at isFirst
      have isDigit := isAsciiDigit_of_mem_toDigits (List.mem_of_mem_head? isFirst)
      exact absurd isDigit (by decide)
    unfold readNumber
    split
    rename_i negative unsigned isUnsigned
    split at isUnsigned
    · rename_i others begins
      exact absurd begins (noSign others)
    · cases isUnsigned
      have isValue : (value.natAbs : Int) = value := by omega
      simp only [whole, fraction, exponent, Option.map_none, Option.getD_none, if_neg notLong,
        digitsValue_toDigits, Bool.false_eq_true, if_false, isValue]
  · rename_i isNegative
    have isValue : -(value.natAbs : Int) = value := by omega
    unfold readNumber
    simp only [List.cons_append, whole, fraction, exponent, Option.map_none, Option.getD_none,
      if_neg notLong, digitsValue_toDigits, if_true, isValue]

end Json
end ApiAccessors
