import ApiAccessors.Text.Case
import ApiAccessors.Text.Digits
import Mathlib

namespace ApiAccessors
namespace Text

/-!
# Case of ASCII texts

The case tables cover all scripts, and in general the case of a text is more than the case of its
characters: a character can become several ones, and a sigma depends on its neighbours.  For ASCII
nothing of this happens.  There the tables agree with the plain case mappings of characters, whose
laws can then be used, and a text is mapped character by character.
-/

def IsAscii (text : List Char) : Prop := ∀ c ∈ text, c.toNat < 128

theorem all_iff_isAscii (text : List Char) :
    text.all (fun c => decide (c.toNat < 128)) = true ↔ IsAscii text := by
  simp only [List.all_eq_true, decide_eq_true_eq, IsAscii]

instance isAsciiDecidable (text : List Char) : Decidable (IsAscii text) :=
  decidable_of_iff _ (all_iff_isAscii text)

/-- What can be checked for each of the ASCII codes holds of every ASCII character. -/
theorem forall_ascii (holds : Char → Prop) (checked : ∀ code < 128, holds (Char.ofNat code))
    {c : Char} (isAscii : c.toNat < 128) : holds c := by
  have result := checked c.toNat isAscii
  rwa [Char.ofNat_toNat] at result

theorem lowerOf_of_ascii {c : Char} (isAscii : c.toNat < 128) : lowerOf c = [c.toLower] := by
  apply forall_ascii _ _ isAscii
  decide

theorem upperOf_of_ascii {c : Char} (isAscii : c.toNat < 128) : upperOf c = [c.toUpper] := by
  apply forall_ascii _ _ isAscii
  decide

theorem isAscii_of_digit {c : Char} (isDigit : isAsciiDigit c = true) : c.toNat < 128 := by
  simp only [isAsciiDigit, Bool.and_eq_true, decide_eq_true_eq] at isDigit
  exact Nat.lt_of_le_of_lt isDigit.2 (by decide)

/-- The digits of ASCII are those of the decimal system. -/
theorem isDecimal_of_ascii {c : Char} (isAscii : c.toNat < 128) : isDecimal c = c.isDigit := by
  apply forall_ascii _ _ isAscii
  decide

/-- Only ASCII characters have an ASCII character as their small letter. -/
theorem toLower_ascii_iff {c : Char} : c.toLower.toNat < 128 ↔ c.toNat < 128 := by
  by_cases capital : c.isUpper = true
  · simp only [Char.isUpper, ge_iff_le, UInt32.le_iff_toNat_le, decide_eq_true_eq] at capital
    have isAscii : c.toNat < 128 := lt_of_le_of_lt capital.2 (by decide)
    apply iff_of_true _ isAscii
    apply forall_ascii (fun c => c.toLower.toNat < 128) _ isAscii
    decide
  · rw [Char.toLower_eq_of_not_isUpper capital]

theorem isUpper_of_mem_map_toLower {text : List Char} :
    ∀ c ∈ text.map Char.toLower, c.isUpper = false :=
  List.forall_mem_map.mpr (fun c _ => Char.isUpper_toLower_eq_false c)

theorem map_toLower_map_toLower (text : List Char) :
    (text.map Char.toLower).map Char.toLower = text.map Char.toLower := by
  simp

theorem lowerAfter_of_ascii {cased : Bool} {text : List Char} (ascii : IsAscii text) :
    lowerAfter cased text = text.map Char.toLower := by
  induction text generalizing cased with
  | nil => rfl
  | cons c rest ih =>
      rcases List.forall_mem_cons.mp ascii with ⟨here, behind⟩
      have noSigma : c ≠ 'Σ' := by
        intro sigma
        rw [sigma] at here
        exact absurd here (by decide)
      rw [lowerAfter, if_neg noSigma, lowerOf_of_ascii here, ih behind, List.map_cons,
        List.singleton_append]

/-- Lower case of an ASCII text is made character by character. -/
theorem lower_of_ascii {text : List Char} (ascii : IsAscii text) :
    lower text = text.map Char.toLower :=
  lowerAfter_of_ascii ascii

theorem isAscii_map_toLower_iff {text : List Char} :
    IsAscii (text.map Char.toLower) ↔ IsAscii text := by
  unfold IsAscii
  rw [List.forall_mem_map]
  exact forall₂_congr (fun _ _ => toLower_ascii_iff)

end Text
end ApiAccessors
