namespace ApiAccessors
namespace Text

/-!
# Splitting

Cutting a text at single characters.  `splitWhere` cuts at every character that satisfies a test
and keeps empty pieces; the other functions cut once, at the first or at the last occurrence.
-/

/-- The pieces between the characters that satisfy the test, empty ones included. -/
def splitWhere (test : Char → Bool) : List Char → List (List Char)
  | [] => [[]]
  | c :: rest =>
      if test c then [] :: splitWhere test rest
      else
        match splitWhere test rest with
        | [] => [[c]]
        | piece :: pieces => (c :: piece) :: pieces

theorem splitWhere_eq_singleton {test : Char → Bool} {text : List Char}
    (none : ∀ c ∈ text, test c = false) : splitWhere test text = [text] := by
  induction text with
  | nil => rfl
  | cons c rest ih =>
      have parts := List.forall_mem_cons.mp none
      rw [splitWhere, parts.1, ih parts.2]
      rfl

/-- Characters that satisfy a test in front of one that does not, or of nothing, are found by it. -/
theorem span_append {test : Char → Bool} {front behind : List Char}
    (all : ∀ c ∈ front, test c = true) (ends : ∀ c ∈ behind.head?, test c = false) :
    (front ++ behind).takeWhile test = front ∧ (front ++ behind).dropWhile test = behind := by
  rw [List.takeWhile_append_of_pos all, List.dropWhile_append_of_pos all]
  cases behind with
  | nil => exact ⟨List.append_nil _, rfl⟩
  | cons c others =>
      have fails := ends c rfl
      rw [List.takeWhile_cons, List.dropWhile_cons, fails]
      exact ⟨List.append_nil _, rfl⟩

/-- The text before the first occurrence of a character, and the text after it if there is one. -/
def cutFirst (mark : Char) : List Char → List Char × Option (List Char)
  | [] => ([], none)
  | c :: rest =>
      if c = mark then ([], some rest)
      else
        let (before, after) := cutFirst mark rest
        (c :: before, after)

/-- The text after the last occurrence of a character, or the whole text if there is none. -/
def afterLast (mark : Char) (text : List Char) : List Char :=
  (text.reverse.takeWhile (· != mark)).reverse

/-- Whether one text occurs in another, neighbouring characters together. -/
def occursIn (part : List Char) : List Char → Bool
  | [] => part.isEmpty
  | c :: rest => part.isPrefixOf (c :: rest) || occursIn part rest

theorem occursIn_iff {part text : List Char} : occursIn part text = true ↔ part <:+: text := by
  induction text with
  | nil => rw [occursIn, List.isEmpty_iff, List.infix_nil]
  | cons c rest ih =>
      rw [occursIn, Bool.or_eq_true, List.isPrefixOf_iff_prefix, ih, List.infix_cons_iff]

theorem splitWhere_ne_nil (test : Char → Bool) (text : List Char) :
    splitWhere test text ≠ [] := by
  cases text with
  | nil => simp [splitWhere]
  | cons c rest =>
      simp only [splitWhere]
      split
      · simp
      · split <;> simp

end Text
end ApiAccessors
