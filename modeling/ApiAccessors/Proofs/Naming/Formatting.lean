import ApiAccessors.Proofs.Naming.Words

namespace ApiAccessors
namespace Naming

/-!
# Formatting names again

Capitalized words are joined with nothing between them, so a name that has been formatted is cut
again only where a small letter or digit stands before a capital.  Two words grow together if the
first of them leaves no such place behind it: it is a single letter, and the next word begins with a
letter.  This is the only way in which formatting a second time can change a name, and it shows in
the formatted name as two capitals side by side.

All this is about ASCII letters.  In general the case of a word cannot be undone by another case.
-/

section

variable {c : Char}

theorem isCapital_eq_isUpper (c : Char) : isCapital c = c.isUpper := by
  simp only [Char.isUpper, ge_iff_le, UInt32.le_iff_toNat_le, Bool.decide_and]
  rfl

theorem toNat_lt_of_isAlphanum (alphanum : c.isAlphanum = true) : c.toNat < 128 := by
  simp only [Char.isAlphanum, Char.isAlpha, Char.isUpper, Char.isLower, Char.isDigit,
    Bool.or_eq_true, Bool.and_eq_true, decide_eq_true_eq, UInt32.le_iff_toNat_le] at alphanum
  change ((65 ≤ c.toNat ∧ c.toNat ≤ 90) ∨ 97 ≤ c.toNat ∧ c.toNat ≤ 122) ∨
    48 ≤ c.toNat ∧ c.toNat ≤ 57 at alphanum
  omega

/-- What can be checked for the ASCII codes holds of every letter and digit. -/
theorem forall_alphanum (holds : Char → Prop)
    (checked : ∀ code < 128, (Char.ofNat code).isAlphanum = true → holds (Char.ofNat code))
    (alphanum : c.isAlphanum = true) : holds c :=
  Text.forall_ascii (fun c => c.isAlphanum = true → holds c) checked
    (toNat_lt_of_isAlphanum alphanum) alphanum

theorem isDelimiter_of_isAlphanum (alphanum : c.isAlphanum = true) : isDelimiter c = false := by
  apply forall_alphanum _ _ alphanum
  decide

theorem isAlphanum_case (alphanum : c.isAlphanum = true) :
    c.toUpper.isAlphanum = true ∧ c.toLower.isAlphanum = true := by
  apply forall_alphanum (fun c => c.toUpper.isAlphanum = true ∧ c.toLower.isAlphanum = true) _
    alphanum
  decide

/-- Among letters and digits, words end between what is no capital and a capital. -/
theorem isBoundary_of_isAlphanum (alphanum : c.isAlphanum = true) (next : Char) :
    isBoundary c next = (!c.isUpper && next.isUpper) := by
  have small : (isSmall c || Text.isAsciiDigit c) = !c.isUpper := by
    apply forall_alphanum (fun c => (isSmall c || Text.isAsciiDigit c) = !c.isUpper) _ alphanum
    decide
  rw [isBoundary, small, isCapital_eq_isUpper]

theorem toLower_eq_self_iff : c.toLower = c ↔ c.isUpper = false := by
  constructor
  · intro same
    rw [← same]
    exact Char.isUpper_toLower_eq_false c
  · intro notCapital
    exact Char.toLower_eq_of_not_isUpper (Bool.eq_false_iff.mp notCapital)

end

/-- A capital begins the word and small letters follow. -/
theorem capitalize_cons {first : Char} {rest : List Char} (ascii : Text.IsAscii (first :: rest)) :
    capitalize (first :: rest) = first.toUpper :: rest.map Char.toLower := by
  rcases List.forall_mem_cons.mp ascii with ⟨here, behind⟩
  rw [capitalize, Text.upperOf_of_ascii here, Text.lower_of_ascii behind, List.singleton_append]

/-- The case in which a word is given does not matter. -/
theorem capitalize_map_toLower {word : List Char} (ascii : Text.IsAscii word) :
    capitalize (word.map Char.toLower) = capitalize word := by
  cases word with
  | nil => rfl
  | cons first rest =>
      have lowered := Text.isAscii_map_toLower_iff.mpr ascii
      rw [List.map_cons] at lowered ⊢
      rw [capitalize_cons lowered, capitalize_cons ascii, Char.toUpper_toLower_eq_toUpper,
        Text.map_toLower_map_toLower]

/-- A text in which no two capitals stand side by side. -/
def CapitalsApart (text : List Char) : Prop :=
  text.IsChain (fun before after => ¬(before.isUpper = true ∧ after.isUpper = true))

theorem capitalsApart_cons_cons {c next : Char} {rest : List Char} :
    CapitalsApart (c :: next :: rest) ↔
      ¬(c.isUpper = true ∧ next.isUpper = true) ∧ CapitalsApart (next :: rest) := by
  unfold CapitalsApart
  exact List.isChain_cons_cons

theorem HasWords.isAscii {text word : List Char} {found : List (List Char)}
    (has : HasWords text found) (alphanum : ∀ c ∈ text, c.isAlphanum = true)
    (member : word ∈ found) : Text.IsAscii word := by
  intro c within
  exact toNat_lt_of_isAlphanum (alphanum c (has.mem_of_mem member c within).1)

/-- Capitalizing the words of letters and digits changes nothing behind the first of them if and
only if the capitals are apart.  The first one is left out because in the induction it may be a
small letter within a word. -/
theorem tail_capitalized_iff {text : List Char} {found : List (List Char)}
    (has : HasWords text found) (alphanum : ∀ c ∈ text, c.isAlphanum = true) :
    (found.flatMap capitalize).tail = text.tail ↔ CapitalsApart text := by
  induction has with
  | nothing => exact iff_of_true rfl List.isChain_nil
  | delimiter marks later ih =>
      have letter := isDelimiter_of_isAlphanum (alphanum _ List.mem_cons_self)
      rw [letter] at marks
      cases marks
  | @ends c rest found letter apart later ih =>
      rcases List.forall_mem_cons.mp alphanum with ⟨here, behind⟩
      have single : capitalize [c] = [c.toUpper] :=
        capitalize_cons (List.forall_mem_singleton.mpr (toNat_lt_of_isAlphanum here))
      rw [List.flatMap_cons, single, List.singleton_append, List.tail_cons, List.tail_cons]
      cases rest with
      | nil =>
          cases later
          exact iff_of_true rfl (List.isChain_singleton _)
      | cons next others =>
          have nextLetter := isDelimiter_of_isAlphanum (behind next List.mem_cons_self)
          have boundary := (apart next rfl).resolve_left (Bool.eq_false_iff.mp nextLetter)
          rw [isBoundary_of_isAlphanum here, Bool.and_eq_true, Bool.not_eq_true'] at boundary
          rcases boundary with ⟨notCapital, nextCapital⟩
          rcases later.exists_first nextLetter with ⟨word, more, same⟩
          have isFirst : capitalize (next :: word) = next :: word.map Char.toLower := by
            rw [capitalize_cons (later.isAscii behind (same ▸ List.mem_cons_self)),
              Char.toUpper_eq_of_not_isLower (Char.not_isLower_of_isUpper nextCapital)]
          have opens : found.flatMap capitalize = next :: (found.flatMap capitalize).tail := by
            rw [same, List.flatMap_cons, isFirst]
            rfl
          calc
            found.flatMap capitalize = next :: others ↔
                (found.flatMap capitalize).tail = others := by
              rw [opens, List.tail_cons, List.cons.injEq, eq_self, true_and]
            _ ↔ CapitalsApart (next :: others) := ih behind
            _ ↔ CapitalsApart (c :: next :: others) := by
              simp [capitalsApart_cons_cons, notCapital]
  | @continues c next rest word found letter nextLetter joined later ih =>
      rcases List.forall_mem_cons.mp alphanum with ⟨here, behind⟩
      have nextAscii := later.isAscii behind List.mem_cons_self
      have wholeAscii : Text.IsAscii (c :: next :: word) :=
        List.forall_mem_cons.mpr ⟨toNat_lt_of_isAlphanum here, nextAscii⟩
      have known := ih behind
      rw [List.flatMap_cons, capitalize_cons nextAscii] at known
      rw [List.flatMap_cons, capitalize_cons wholeAscii]
      rw [isBoundary_of_isAlphanum here] at joined
      have capitals : next.isUpper = false ↔ ¬(c.isUpper = true ∧ next.isUpper = true) := by
        cases first : c.isUpper <;> cases second : next.isUpper <;> simp [first, second] at joined ⊢
      calc
        next.toLower :: (word.map Char.toLower ++ found.flatMap capitalize) = next :: rest ↔
            next.toLower = next ∧ word.map Char.toLower ++ found.flatMap capitalize = rest :=
          List.cons_eq_cons
        _ ↔ ¬(c.isUpper = true ∧ next.isUpper = true) ∧ CapitalsApart (next :: rest) := by
          rw [toLower_eq_self_iff, capitals]
          exact and_congr_right' known
        _ ↔ CapitalsApart (c :: next :: rest) := capitalsApart_cons_cons.symm

/-- A name of letters and digits that does not begin with a small letter is left as it is if and
only if its capitals are apart. -/
theorem pascalCase_eq_self_iff {title : String}
    (alphanum : ∀ c ∈ title.toList, c.isAlphanum = true)
    (opens : ∀ first ∈ title.toList.head?, first.isLower = false) :
    pascalCase title = title ↔ CapitalsApart title.toList := by
  have has := hasWords_words title.toList
  have tails := tail_capitalized_iff has alphanum
  unfold pascalCase
  rw [← tails, ← String.toList_inj, String.toList_ofList]
  cases isText : title.toList with
  | nil =>
      rw [isText] at has
      cases has with
      | nothing => exact Iff.rfl
  | cons first rest =>
      rw [isText] at has alphanum opens
      have letter := isDelimiter_of_isAlphanum (alphanum first List.mem_cons_self)
      rcases has.exists_first letter with ⟨word, others, same⟩
      have ascii := has.isAscii alphanum (same ▸ List.mem_cons_self)
      have kept : first.toUpper = first :=
        Char.toUpper_eq_of_not_isLower (Bool.eq_false_iff.mp (opens first rfl))
      rw [same, List.flatMap_cons, capitalize_cons ascii, kept, List.cons_append]
      exact List.cons_inj_right first

/-- A name of ASCII letters and digits, dashes, underscores and white space. -/
def IsPlain (name : String) : Prop :=
  ∀ c ∈ name.toList, c.isAlphanum = true ∨ isDelimiter c = true

theorem all_iff_isPlain (name : String) :
    name.toList.all (fun c => c.isAlphanum || isDelimiter c) = true ↔ IsPlain name := by
  simp only [IsPlain, List.all_eq_true, Bool.or_eq_true]

instance (name : String) : Decidable (IsPlain name) :=
  decidable_of_iff _ (all_iff_isPlain name)

/-- A word that is a single letter. -/
def isLoneLetter : List Char → Bool
  | [c] => c.isAlpha
  | _ => false

/-- A word that begins with a letter. -/
def opensWithLetter (word : List Char) : Bool := word.head?.any Char.isAlpha

section

variable {name : String}

theorem IsPlain.isAlphanum (plain : IsPlain name) {word : List Char}
    (member : word ∈ words name.toList) : ∀ c ∈ word, c.isAlphanum = true := by
  intro c within
  rcases (hasWords_words name.toList).mem_of_mem member c within with ⟨inName, letter⟩
  exact (plain c inName).resolve_right (Bool.eq_false_iff.mp letter)

/-- The words of a plain name are capitalized letter by letter. -/
theorem IsPlain.exists_capitalized (plain : IsPlain name) {word : List Char}
    (member : word ∈ words name.toList) :
    ∃ first rest, word = first :: rest ∧
      capitalize word = first.toUpper :: rest.map Char.toLower := by
  cases word with
  | nil => exact absurd member (nil_not_mem_words _)
  | cons first rest =>
      have ascii : Text.IsAscii (first :: rest) :=
        fun c within => toNat_lt_of_isAlphanum (plain.isAlphanum member c within)
      exact ⟨first, rest, rfl, capitalize_cons ascii⟩

/-- A formatted name has letters and digits only. -/
theorem IsPlain.isAlphanum_pascalCase (plain : IsPlain name) :
    ∀ c ∈ (pascalCase name).toList, c.isAlphanum = true := by
  intro c within
  unfold pascalCase at within
  rw [String.toList_ofList] at within
  rcases List.mem_flatMap.mp within with ⟨word, member, inWord⟩
  have alphanum := plain.isAlphanum member
  rcases plain.exists_capitalized member with ⟨first, rest, same, isCapitalized⟩
  rw [same] at alphanum
  rcases List.forall_mem_cons.mp alphanum with ⟨here, behind⟩
  rw [isCapitalized] at inWord
  rcases List.mem_cons.mp inWord with isFirst | isLater
  · rw [isFirst]
    exact (isAlphanum_case here).1
  · rcases List.mem_map.mp isLater with ⟨given, isGiven, isLower⟩
    rw [← isLower]
    exact (isAlphanum_case (behind given isGiven)).2

/-- A formatted name begins with no small letter. -/
theorem IsPlain.head_pascalCase (plain : IsPlain name) :
    ∀ first ∈ (pascalCase name).toList.head?, first.isLower = false := by
  intro first isFirst
  unfold pascalCase at isFirst
  rw [String.toList_ofList] at isFirst
  cases isWords : words name.toList with
  | nil =>
      rw [isWords] at isFirst
      cases isFirst
  | cons word others =>
      rcases plain.exists_capitalized (isWords ▸ List.mem_cons_self) with
        ⟨c, rest, -, isCapitalized⟩
      rw [isWords, List.flatMap_cons, isCapitalized] at isFirst
      cases isFirst
      exact Char.isLower_toUpper_eq_false c

/-- Within a capitalized word no two capitals are neighbours. -/
theorem capitalsApart_capitalized (first : Char) (rest : List Char) :
    CapitalsApart (first.toUpper :: rest.map Char.toLower) := by
  have small : ∀ rest : List Char, CapitalsApart (rest.map Char.toLower) := by
    intro rest
    apply (List.isChain_map Char.toLower).mpr
    induction rest with
    | nil => exact List.isChain_nil
    | cons c later ih => exact ih.cons (by simp)
  exact (small rest).cons (by simp)

/-- A capital ends a capitalized word only if the word is a single letter. -/
theorem isUpper_getLast_capitalized_iff (first : Char) (rest : List Char) :
    (∃ last ∈ (first.toUpper :: rest.map Char.toLower).getLast?, last.isUpper = true) ↔
      isLoneLetter (first :: rest) = true := by
  cases rest with
  | nil =>
      rw [List.map_nil, List.getLast?_singleton, isLoneLetter]
      simp only [Option.mem_some_iff, exists_eq_left', Char.isUpper_toUpper_eq_isAlpha]
  | cons c later =>
      constructor
      · rintro ⟨last, isLast, capital⟩
        rw [List.map_cons, List.getLast?_cons_cons, ← List.map_cons, List.getLast?_map] at isLast
        rcases Option.map_eq_some_iff.mp isLast with ⟨given, -, same⟩
        rw [← same, Char.isUpper_toLower_eq_false] at capital
        cases capital
      · intro lone
        cases lone

/-- The capitals of a formatted name are apart if and only if no single letter is directly followed
by a word that begins with a letter.  Within a word there is nothing to show, so only the places
where two words meet are looked at. -/
theorem capitalsApart_pascalCase_iff (plain : IsPlain name) :
    CapitalsApart (pascalCase name).toList ↔ (words name.toList).IsChain
      (fun word next => ¬(isLoneLetter word = true ∧ opensWithLetter next = true)) := by
  have noneEmpty : [] ∉ (words name.toList).map capitalize := by
    intro member
    rcases List.mem_map.mp member with ⟨word, isWord, empty⟩
    rcases plain.exists_capitalized isWord with ⟨first, rest, -, isCapitalized⟩
    rw [isCapitalized] at empty
    cases empty
  have within : ∀ word ∈ (words name.toList).map capitalize, CapitalsApart word := by
    intro word member
    rcases List.mem_map.mp member with ⟨given, isWord, same⟩
    rcases plain.exists_capitalized isWord with ⟨first, rest, -, isCapitalized⟩
    rw [← same, isCapitalized]
    exact capitalsApart_capitalized first rest
  have meets : ∀ word next, word ∈ words name.toList → next ∈ words name.toList →
      ((∀ last ∈ (capitalize word).getLast?, ∀ first ∈ (capitalize next).head?,
        ¬(last.isUpper = true ∧ first.isUpper = true)) ↔
      ¬(isLoneLetter word = true ∧ opensWithLetter next = true)) := by
    intro word next isWord isNext
    rcases plain.exists_capitalized isWord with ⟨first, rest, sameWord, isCapitalized⟩
    rcases plain.exists_capitalized isNext with ⟨second, others, sameNext, isNextCapitalized⟩
    have lone := isUpper_getLast_capitalized_iff first rest
    rw [isCapitalized, isNextCapitalized, sameWord, sameNext, ← lone]
    simp [opensWithLetter, Char.isUpper_toUpper_eq_isAlpha]
  unfold pascalCase
  rw [String.toList_ofList, List.flatMap_def]
  unfold CapitalsApart at within ⊢
  rw [List.isChain_flatten noneEmpty, and_iff_right within, List.isChain_map]
  exact List.IsChain.iff_of_mem_imp meets

/-- Formatting a formatted name changes nothing if and only if among the words of the name no single
letter is directly followed by a word that begins with a letter. -/
theorem pascalCase_twice_iff (plain : IsPlain name) :
    pascalCase (pascalCase name) = pascalCase name ↔ (words name.toList).IsChain
      (fun word next => ¬(isLoneLetter word = true ∧ opensWithLetter next = true)) := by
  rw [pascalCase_eq_self_iff plain.isAlphanum_pascalCase plain.head_pascalCase]
  exact capitalsApart_pascalCase_iff plain

end

private theorem words_planB :
    words "plan_b  2nd-try".toList = ["plan".toList, ['b'], "2nd".toList, "try".toList] := by
  decide

/-- A digit behind a single letter keeps it apart; another letter does not. -/
theorem pascalCase_twice_iff_planB :
    IsPlain "plan_b  2nd-try" ∧ pascalCase "plan_b  2nd-try" = "PlanB2ndTry" ∧
    pascalCase (pascalCase "plan_b  2nd-try") = pascalCase "plan_b  2nd-try" ∧
    IsPlain "planB\ttry" ∧ pascalCase (pascalCase "planB\ttry") ≠ pascalCase "planB\ttry" := by
  have plain : IsPlain "plan_b  2nd-try" := by decide
  have otherPlain : IsPlain "planB\ttry" := by decide
  refine ⟨plain, by decide, ?_, otherPlain, ?_⟩
  · apply (pascalCase_twice_iff plain).mpr
    rw [words_planB]
    decide
  · intro same
    have apart := (pascalCase_twice_iff otherPlain).mp same
    revert apart
    decide

end Naming
end ApiAccessors
