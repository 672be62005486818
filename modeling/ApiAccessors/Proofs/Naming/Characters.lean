import ApiAccessors.Naming.Words
import ApiAccessors.Proofs.Text.IdentifierChars
import ApiAccessors.Proofs.Text.UpperCase

namespace ApiAccessors
namespace Naming

/-!
# Characters of made names

Names with underscores are made by putting marks between characters and by taking lower case.
Neither brings in a character that could end a name or a path: apart from what stands in the given
name there are only underscores and characters from the small letters on.  Names without underscores
are made by cutting at them, and taking upper or lower case brings none back.
-/

theorem markBetween_cons_cons (test : Char → Char → Bool) (mark first second : Char)
    (rest : List Char) : markBetween test mark (first :: second :: rest) =
      if test first second then first :: mark :: markBetween test mark (second :: rest)
      else first :: markBetween test mark (second :: rest) :=
  rfl

theorem markCapitalRuns_cons (first second third : Char) (rest : List Char) :
    markCapitalRuns (first :: second :: third :: rest) =
      if isCapital first && isCapital second && isSmall third then
        first :: '_' :: markCapitalRuns (second :: third :: rest)
      else first :: markCapitalRuns (second :: third :: rest) :=
  rfl

theorem mem_markBetween {test : Char → Char → Bool} {mark c : Char} {name : List Char}
    (member : c ∈ markBetween test mark name) : c = mark ∨ c ∈ name := by
  induction name with
  | nil => cases member
  | cons first rest ih =>
      cases rest with
      | nil => exact Or.inr member
      | cons second later =>
          rw [markBetween_cons_cons] at member
          split at member
          · rcases List.mem_cons.mp member with here | afterwards
            · exact Or.inr (here ▸ List.mem_cons_self)
            · rcases List.mem_cons.mp afterwards with isMark | behind
              · exact Or.inl isMark
              · exact (ih behind).imp_right (List.mem_cons_of_mem _)
          · rcases List.mem_cons.mp member with here | behind
            · exact Or.inr (here ▸ List.mem_cons_self)
            · exact (ih behind).imp_right (List.mem_cons_of_mem _)

theorem subset_markBetween (test : Char → Char → Bool) (mark : Char) (name : List Char) :
    name ⊆ markBetween test mark name := by
  induction name with
  | nil => exact List.Subset.refl _
  | cons first rest ih =>
      cases rest with
      | nil => exact List.Subset.refl _
      | cons second later =>
          rw [markBetween_cons_cons]
          split
          · exact List.cons_subset_cons _ (List.Subset.trans ih (List.subset_cons_self _ _))
          · exact List.cons_subset_cons _ ih

theorem head?_markBetween (test : Char → Char → Bool) (mark : Char) (name : List Char) :
    (markBetween test mark name).head? = name.head? := by
  rcases name with _ | ⟨first, _ | ⟨second, later⟩⟩
  · rfl
  · rfl
  · rw [markBetween_cons_cons]
    split
    · rfl
    · rfl

theorem markBetween_eq_nil_iff {test : Char → Char → Bool} {mark : Char} {name : List Char} :
    markBetween test mark name = [] ↔ name = [] := by
  rw [← List.head?_eq_none_iff, head?_markBetween, List.head?_eq_none_iff]

theorem mem_markCapitalRuns {c : Char} {name : List Char} (member : c ∈ markCapitalRuns name) :
    c = '_' ∨ c ∈ name := by
  induction name with
  | nil => exact Or.inr member
  | cons first rest ih =>
      rcases rest with _ | ⟨second, _ | ⟨third, later⟩⟩
      · exact Or.inr member
      · exact Or.inr member
      · rw [markCapitalRuns_cons] at member
        split at member
        · rcases List.mem_cons.mp member with here | afterwards
          · exact Or.inr (here ▸ List.mem_cons_self)
          · rcases List.mem_cons.mp afterwards with isMark | behind
            · exact Or.inl isMark
            · exact (ih behind).imp_right (List.mem_cons_of_mem _)
        · rcases List.mem_cons.mp member with here | behind
          · exact Or.inr (here ▸ List.mem_cons_self)
          · exact (ih behind).imp_right (List.mem_cons_of_mem _)

theorem subset_markCapitalRuns (name : List Char) : name ⊆ markCapitalRuns name := by
  induction name with
  | nil => exact List.Subset.refl _
  | cons first rest ih =>
      rcases rest with _ | ⟨second, _ | ⟨third, later⟩⟩
      · exact List.Subset.refl _
      · exact List.Subset.refl _
      · rw [markCapitalRuns_cons]
        split
        · exact List.cons_subset_cons _ (List.Subset.trans ih (List.subset_cons_self _ _))
        · exact List.cons_subset_cons _ ih

theorem head?_markCapitalRuns (name : List Char) :
    (markCapitalRuns name).head? = name.head? := by
  rcases name with _ | ⟨first, _ | ⟨second, _ | ⟨third, later⟩⟩⟩
  · rfl
  · rfl
  · rfl
  · rw [markCapitalRuns_cons]
    split
    · rfl
    · rfl

/-- Beside the characters of the name there are underscores and characters that are not below the
small letters. -/
theorem mem_snakeCase {name : String} {c : Char} (member : c ∈ (snakeCase name).toList) :
    c ∈ name.toList ∨ c = '_' ∨ 0x61 ≤ c.toNat := by
  unfold snakeCase at member
  rw [String.toList_ofList] at member
  rcases Text.mem_lower member with marked | above
  · rcases mem_markBetween marked with isMark | inner
    · exact Or.inr (Or.inl isMark)
    · rcases mem_markCapitalRuns inner with isMark | given
      · exact Or.inr (Or.inl isMark)
      · exact Or.inl given
  · exact Or.inr (Or.inr above)

private theorem underscore_continues : Text.identifierContinueTable.has '_' = true := by
  decide

private theorem isWord_underscore : Text.isWord '_' = true := by
  decide

/-- Word characters open an identifier if and only if they do so with underscores and in lower
case. -/
theorem opensIdentifier_snakeCase_iff {name : List Char}
    (inWords : ∀ c ∈ name, Text.isWord c = true) :
    Text.OpensIdentifier (snakeCase (String.ofList name)).toList ↔ Text.OpensIdentifier name := by
  have runs : Text.OpensIdentifier (markCapitalRuns name) ↔ Text.OpensIdentifier name := by
    apply Text.opensIdentifier_iff_of_head? (head?_markCapitalRuns name)
      (subset_markCapitalRuns name)
    intro c member
    rcases mem_markCapitalRuns member with isMark | given
    · exact Or.inl (isMark ▸ underscore_continues)
    · exact Or.inr given
  have steps : Text.OpensIdentifier (markBetween isStep '_' (markCapitalRuns name)) ↔
      Text.OpensIdentifier (markCapitalRuns name) := by
    apply Text.opensIdentifier_iff_of_head? (head?_markBetween _ _ _) (subset_markBetween _ _ _)
    intro c member
    rcases mem_markBetween member with isMark | given
    · exact Or.inl (isMark ▸ underscore_continues)
    · exact Or.inr given
  have marked : ∀ c ∈ markBetween isStep '_' (markCapitalRuns name), Text.isWord c = true := by
    intro c member
    rcases mem_markBetween member with isMark | inner
    · exact isMark ▸ isWord_underscore
    · rcases mem_markCapitalRuns inner with isMark | given
      · exact isMark ▸ isWord_underscore
      · exact inWords c given
  unfold snakeCase
  rw [String.toList_ofList, String.toList_ofList, Text.opensIdentifier_lower_iff marked, steps,
    runs]

theorem dashBlanks_eq_nil_iff {text : List Char} : Text.dashBlanks text = [] ↔ text = [] := by
  induction text with
  | nil => exact iff_of_true rfl rfl
  | cons c rest ih =>
      refine iff_of_false ?_ (List.cons_ne_nil _ _)
      cases rest with
      | nil =>
          rw [Text.dashBlanks.eq_def]
          dsimp only
          split
          · exact List.cons_ne_nil _ _
          · exact List.cons_ne_nil _ _
      | cons next later =>
          have notEmpty := mt ih.mp (List.cons_ne_nil _ _)
          rw [Text.dashBlanks.eq_def]
          dsimp only
          split
          · split
            · exact notEmpty
            · exact List.cons_ne_nil _ _
          · exact List.cons_ne_nil _ _

/-- Only white space is taken out of a tag, and a dash is put in its place.  So only the empty tag
names nothing. -/
theorem kebabCase_eq_empty_iff {tag : String} : kebabCase tag = "" ↔ tag = "" := by
  unfold kebabCase markBoundaries
  rw [String.ofList_eq_empty_iff, Text.lower_eq_nil_iff, dashBlanks_eq_nil_iff,
    markBetween_eq_nil_iff, String.toList_eq_nil_iff]

private theorem test_of_mem_splitWhere {test : Char → Bool} {text piece : List Char}
    (member : piece ∈ Text.splitWhere test text) : ∀ c ∈ piece, test c = false := by
  induction text generalizing piece with
  | nil =>
      cases List.mem_singleton.mp member
      exact List.forall_mem_nil _
  | cons first rest ih =>
      rw [Text.splitWhere] at member
      split at member
      · rcases List.mem_cons.mp member with isEmpty | later
        · rw [isEmpty]
          exact List.forall_mem_nil _
        · exact ih later
      · rename_i kept
        have isKept : test first = false := Bool.eq_false_iff.mpr kept
        split at member
        · rw [List.mem_singleton.mp member]
          exact List.forall_mem_singleton.mpr isKept
        · rename_i pieces isSplit
          rcases List.mem_cons.mp member with isFirst | later
          · rw [isFirst]
            exact List.forall_mem_cons.mpr ⟨isKept, ih (isSplit ▸ List.mem_cons_self)⟩
          · exact ih (isSplit ▸ List.mem_cons_of_mem _ later)

theorem underscore_not_mem_of_mem_words {name word : List Char} (member : word ∈ words name) :
    '_' ∉ word := by
  intro within
  have kept := test_of_mem_splitWhere (List.mem_filter.mp member).1 '_' within
  exact absurd kept (by decide)

private theorem underscore_of_mem_lower {text : List Char} (member : '_' ∈ Text.lower text) :
    '_' ∈ text :=
  (Text.mem_lower member).resolve_right (by decide)

theorem underscore_not_mem_capitalize {word : List Char} (without : '_' ∉ word) :
    '_' ∉ capitalize word := by
  cases word with
  | nil => exact List.not_mem_nil
  | cons first rest =>
      intro member
      rcases List.mem_append.mp member with here | later
      · exact without (Text.underscore_of_mem_upperOf here ▸ List.mem_cons_self)
      · exact without (List.mem_cons_of_mem _ (underscore_of_mem_lower later))

theorem underscore_not_mem_pascalCase (name : String) : '_' ∉ (pascalCase name).toList := by
  unfold pascalCase
  rw [String.toList_ofList]
  intro member
  rcases List.mem_flatMap.mp member with ⟨word, isWord, within⟩
  exact underscore_not_mem_capitalize (underscore_not_mem_of_mem_words isWord) within

theorem underscore_not_mem_camelCase (name : String) : '_' ∉ (camelCase name).toList := by
  have without := underscore_not_mem_pascalCase name
  unfold camelCase
  rw [String.toList_ofList]
  cases pascal : (pascalCase name).toList with
  | nil => exact List.not_mem_nil
  | cons first rest =>
      rw [pascal] at without
      intro member
      rcases List.mem_append.mp member with here | later
      · have isFirst := List.mem_singleton.mp (underscore_of_mem_lower here)
        exact without (isFirst ▸ List.mem_cons_self)
      · exact without (List.mem_cons_of_mem _ later)

end Naming
end ApiAccessors
