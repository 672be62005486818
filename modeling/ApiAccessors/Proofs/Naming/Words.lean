import ApiAccessors.Proofs.Naming.Characters
import ApiAccessors.Proofs.Text.AsciiCase

namespace ApiAccessors
namespace Naming

/-!
# Words of a name, character by character

Words are found in two passes: marks are put where a word ends without a delimiter, and the marked
text is cut at its delimiters.  What the two passes find together is described here without marks.
The description is a relation with one rule for each way in which a name can begin, so that facts
about words are shown by induction on it.

The second pass alone is of interest as well.  Other names are made from the marked text by changing
its delimiters or its case, and neither moves the place where a word ends.
-/

/-- The words of a text in which no word ends without a delimiter. -/
def wordsBetween (text : List Char) : List (List Char) :=
  (Text.splitWhere isDelimiter text).filter (fun word => !word.isEmpty)

theorem words_eq_wordsBetween (name : List Char) :
    words name = wordsBetween (markBoundaries name) := rfl

section

variable {test : Char → Bool}

/-- A character that is kept stands at the head of the first piece. -/
theorem splitWhere_cons_of_kept {c : Char} (kept : test c = false) (rest : List Char) :
    Text.splitWhere test (c :: rest) = (Text.splitWhere test rest).modifyHead (c :: ·) := by
  rw [Text.splitWhere, kept, if_neg Bool.false_ne_true]
  cases pieces : Text.splitWhere test rest with
  | nil => exact absurd pieces (Text.splitWhere_ne_nil _ _)
  | cons piece others => rfl

theorem splitWhere_cons_of_cut {c : Char} (cut : test c = true) (rest : List Char) :
    Text.splitWhere test (c :: rest) = [] :: Text.splitWhere test rest := by
  rw [Text.splitWhere, if_pos cut]

/-- The pieces before a cut and those behind it are found separately. -/
theorem splitWhere_append_cons {c : Char} (cut : test c = true) (before behind : List Char) :
    Text.splitWhere test (before ++ c :: behind) =
      Text.splitWhere test before ++ Text.splitWhere test behind := by
  induction before with
  | nil => exact splitWhere_cons_of_cut cut behind
  | cons first rest ih =>
      by_cases isCut : test first = true
      · rw [List.cons_append, splitWhere_cons_of_cut isCut, splitWhere_cons_of_cut isCut, ih,
          List.cons_append]
      · have kept : test first = false := Bool.eq_false_iff.mpr isCut
        rw [List.cons_append, splitWhere_cons_of_kept kept, splitWhere_cons_of_kept kept, ih]
        cases pieces : Text.splitWhere test rest with
        | nil => exact absurd pieces (Text.splitWhere_ne_nil _ _)
        | cons piece others => rfl

/-- A change of characters that leaves the cuts where they are changes the pieces. -/
theorem splitWhere_map {change : Char → Char} {text : List Char}
    (same : ∀ c ∈ text, test (change c) = test c) :
    Text.splitWhere test (text.map change) =
      (Text.splitWhere test text).map (fun piece => piece.map change) := by
  induction text with
  | nil => rfl
  | cons c rest ih =>
      rcases List.forall_mem_cons.mp same with ⟨here, behind⟩
      rw [List.map_cons]
      by_cases cut : test c = true
      · rw [splitWhere_cons_of_cut (here.trans cut), splitWhere_cons_of_cut cut, ih behind]
        rfl
      · have kept : test c = false := Bool.eq_false_iff.mpr cut
        rw [splitWhere_cons_of_kept (here.trans kept), splitWhere_cons_of_kept kept, ih behind]
        cases Text.splitWhere test rest with
        | nil => rfl
        | cons piece others => rfl

end

/-- A delimiter belongs to no word and ends the one before it. -/
theorem wordsBetween_append_cons {c : Char} (marks : isDelimiter c = true)
    (before behind : List Char) :
    wordsBetween (before ++ c :: behind) = wordsBetween before ++ wordsBetween behind := by
  unfold wordsBetween
  rw [splitWhere_append_cons marks, List.filter_append]

theorem wordsBetween_cons {c : Char} (marks : isDelimiter c = true) (rest : List Char) :
    wordsBetween (c :: rest) = wordsBetween rest :=
  wordsBetween_append_cons marks [] rest

/-- A character that is no delimiter is a word of its own in front of a delimiter. -/
theorem wordsBetween_cons_of_ends {c : Char} (letter : isDelimiter c = false) {rest : List Char}
    (ends : ∀ next ∈ rest.head?, isDelimiter next = true) :
    wordsBetween (c :: rest) = [c] :: wordsBetween rest := by
  have single : wordsBetween [c] = [[c]] := by
    unfold wordsBetween
    rw [splitWhere_cons_of_kept letter]
    rfl
  cases rest with
  | nil => exact single
  | cons next later =>
      have marks := ends next rfl
      calc
        wordsBetween (c :: next :: later) = wordsBetween [c] ++ wordsBetween later :=
          wordsBetween_append_cons marks [c] later
        _ = [c] :: wordsBetween (next :: later) := by
          rw [single, wordsBetween_cons marks, List.singleton_append]

/-- Two characters that are no delimiters stand in one word. -/
theorem wordsBetween_cons_cons {c next : Char} (letter : isDelimiter c = false)
    (nextLetter : isDelimiter next = false) (rest : List Char) :
    ∃ word others, wordsBetween (next :: rest) = (next :: word) :: others ∧
      wordsBetween (c :: next :: rest) = (c :: next :: word) :: others := by
  unfold wordsBetween
  rw [splitWhere_cons_of_kept letter, splitWhere_cons_of_kept nextLetter]
  cases pieces : Text.splitWhere isDelimiter rest with
  | nil => exact absurd pieces (Text.splitWhere_ne_nil _ _)
  | cons piece others => exact ⟨piece, _, rfl, rfl⟩

theorem dashBlanks_cons {c : Char} (other : Text.isBlank c = false) (rest : List Char) :
    Text.dashBlanks (c :: rest) = c :: Text.dashBlanks rest := by
  rw [Text.dashBlanks.eq_def]
  simp only [other, Bool.false_eq_true, if_false]

theorem dashBlanks_cons_cons {c : Char} (blank : Text.isBlank c = true) (next : Char)
    (rest : List Char) :
    Text.dashBlanks (c :: next :: rest) =
      if Text.isBlank next then Text.dashBlanks (next :: rest)
      else '-' :: Text.dashBlanks (next :: rest) := by
  rw [Text.dashBlanks.eq_def]
  simp only [blank, if_true]

/-- Runs of white space end words like the dashes that replace them.  The text in front takes part
in the induction because a word may be open where the run begins. -/
theorem wordsBetween_append_dashBlanks (before text : List Char) :
    wordsBetween (before ++ Text.dashBlanks text) = wordsBetween (before ++ text) := by
  have delimits : ∀ c, Text.isBlank c = true → isDelimiter c = true := by
    intro c blank
    unfold isDelimiter
    rw [blank, Bool.or_true]
  have dash : isDelimiter '-' = true := by decide
  induction text generalizing before with
  | nil => rfl
  | cons c rest ih =>
      by_cases blank : Text.isBlank c = true
      · rw [wordsBetween_append_cons (delimits c blank)]
        cases rest with
        | nil =>
            have single : Text.dashBlanks [c] = ['-'] := by
              rw [Text.dashBlanks, if_pos blank]
            rw [single]
            exact wordsBetween_append_cons dash before []
        | cons next later =>
            rw [dashBlanks_cons_cons blank]
            by_cases again : Text.isBlank next = true
            · rw [if_pos again, ih, wordsBetween_append_cons (delimits next again),
                wordsBetween_cons (delimits next again)]
            · rw [if_neg again, wordsBetween_append_cons dash]
              exact congrArg (wordsBetween before ++ ·) (ih [])
      · rw [dashBlanks_cons (Bool.eq_false_iff.mpr blank)]
        simpa only [List.append_assoc, List.singleton_append] using ih (before ++ [c])

theorem wordsBetween_dashBlanks (text : List Char) :
    wordsBetween (Text.dashBlanks text) = wordsBetween text :=
  wordsBetween_append_dashBlanks [] text

/-- It does not matter which delimiter marks the end of a word. -/
theorem wordsBetween_markBetween (test : Char → Char → Bool) {mark other : Char}
    (marks : isDelimiter mark = true) (otherMarks : isDelimiter other = true) (name : List Char) :
    wordsBetween (markBetween test mark name) = wordsBetween (markBetween test other name) := by
  have pieces : Text.splitWhere isDelimiter (markBetween test mark name) =
      Text.splitWhere isDelimiter (markBetween test other name) := by
    induction name with
    | nil => rfl
    | cons first rest ih =>
        cases rest with
        | nil => rfl
        | cons second later =>
            rw [markBetween, markBetween]
            by_cases apart : test first second = true
            · simp only [if_pos apart, Text.splitWhere, marks, otherMarks, if_true, ih]
            · simp only [if_neg apart, Text.splitWhere, ih]
  unfold wordsBetween
  rw [pieces]

/-- A change of characters that makes and removes no delimiters changes the words. -/
theorem wordsBetween_map {change : Char → Char} {text : List Char}
    (same : ∀ c ∈ text, isDelimiter (change c) = isDelimiter c) :
    wordsBetween (text.map change) = (wordsBetween text).map (fun word => word.map change) := by
  unfold wordsBetween
  rw [splitWhere_map same, List.filter_map]
  congr 2
  funext piece
  exact congrArg (! ·) List.isEmpty_map

/-- Where no two neighbours satisfy the test, no marks are put. -/
theorem markBetween_eq_self {test : Char → Char → Bool} (mark : Char) {name : List Char}
    (apart : ∀ before, ∀ after ∈ name, test before after = false) :
    markBetween test mark name = name := by
  induction name with
  | nil => rfl
  | cons first rest ih =>
      have behind :=
        ih (fun before after member => apart before after (List.mem_cons_of_mem _ member))
      cases rest with
      | nil => rfl
      | cons second later =>
          have joined := apart first second (List.mem_cons_of_mem _ List.mem_cons_self)
          rw [markBetween, joined, if_neg Bool.false_ne_true, behind]

inductive HasWords : List Char → List (List Char) → Prop
  | nothing : HasWords [] []
  | delimiter {c : Char} {rest : List Char} {found : List (List Char)}
      (marks : isDelimiter c = true) (later : HasWords rest found) : HasWords (c :: rest) found
  | ends {c : Char} {rest : List Char} {found : List (List Char)} (letter : isDelimiter c = false)
      (apart : ∀ next ∈ rest.head?, isDelimiter next = true ∨ isBoundary c next = true)
      (later : HasWords rest found) : HasWords (c :: rest) ([c] :: found)
  | continues {c next : Char} {rest word : List Char} {found : List (List Char)}
      (letter : isDelimiter c = false) (nextLetter : isDelimiter next = false)
      (joined : isBoundary c next = false)
      (later : HasWords (next :: rest) ((next :: word) :: found)) :
      HasWords (c :: next :: rest) ((c :: next :: word) :: found)

private theorem markBoundaries_cons (c : Char) (rest : List Char) :
    ∃ marked, markBoundaries (c :: rest) = c :: marked := by
  have isHead := head?_markBetween isBoundary '-' (c :: rest)
  rcases List.head?_eq_some_iff.mp isHead with ⟨marked, same⟩
  exact ⟨marked, same⟩

/-- A mark in front of the rest of a name changes none of its words. -/
private theorem words_of_marked {c : Char} {rest marked : List Char}
    (same : markBoundaries (c :: rest) = c :: marked) :
    wordsBetween marked = words rest ∧
      ((∀ next ∈ rest.head?, isDelimiter next = true ∨ isBoundary c next = true) →
        ∀ next ∈ marked.head?, isDelimiter next = true) := by
  cases rest with
  | nil =>
      cases same
      exact ⟨rfl, fun _ next isNext => nomatch isNext⟩
  | cons next later =>
      unfold markBoundaries at same
      rw [markBetween] at same
      split at same
      · cases same
        refine ⟨wordsBetween_cons (by decide) _, fun _ mark isMark => ?_⟩
        cases isMark
        decide
      · rename_i joined
        cases same
        refine ⟨rfl, fun apart first isFirst => ?_⟩
        rw [head?_markBetween] at isFirst
        cases isFirst
        exact (apart next rfl).resolve_right joined

/-- A delimiter at the beginning of a name belongs to none of its words. -/
theorem words_cons {c : Char} (marks : isDelimiter c = true) (rest : List Char) :
    words (c :: rest) = words rest := by
  rcases markBoundaries_cons c rest with ⟨marked, same⟩
  rw [words_eq_wordsBetween, same, wordsBetween_cons marks, (words_of_marked same).1]

/-- What the two passes find are the words of the name. -/
theorem hasWords_words (name : List Char) : HasWords name (words name) := by
  induction name with
  | nil => exact .nothing
  | cons c rest ih =>
      rcases markBoundaries_cons c rest with ⟨marked, same⟩
      rcases words_of_marked same with ⟨behind, ends⟩
      by_cases marks : isDelimiter c = true
      · rw [words_cons marks]
        exact .delimiter marks ih
      · rw [words_eq_wordsBetween, same]
        have letter : isDelimiter c = false := Bool.eq_false_iff.mpr marks
        by_cases apart : ∀ next ∈ rest.head?, isDelimiter next = true ∨ isBoundary c next = true
        · rw [wordsBetween_cons_of_ends letter (ends apart), behind]
          exact .ends letter apart ih
        · cases rest with
          | nil => exact absurd (fun next isNext => nomatch isNext) apart
          | cons next later =>
              have joined : isDelimiter next = false ∧ isBoundary c next = false := by
                simpa using apart
              have unmarked : marked = markBoundaries (next :: later) := by
                unfold markBoundaries at same
                rw [markBetween, joined.2, if_neg Bool.false_ne_true] at same
                exact (List.cons.inj same).2.symm
              rcases markBoundaries_cons next later with ⟨others, isNext⟩
              rcases wordsBetween_cons_cons letter joined.1 others with
                ⟨word, found, isWord, isWhole⟩
              rw [words_eq_wordsBetween, isNext, isWord] at ih
              rw [unmarked, isNext, isWhole]
              exact .continues letter joined.1 joined.2 ih

/-- Together the words are the name without its delimiters. -/
theorem HasWords.flatten_eq {name : List Char} {found : List (List Char)}
    (has : HasWords name found) : found.flatten = name.filter (fun c => !isDelimiter c) := by
  induction has with
  | nothing => rfl
  | delimiter marks later ih => simp [marks, ih]
  | ends letter apart later ih => simp [letter, ih]
  | continues letter nextLetter joined later ih =>
      rw [List.filter_cons_of_pos (by simp [letter]), ← ih]
      rfl

/-- A name that begins with no delimiter begins with its first word. -/
theorem HasWords.exists_first {c : Char} {rest : List Char} {found : List (List Char)}
    (has : HasWords (c :: rest) found) (letter : isDelimiter c = false) :
    ∃ word others, found = (c :: word) :: others := by
  cases has with
  | delimiter marks later =>
      rw [letter] at marks
      cases marks
  | ends letter apart later => exact ⟨_, _, rfl⟩
  | continues letter nextLetter joined later => exact ⟨_, _, rfl⟩

theorem nil_not_mem_words (name : List Char) : [] ∉ words name := by
  intro member
  have notEmpty := (List.mem_filter.mp member).2
  cases notEmpty

/-- The characters of a word are characters of the name, and none of them is a delimiter. -/
theorem HasWords.mem_of_mem {name word : List Char} {found : List (List Char)}
    (has : HasWords name found) (member : word ∈ found) :
    ∀ c ∈ word, c ∈ name ∧ isDelimiter c = false := by
  intro c within
  have whole : c ∈ found.flatten := List.mem_flatten.mpr ⟨word, member, within⟩
  rw [has.flatten_eq] at whole
  simpa using List.mem_filter.mp whole

end Naming
end ApiAccessors
