import ApiAccessors.Proofs.Naming.Formatting

namespace ApiAccessors
namespace Naming

/-!
# Names with the same words

Names are spelled alike if they have the same words up to case.  Whatever the delimiters between the
words and whatever the capitals that begin them, such names are formatted in the same way.  A name
that is made with dashes or with underscores is spelled like the one that it is made from: small
letters end no words, so its words end at its delimiters only, and those stand where the words of
the other name end.  For underscores this needs the capitals of the other name to be apart, because
marks are also put in runs of capitals.
-/

/-- Two names have the same words up to case. -/
def SpelledAlike (left right : String) : Prop :=
  (words left.toList).map (fun word => word.map Char.toLower) =
    (words right.toList).map (fun word => word.map Char.toLower)

/-- Names that are spelled alike are formatted in the same way, if one of them is an ASCII name.
The other one may have more characters only between its words. -/
theorem SpelledAlike.pascalCase_eq {left right : String} (alike : SpelledAlike left right)
    (ascii : Text.IsAscii right.toList) : pascalCase left = pascalCase right := by
  have lowered : ∀ {found : List (List Char)},
      (∀ word ∈ found, Text.IsAscii (word.map Char.toLower)) →
      found.flatMap capitalize =
        (found.map (fun word => word.map Char.toLower)).flatMap capitalize := by
    intro found allAscii
    rw [List.flatMap_map]
    apply List.flatMap_congr
    intro word member
    have wordAscii := Text.isAscii_map_toLower_iff.mp (allAscii word member)
    exact (capitalize_map_toLower wordAscii).symm
  have rightAscii : ∀ word ∈ words right.toList, Text.IsAscii (word.map Char.toLower) := by
    intro word member
    apply Text.isAscii_map_toLower_iff.mpr
    exact fun c within => ascii c ((hasWords_words right.toList).mem_of_mem member c within).1
  have leftAscii : ∀ word ∈ words left.toList, Text.IsAscii (word.map Char.toLower) := by
    intro word member
    have other := List.mem_map_of_mem (f := fun word => word.map Char.toLower) member
    rw [alike] at other
    rcases List.mem_map.mp other with ⟨given, isGiven, same⟩
    rw [← same]
    exact rightAscii given isGiven
  unfold pascalCase
  rw [lowered leftAscii, lowered rightAscii, alike]

theorem isDelimiter_toLower {c : Char} (isAscii : c.toNat < 128) :
    isDelimiter c.toLower = isDelimiter c := by
  apply Text.forall_ascii (fun c => isDelimiter c.toLower = isDelimiter c) _ isAscii
  decide

theorem isBoundary_of_not_isUpper {after : Char} (small : after.isUpper = false) (before : Char) :
    isBoundary before after = false := by
  rw [isBoundary, isCapital_eq_isUpper, small, Bool.and_false]

/-- Where there are no capitals, nothing is marked. -/
theorem markBoundaries_eq_self {name : List Char} (small : ∀ c ∈ name, c.isUpper = false) :
    markBoundaries name = name := by
  apply markBetween_eq_self
  intro before after member
  exact isBoundary_of_not_isUpper (small after member) before

/-- In lower case words end at delimiters only. -/
theorem words_map_toLower {text : List Char} (ascii : Text.IsAscii text) :
    words (text.map Char.toLower) =
      (wordsBetween text).map (fun word => word.map Char.toLower) := by
  rw [words_eq_wordsBetween, markBoundaries_eq_self Text.isUpper_of_mem_map_toLower]
  apply wordsBetween_map
  intro c member
  exact isDelimiter_toLower (ascii c member)

/-- What is written in small letters between the delimiters of another text is spelled like a name
whose words stand between these delimiters. -/
theorem spelledAlike_of_wordsBetween {name : String} {text : List Char} (ascii : Text.IsAscii text)
    (same : wordsBetween text = words name.toList) :
    SpelledAlike (String.ofList (text.map Char.toLower)) name := by
  unfold SpelledAlike
  rw [String.toList_ofList, words_map_toLower ascii, same, List.map_map]
  apply List.map_congr_left
  intro word member
  exact Text.map_toLower_map_toLower word

theorem isAscii_markBetween (test : Char → Char → Bool) {mark : Char} {name : List Char}
    (markAscii : mark.toNat < 128) (ascii : Text.IsAscii name) :
    Text.IsAscii (markBetween test mark name) := by
  intro c member
  rcases mem_markBetween member with isMark | given
  · exact isMark ▸ markAscii
  · exact ascii c given

section

variable {tag : String}

private theorem mem_dashBlanks {c : Char} {text : List Char} (member : c ∈ Text.dashBlanks text) :
    c = '-' ∨ c ∈ text ∧ Text.isBlank c = false := by
  induction text with
  | nil => cases member
  | cons first rest ih =>
      have behind : c ∈ Text.dashBlanks rest →
          c = '-' ∨ c ∈ first :: rest ∧ Text.isBlank c = false :=
        fun later => (ih later).imp_right (fun parts => ⟨List.mem_cons_of_mem _ parts.1, parts.2⟩)
      by_cases blank : Text.isBlank first = true
      · cases rest with
        | nil =>
            rw [Text.dashBlanks, if_pos blank] at member
            exact Or.inl (List.mem_singleton.mp member)
        | cons next later =>
            rw [dashBlanks_cons_cons blank] at member
            split at member
            · exact behind member
            · exact (List.mem_cons.mp member).elim Or.inl behind
      · have other := Bool.eq_false_iff.mpr blank
        rw [dashBlanks_cons other] at member
        rcases List.mem_cons.mp member with same | later
        · rw [same]
          exact Or.inr ⟨List.mem_cons_self, other⟩
        · exact behind later

/-- Marks and dashes are the only characters that a name with dashes has beside those of the name
that it is made from, and none of its characters is white space. -/
private theorem mem_dashed {c : Char} (ascii : Text.IsAscii tag.toList)
    (member : c ∈ Text.dashBlanks (markBoundaries tag.toList)) :
    c.toNat < 128 ∧ Text.isBlank c = false := by
  rcases mem_dashBlanks member with dash | ⟨marked, notBlank⟩
  · rw [dash]
    decide
  · exact ⟨isAscii_markBetween _ (by decide) ascii c marked, notBlank⟩

theorem toList_kebabCase (ascii : Text.IsAscii tag.toList) : (kebabCase tag).toList =
    (Text.dashBlanks (markBoundaries tag.toList)).map Char.toLower := by
  unfold kebabCase
  rw [String.toList_ofList]
  exact Text.lower_of_ascii (fun c member => (mem_dashed ascii member).1)

theorem isAscii_kebabCase (ascii : Text.IsAscii tag.toList) :
    Text.IsAscii (kebabCase tag).toList := by
  rw [toList_kebabCase ascii]
  exact Text.isAscii_map_toLower_iff.mpr (fun c member => (mem_dashed ascii member).1)

/-- A name with dashes is spelled like the one that it is made from. -/
theorem spelledAlike_kebabCase (ascii : Text.IsAscii tag.toList) :
    SpelledAlike (kebabCase tag) tag := by
  rw [← String.ofList_toList (s := kebabCase tag), toList_kebabCase ascii]
  apply spelledAlike_of_wordsBetween (fun c member => (mem_dashed ascii member).1)
  rw [wordsBetween_dashBlanks, words_eq_wordsBetween]

/-- Dashes are put into a text only for capitals and for white space. -/
theorem kebabCase_eq_self {name : String} (ascii : Text.IsAscii name.toList)
    (small : ∀ c ∈ name.toList, c.isUpper = false)
    (noBlanks : ∀ c ∈ name.toList, Text.isBlank c = false) : kebabCase name = name := by
  have undashed : ∀ {text : List Char}, (∀ c ∈ text, Text.isBlank c = false) →
      Text.dashBlanks text = text := by
    intro text noBlank
    induction text with
    | nil => rfl
    | cons c rest ih =>
        rcases List.forall_mem_cons.mp noBlank with ⟨here, behind⟩
        rw [dashBlanks_cons here, ih behind]
  have unchanged : name.toList.map Char.toLower = name.toList :=
    calc
      name.toList.map Char.toLower = name.toList.map id :=
        List.map_congr_left (fun c member => toLower_eq_self_iff.mpr (small c member))
      _ = name.toList := List.map_id _
  apply String.toList_inj.mp
  rw [toList_kebabCase ascii, markBoundaries_eq_self small, undashed noBlanks, unchanged]

/-- A name with dashes that is made from an ASCII name is left as it is. -/
theorem kebabCase_kebabCase (ascii : Text.IsAscii tag.toList) :
    kebabCase (kebabCase tag) = kebabCase tag := by
  have notBlank : ∀ c, c.toNat < 128 → Text.isBlank c.toLower = Text.isBlank c := by
    intro c isAscii
    apply Text.forall_ascii (fun c => Text.isBlank c.toLower = Text.isBlank c) _ isAscii
    decide
  apply kebabCase_eq_self (isAscii_kebabCase ascii)
  · rw [toList_kebabCase ascii]
    exact Text.isUpper_of_mem_map_toLower
  · intro c member
    rw [toList_kebabCase ascii] at member
    rcases List.mem_map.mp member with ⟨given, isGiven, same⟩
    rcases mem_dashed ascii isGiven with ⟨isAscii, isOther⟩
    rw [← same, notBlank given isAscii, isOther]

end

section

variable {title : String}

theorem markCapitalRuns_eq_self {text : List Char} (apart : CapitalsApart text) :
    markCapitalRuns text = text := by
  induction text with
  | nil => rfl
  | cons first rest ih =>
      cases rest with
      | nil => rfl
      | cons second later =>
          rcases capitalsApart_cons_cons.mp apart with ⟨notBoth, behind⟩
          cases later with
          | nil => rfl
          | cons third others =>
              have noRun : (isCapital first && isCapital second) = false := by
                rw [isCapital_eq_isUpper, isCapital_eq_isUpper]
                simpa using notBoth
              rw [markCapitalRuns, noRun, Bool.false_and, if_neg Bool.false_ne_true, ih behind]

theorem markBetween_congr {test other : Char → Char → Bool} (mark : Char) {name : List Char}
    (same : ∀ before ∈ name, ∀ after, test before after = other before after) :
    markBetween test mark name = markBetween other mark name := by
  induction name with
  | nil => rfl
  | cons first rest ih =>
      rcases List.forall_mem_cons.mp same with ⟨here, behind⟩
      cases rest with
      | nil => rfl
      | cons second later => rw [markBetween, markBetween, here second, ih behind]

/-- Among ASCII characters the two kinds of names end their words at the same places. -/
theorem isStep_eq_isBoundary {before : Char} (isAscii : before.toNat < 128) (after : Char) :
    isStep before after = isBoundary before after := by
  have digits : Text.isDecimal before = Text.isAsciiDigit before := Text.isDecimal_of_ascii isAscii
  rw [isStep, isBoundary, digits]

theorem toList_snakeCase (ascii : Text.IsAscii title.toList) (apart : CapitalsApart title.toList) :
    (snakeCase title).toList = (markBetween isBoundary '_' title.toList).map Char.toLower := by
  have steps : markBetween isStep '_' title.toList = markBetween isBoundary '_' title.toList :=
    markBetween_congr '_' (fun before member => isStep_eq_isBoundary (ascii before member))
  unfold snakeCase
  rw [String.toList_ofList, markCapitalRuns_eq_self apart, steps,
    Text.lower_of_ascii (isAscii_markBetween _ (by decide) ascii)]

/-- A name with underscores is spelled like the one that it is made from, if its capitals are
apart. -/
theorem spelledAlike_snakeCase (ascii : Text.IsAscii title.toList)
    (apart : CapitalsApart title.toList) : SpelledAlike (snakeCase title) title := by
  rw [← String.ofList_toList (s := snakeCase title), toList_snakeCase ascii apart]
  apply spelledAlike_of_wordsBetween (isAscii_markBetween _ (by decide) ascii)
  rw [wordsBetween_markBetween isBoundary (by decide) (by decide : isDelimiter '-' = true),
    words_eq_wordsBetween, markBoundaries]

/-- A name whose capitals are apart is formatted in the same way with underscores. -/
theorem pascalCase_snakeCase (ascii : Text.IsAscii title.toList)
    (apart : CapitalsApart title.toList) : pascalCase (snakeCase title) = pascalCase title :=
  (spelledAlike_snakeCase ascii apart).pascalCase_eq ascii

end

end Naming
end ApiAccessors
