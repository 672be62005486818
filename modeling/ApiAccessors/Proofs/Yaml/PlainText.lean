import ApiAccessors.Proofs.Yaml.QuotedText

namespace ApiAccessors
namespace Yaml

/-!
# Plain text

A plain scalar looks for more of its text behind white space, also on the lines below: between
brackets it ends there, because what follows is the mark between two items or behind the last one.
-/

open Json (IsGap)

namespace Cursor

variable {cursor : Cursor} {rest : List Char}

theorem skipSpaces_eq_self (noSpace : ∀ c ∈ cursor.rest.head?, c ≠ ' ') :
    cursor.skipSpaces = cursor := by
  have nothing : cursor.rest.takeWhile (· == ' ') = [] := by
    cases isRest : cursor.rest with
    | nil => rfl
    | cons c rest => simp [noSpace c (by rw [isRest]; rfl)]
  unfold skipSpaces skipWhile span
  rw [nothing]
  rfl

theorem skipSpaces_of_space (begins : cursor.rest = ' ' :: rest) :
    cursor.skipSpaces = cursor.advance.skipSpaces := by
  unfold skipSpaces skipWhile span
  rw [rest_advance begins, begins]
  rfl

theorem takeBreak_eq_nil (noBreak : ∀ c ∈ cursor.rest.head?, isBreak c = false) :
    cursor.takeBreak = ([], cursor) := by
  cases isRest : cursor.rest with
  | nil =>
      unfold takeBreak
      rw [isRest]
  | cons c rest =>
      rw [isRest] at noBreak
      exact takeBreak_of_not_isBreak isRest (noBreak c rfl)

theorem takeBreak_newline (begins : cursor.rest = '\n' :: rest) :
    cursor.takeBreak = (['\n'], cursor.advance) := by
  unfold takeBreak
  rw [begins]
  rfl

theorem atMark_of_head {mark : Char} (differ : cursor.rest.head? ≠ some mark) :
    cursor.atMark mark = false := by
  have noMark : (cursor.rest.take 3 == [mark, mark, mark]) = false := by
    apply beq_eq_false_iff_ne.mpr
    cases isRest : cursor.rest with
    | nil => exact (List.cons_ne_nil _ _).symm
    | cons c rest =>
        intro same
        rw [isRest] at differ
        exact differ (congrArg some (List.cons.inj same).1)
  unfold atMark
  rw [noMark, Bool.and_false, Bool.false_and]

theorem length_advanceBy_le (count : Nat) (cursor : Cursor) :
    (cursor.advanceBy count).rest.length ≤ cursor.rest.length := by
  induction count generalizing cursor with
  | zero => exact Nat.le_refl _
  | succ count ih =>
      refine (ih cursor.advance).trans ?_
      cases isRest : cursor.rest with
      | nil =>
          unfold advance
          rw [isRest]
          exact Nat.le_of_eq (congrArg List.length isRest)
      | cons c rest =>
          rw [rest_advance isRest]
          exact Nat.le_succ _

end Cursor

/-- What can stand behind a gap: nothing, or neither white space nor a comment. -/
def EndsGap (text : List Char) : Prop :=
  ∀ c ∈ text.head?, isBreak c = false ∧ c ≠ ' ' ∧ c ≠ '#'

/-- A gap and what stands behind it. -/
def IsSpaced (cursor : Cursor) (text : List Char) : Prop :=
  ∃ gap, IsGap gap ∧ cursor.rest = gap ++ text

theorem endsGap_nil : EndsGap [] := fun _ impossible => by cases impossible

theorem endsGap_cons {c : Char} (noBreak : isBreak c = false) (notSpace : c ≠ ' ')
    (notComment : c ≠ '#') (rest : List Char) : EndsGap (c :: rest) := by
  intro first isFirst
  cases isFirst
  exact ⟨noBreak, notSpace, notComment⟩

namespace IsSpaced

variable {cursor : Cursor} {text : List Char}

theorem of_rest (isRest : cursor.rest = text) : IsSpaced cursor text :=
  ⟨[], List.forall_mem_nil _, isRest⟩

theorem skipSpaces (spaced : IsSpaced cursor text) (ends : EndsGap text) :
    IsSpaced cursor.skipSpaces text := by
  rcases spaced with ⟨gap, isGap, isRest⟩
  induction gap generalizing cursor with
  | nil =>
      refine ⟨[], isGap, ?_⟩
      rw [Cursor.skipSpaces_eq_self]
      · exact isRest
      · rw [isRest]
        exact fun c isFirst => (ends c isFirst).2.1
  | cons c gap ih =>
      rcases List.forall_mem_cons.mp isGap with ⟨here, later⟩
      rcases here with rfl | rfl
      · rw [Cursor.skipSpaces_of_space isRest]
        exact ih later (Cursor.rest_advance isRest)
      · refine ⟨'\n' :: gap, isGap, ?_⟩
        rw [Cursor.skipSpaces_eq_self]
        · exact isRest
        · rw [isRest]
          intro c isFirst
          cases isFirst
          decide

/-- Either a line ends here and the gap goes on behind it, or there is no line end. -/
theorem takeBreak (spaced : IsSpaced cursor text) (ends : EndsGap text) :
    cursor.takeBreak = (['\n'], cursor.advance) ∧ IsSpaced cursor.advance text ∨
      cursor.takeBreak = ([], cursor) := by
  rcases spaced with ⟨gap, isGap, isRest⟩
  cases gap with
  | nil =>
      refine Or.inr (Cursor.takeBreak_eq_nil ?_)
      rw [isRest]
      exact fun c isFirst => (ends c isFirst).1
  | cons c gap =>
      rcases List.forall_mem_cons.mp isGap with ⟨here, later⟩
      rcases here with rfl | rfl
      · refine Or.inr (Cursor.takeBreak_eq_nil ?_)
        rw [isRest]
        intro c isFirst
        cases isFirst
        rfl
      · exact Or.inl ⟨Cursor.takeBreak_newline isRest, gap, later, Cursor.rest_advance isRest⟩

theorem head?_ne (spaced : IsSpaced cursor text) {c : Char} (notSpace : c ≠ ' ')
    (notBreak : c ≠ '\n') (differ : text.head? ≠ some c) : cursor.rest.head? ≠ some c := by
  rcases spaced with ⟨gap, isGap, isRest⟩
  rw [isRest]
  cases gap with
  | nil => exact differ
  | cons first gap =>
      intro same
      cases same
      rcases isGap c List.mem_cons_self with same | same
      · exact notSpace same
      · exact notBreak same

end IsSpaced

/-- What stands behind an item between brackets: a comma or a closing bracket. -/
def Closes (text : List Char) : Prop :=
  ∃ mark rest, text = mark :: rest ∧ (mark = ',' ∨ mark = ']' ∨ mark = '\x7d')

namespace Closes

variable {cursor : Cursor} {last : List Char}

theorem endsGap (closes : Closes last) : EndsGap last := by
  rcases closes with ⟨mark, rest, rfl, rfl | rfl | rfl⟩
  all_goals exact endsGap_cons (by decide) (by decide) (by decide) rest

theorem head?_ne (closes : Closes last) {c : Char} (isOther : c ≠ ',' ∧ c ≠ ']' ∧ c ≠ '\x7d') :
    last.head? ≠ some c := by
  rcases closes with ⟨mark, rest, rfl, isMark⟩
  intro same
  cases same
  rcases isMark with same | same | same
  · exact isOther.1 same
  · exact isOther.2.1 same
  · exact isOther.2.2 same

theorem plainLength_eq_zero (closes : Closes last) (spaced : IsSpaced cursor last) :
    plainLength true cursor.rest = 0 := by
  rcases spaced with ⟨gap, isGap, isRest⟩
  rw [isRest]
  cases gap with
  | nil =>
      rcases closes with ⟨mark, rest, rfl, rfl | rfl | rfl⟩
      all_goals rfl
  | cons c gap =>
      rcases isGap c List.mem_cons_self with rfl | rfl
      · rfl
      · rfl

/-- No mark between documents stands behind an item. -/
theorem atDocumentMark (closes : Closes last) (spaced : IsSpaced cursor last) :
    cursor.atDocumentMark = false := by
  have noDash := spaced.head?_ne (c := '-') (by decide) (by decide)
    (closes.head?_ne (by decide))
  have noPoint := spaced.head?_ne (c := '.') (by decide) (by decide)
    (closes.head?_ne (by decide))
  unfold Cursor.atDocumentMark
  rw [Cursor.atMark_of_head noDash, Cursor.atMark_of_head noPoint]
  rfl

theorem plainBreaks (closes : Closes last) (spaced : IsSpaced cursor last) (fuel : Nat) :
    ∃ others behind, plainBreaks fuel cursor = (some others, behind) ∧ IsSpaced behind last ∧
      behind.rest.length ≤ cursor.rest.length := by
  induction fuel generalizing cursor with
  | zero => exact ⟨[], cursor, rfl, spaced, Nat.le_refl _⟩
  | succ fuel ih =>
      have inner := spaced.skipSpaces closes.endsGap
      have shorter : cursor.skipSpaces.rest.length ≤ cursor.rest.length :=
        Cursor.length_advanceBy_le _ cursor
      rw [Yaml.plainBreaks, closes.atDocumentMark spaced, if_neg Bool.false_ne_true]
      rcases inner.takeBreak closes.endsGap with ⟨isBreak, goesOn⟩ | noBreak
      · rcases ih goesOn with ⟨others, behind, isTaken, isSpaced, isShorter⟩
        simp only [isBreak, isTaken]
        exact ⟨_, behind, rfl, isSpaced,
          isShorter.trans ((Cursor.length_advanceBy_le 1 _).trans shorter)⟩
      · simp only [noBreak]
        exact ⟨[], _, rfl, inner, shorter⟩

theorem plainSpace (closes : Closes last) (spaced : IsSpaced cursor last) (fuel : Nat) :
    ∃ space behind, plainSpace fuel cursor = (space, behind) ∧ IsSpaced behind last ∧
      behind.rest.length ≤ cursor.rest.length := by
  have inner := spaced.skipSpaces closes.endsGap
  have shorter : cursor.skipSpaces.rest.length ≤ cursor.rest.length :=
    Cursor.length_advanceBy_le _ cursor
  have isSpan :
      cursor.span (· == ' ') = (cursor.rest.takeWhile (· == ' '), cursor.skipSpaces) := rfl
  unfold Yaml.plainSpace
  rw [isSpan]
  rcases inner.takeBreak closes.endsGap with ⟨isBreak, goesOn⟩ | noBreak
  · rcases closes.plainBreaks goesOn fuel with ⟨others, behind, isTaken, isSpaced, isShorter⟩
    simp only [isBreak, isTaken]
    exact ⟨_, behind, rfl, isSpaced,
      isShorter.trans ((Cursor.length_advanceBy_le 1 _).trans shorter)⟩
  · simp only [noBreak]
    exact ⟨_, _, rfl, inner, shorter⟩

end Closes

theorem noBlank_of_beginsWord {c : Char} (starts : beginsWord c = true) :
    isBreak c = false ∧ isSpaceOrTab c = false := by
  have plain := (Bool.and_eq_true_iff.mp starts).1
  simp only [isPlainChar, Bool.not_eq_true', Bool.or_eq_false_iff] at plain
  exact plain.1.1.1

theorem ne_of_beginsWord {c : Char} (starts : beginsWord c = true) :
    ∀ mark ∈ "-?:,[]\x7b\x7d#&*!|>'\"%@\x60.".toList, c ≠ mark := by
  have noMark := (Bool.and_eq_true_iff.mp starts).2
  rw [Bool.not_eq_true', List.contains_eq_mem, decide_eq_false_iff_not] at noMark
  rintro mark member rfl
  exact noMark member

section

variable {text rest : List Char} {cursor : Cursor}

theorem IsPlainText.endsGap (isPlain : IsPlainText text) (rest : List Char) :
    EndsGap (text ++ rest) := by
  rcases isPlain.begins with ⟨first, others, rfl, starts⟩ | ⟨digit, others, rfl, starts⟩
  · rcases noBlank_of_beginsWord starts with ⟨noBreak, noBlank⟩
    have notSpace := beq_eq_false_iff_ne.mp (Bool.or_eq_false_iff.mp noBlank).1
    exact endsGap_cons noBreak notSpace (ne_of_beginsWord starts '#' (by decide)) _
  · exact endsGap_cons (by decide) (by decide) (by decide) _

theorem IsPlainText.length_pos (isPlain : IsPlainText text) : 0 < text.length := by
  rcases isPlain.begins with ⟨first, others, rfl, starts⟩ | ⟨digit, others, rfl, starts⟩
  · exact Nat.zero_lt_succ _
  · exact Nat.zero_lt_succ _

theorem plainLength_append (plain : ∀ c ∈ text, isPlainChar c = true) (rest : List Char) :
    plainLength true (text ++ rest) = text.length + plainLength true rest := by
  induction text with
  | nil => exact (Nat.zero_add _).symm
  | cons c text ih =>
      rcases List.forall_mem_cons.mp plain with ⟨here, later⟩
      simp only [isPlainChar, Bool.not_eq_true', Bool.or_eq_false_iff] at here
      rcases here with ⟨⟨⟨⟨noBreak, noBlank⟩, noMark⟩, noColon⟩, noQuestion⟩
      rw [List.cons_append, plainLength]
      simp only [noBreak, noBlank, noMark, noColon, noQuestion, Bool.or_false, Bool.false_and,
        Bool.and_false, Bool.false_eq_true, if_false, ih later, List.length_cons]
      omega

/-- Between brackets a word is a plain scalar of its own. -/
theorem plainScalar_of_isPlainText (isPlain : IsPlainText text) {gap last : List Char}
    (isGap : IsGap gap) (closes : Closes last) (isRest : cursor.rest = text ++ (gap ++ last))
    (indent fuel : Nat) :
    ∃ brokeLine behind, plainScalar true indent (fuel + 1) cursor = (⟨text, brokeLine⟩, behind) ∧
      IsSpaced behind last ∧ behind.rest.length + text.length ≤ cursor.rest.length := by
  have inner := Cursor.rest_advanceBy isRest
  have spaced : IsSpaced (cursor.advanceBy text.length) last := ⟨gap, isGap, inner⟩
  have isLength : plainLength true cursor.rest = text.length := by
    have ends := closes.plainLength_eq_zero spaced
    rw [inner] at ends
    rw [isRest, plainLength_append isPlain.chars, ends, Nat.add_zero]
  have isWord : cursor.rest.take text.length = text := by
    rw [isRest]
    exact List.take_left
  rcases closes.plainSpace spaced fuel with ⟨space, behind, isSpace, isSpaced, shorter⟩
  refine ⟨space.brokeLine, behind, ?_, isSpaced, ?_⟩
  · rw [plainScalar]
    simp only [isLength, isWord, isSpace, closes.plainLength_eq_zero isSpaced, beq_self_eq_true,
      Bool.or_true, if_true]
  · rw [inner] at shorter
    rw [isRest, List.length_append]
    omega

end

end Yaml
end ApiAccessors
