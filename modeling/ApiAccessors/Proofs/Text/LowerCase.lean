import ApiAccessors.Text.Case
import Mathlib.Data.List.Basic

namespace ApiAccessors
namespace Text

/-!
# Characters of lower case texts

Lower case may replace a character by others, but these are never below the small letters in the
order of code points.  So a punctuation mark or a digit stands in a lower case text only if it
stands in the text itself.  For single characters this is read off the case tables: the forms that
each entry of a table can give are bounded by its two ends.
-/

/-- All forms that a run gives are characters and not below the small letters. -/
def CaseRun.staysAbove (run : CaseRun) : Bool :=
  decide (0x61 ≤ run.first + run.shift) &&
    (decide (run.last + run.shift < 0xD800) ||
      (decide (0xDFFF < run.first + run.shift) && decide (run.last + run.shift < 0x110000)))

theorem CaseRun.bounds_of_find? {runs : List CaseRun} {code : Nat} {run : CaseRun}
    (found : find? runs code = some run) : run ∈ runs ∧ run.first ≤ code ∧ code ≤ run.last := by
  induction runs with
  | nil => cases found
  | cons first rest ih =>
      rw [find?] at found
      split at found
      · cases found
      · rename_i notBelow
        split at found
        · rename_i within
          split at found
          · cases found
            exact ⟨List.mem_cons_self, Nat.le_of_not_lt notBelow, within⟩
          · cases found
        · have parts := ih found
          exact ⟨List.mem_cons_of_mem _ parts.1, parts.2⟩

/-- What a run gives is the code point at the distance of the run. -/
theorem CaseRun.toNat_apply {run : CaseRun} (above : run.staysAbove = true) {code : Nat}
    (low : run.first ≤ code) (high : code ≤ run.last) :
    (run.apply code).toNat = (code + run.shift).toNat := by
  simp only [staysAbove, Bool.and_eq_true_iff, Bool.or_eq_true_iff, decide_eq_true_eq] at above
  have isChar : (code + run.shift).toNat.isValidChar := by
    unfold Nat.isValidChar
    omega
  unfold apply
  rw [Char.ofNat, dif_pos isChar]
  rfl

theorem CaseRun.le_apply {run : CaseRun} (above : run.staysAbove = true) {code : Nat}
    (low : run.first ≤ code) (high : code ≤ run.last) : 0x61 ≤ (run.apply code).toNat := by
  rw [toNat_apply above low high]
  simp only [staysAbove, Bool.and_eq_true_iff, Bool.or_eq_true_iff, decide_eq_true_eq] at above
  omega

theorem mem_of_expansion? {entries : List (Nat × List Nat)} {code : Nat} {form : List Char}
    (found : expansion? entries code = some form) :
    ∃ entry ∈ entries, entry.1 = code ∧ form = entry.2.map Char.ofNat := by
  induction entries with
  | nil => cases found
  | cons entry rest ih =>
      rcases entry with ⟨first, codes⟩
      rw [expansion?] at found
      split at found
      · cases found
      · split at found
        · rename_i isCode
          cases found
          exact ⟨_, List.mem_cons_self, isCode.symm, rfl⟩
        · rcases ih found with ⟨other, member, parts⟩
          exact ⟨other, List.mem_cons_of_mem _ member, parts⟩

theorem lowerRuns_staysAbove : ∀ run ∈ lowerRuns, run.staysAbove = true := by
  decide +kernel

private theorem lowerExpansions_above :
    ∀ entry ∈ lowerExpansions, ∀ c ∈ entry.2.map Char.ofNat, 0x61 ≤ c.toNat := by
  simp [lowerExpansions]

/-- The lower case of a character consists of the character itself or of characters that are not
below the small letters. -/
theorem mem_lowerOf {c form : Char} (member : form ∈ lowerOf c) : form = c ∨ 0x61 ≤ form.toNat := by
  unfold lowerOf mapCase at member
  cases isRun : CaseRun.find? lowerRuns c.toNat with
  | some run =>
      right
      rw [isRun] at member
      rw [List.mem_singleton.mp member]
      have bounds := CaseRun.bounds_of_find? isRun
      exact CaseRun.le_apply (lowerRuns_staysAbove run bounds.1) bounds.2.1 bounds.2.2
  | none =>
      rw [isRun] at member
      cases isExpansion : expansion? lowerExpansions c.toNat with
      | none =>
          left
          rw [isExpansion] at member
          exact List.mem_singleton.mp member
      | some forms =>
          right
          rw [isExpansion] at member
          rcases mem_of_expansion? isExpansion with ⟨entry, isEntry, -, same⟩
          exact lowerExpansions_above entry isEntry form (same ▸ member)

theorem mem_lowerAfter {cased : Bool} {text : List Char} {form : Char}
    (member : form ∈ lowerAfter cased text) : form ∈ text ∨ 0x61 ≤ form.toNat := by
  induction text generalizing cased with
  | nil => cases member
  | cons c rest ih =>
      rw [lowerAfter] at member
      split at member
      · rcases List.mem_cons.mp member with sigma | later
        · right
          rw [sigma]
          split
          · decide
          · decide
        · exact (ih later).imp_left (List.mem_cons_of_mem _)
      · rcases List.mem_append.mp member with here | later
        · rcases mem_lowerOf here with same | above
          · exact Or.inl (same ▸ List.mem_cons_self)
          · exact Or.inr above
        · exact (ih later).imp_left (List.mem_cons_of_mem _)

/-- A lower case text has no characters below the small letters but those of the text. -/
theorem mem_lower {text : List Char} {form : Char} (member : form ∈ lower text) :
    form ∈ text ∨ 0x61 ≤ form.toNat :=
  mem_lowerAfter member

private theorem lowerExpansions_ne_nil : ∀ entry ∈ lowerExpansions, entry.2 ≠ [] := by
  decide

theorem lowerOf_ne_nil (c : Char) : lowerOf c ≠ [] := by
  unfold lowerOf mapCase
  cases CaseRun.find? lowerRuns c.toNat with
  | some run => exact List.cons_ne_nil _ _
  | none =>
      cases isExpansion : expansion? lowerExpansions c.toNat with
      | none => exact List.cons_ne_nil _ _
      | some forms =>
          rcases mem_of_expansion? isExpansion with ⟨entry, isEntry, -, same⟩
          change forms ≠ []
          rw [same]
          exact mt List.map_eq_nil_iff.mp (lowerExpansions_ne_nil entry isEntry)

/-- No character is lost in lower case, so only the empty text becomes empty. -/
theorem lower_eq_nil_iff {text : List Char} : lower text = [] ↔ text = [] := by
  cases text with
  | nil => exact iff_of_true rfl rfl
  | cons c rest =>
      refine iff_of_false ?_ (List.cons_ne_nil _ _)
      rw [lower, lowerAfter]
      split
      · exact List.cons_ne_nil _ _
      · exact List.append_ne_nil_of_left_ne_nil (lowerOf_ne_nil c) _

end Text
end ApiAccessors
