import ApiAccessors.Proofs.Text.LowerCase
import ApiAccessors.Text.Identifier
import ApiAccessors.Text.WordChars
import Mathlib.Data.List.TakeWhile
import Mathlib.Tactic.MkIffOfInductiveProp

namespace ApiAccessors
namespace Text

/-!
# Identifiers and lower case

Whether a text is an identifier is decided by tables of characters, and lower case is made by other
tables.  A character that can stand in an identifier keeps this property in lower case, also where
it becomes several characters, and one that can begin an identifier is replaced by something that
begins one.  As the tables are long, this is not checked character by character: an entry of a case
table stands for an interval of characters, and it is enough that one interval of another table
covers it.
-/

namespace Intervals

/-- Whether one of the pairs covers all code points between two, for pairs in increasing order. -/
def spans : List (Nat × Nat) → Nat → Nat → Bool
  | [], _, _ => false
  | (low, high) :: rest, first, last =>
      Nat.ble low first && (Nat.ble last high || spans rest first last)

theorem covers_of_spans {pairs : List (Nat × Nat)} {first last code : Nat}
    (spanned : spans pairs first last = true) (above : first ≤ code) (below : code ≤ last) :
    covers pairs code = true := by
  induction pairs with
  | nil => cases spanned
  | cons pair rest ih =>
      rcases pair with ⟨low, high⟩
      rcases Bool.and_eq_true_iff.mp spanned with ⟨isLow, either⟩
      have notOutside : ¬code < low := by
        have lower := Nat.le_of_ble_eq_true isLow
        omega
      rw [covers, if_neg notOutside]
      rcases Bool.or_eq_true_iff.mp either with within | later
      · have inside : code ≤ high := Nat.le_trans below (Nat.le_of_ble_eq_true within)
        simp only [inside, decide_true, Bool.true_or]
      · rw [ih later, Bool.or_true]

/-- Whether each of some intervals lies in one of others, both in increasing order. -/
def within (inner : List (Nat × Nat)) : List (Nat × Nat) → Bool
  | [] => inner.isEmpty
  | outer :: rest =>
      within (inner.dropWhile (fun pair => Nat.ble outer.1 pair.1 && Nat.ble pair.2 outer.2)) rest

theorem exists_of_within {inner outer : List (Nat × Nat)} (isWithin : within inner outer = true)
    {pair : Nat × Nat} (member : pair ∈ inner) :
    ∃ cover ∈ outer, cover.1 ≤ pair.1 ∧ pair.2 ≤ cover.2 := by
  induction outer generalizing inner with
  | nil =>
      rw [within, List.isEmpty_iff] at isWithin
      rw [isWithin] at member
      cases member
  | cons first rest ih =>
      rw [within] at isWithin
      have split := List.takeWhile_append_dropWhile
        (p := fun pair => Nat.ble first.1 pair.1 && Nat.ble pair.2 first.2) (l := inner)
      rw [← split] at member
      rcases List.mem_append.mp member with here | later
      · have covered := List.mem_takeWhile_imp here
        rcases Bool.and_eq_true_iff.mp covered with ⟨low, high⟩
        exact ⟨first, List.mem_cons_self, Nat.le_of_ble_eq_true low, Nat.le_of_ble_eq_true high⟩
      · rcases ih isWithin later with ⟨cover, isCover, bounds⟩
        exact ⟨cover, List.mem_cons_of_mem _ isCover, bounds⟩

theorem covers_of_mem {pairs : List (Nat × Nat)} {pair : Nat × Nat} {code : Nat}
    (increasing : (pairs.map (·.1)).Pairwise (fun low other => low ≤ other))
    (member : pair ∈ pairs) (above : pair.1 ≤ code) (below : code ≤ pair.2) :
    covers pairs code = true := by
  induction pairs with
  | nil => cases member
  | cons first rest ih =>
      rcases first with ⟨low, high⟩
      have parts := List.pairwise_cons.mp increasing
      rw [covers]
      rcases List.mem_cons.mp member with same | later
      · cases same
        have notOutside : ¬code < low := Nat.not_lt.mpr above
        simp only [if_neg notOutside, below, decide_true, Bool.true_or]
      · have isLow : low ≤ pair.1 := parts.1 _ (List.mem_map_of_mem later)
        have notOutside : ¬code < low := by omega
        rw [if_neg notOutside, ih parts.2 later, Bool.or_true]

end Intervals

private theorem continueTable_increasing :
    (identifierContinueTable.pairs.map (·.1)).Pairwise (fun low other => low ≤ other) := by
  have chain : (identifierContinueTable.pairs.map (·.1)).IsChain (· ≤ ·) := by decide +kernel
  exact chain.pairwise

private theorem startTable_within :
    Intervals.within identifierStartTable.pairs identifierContinueTable.pairs = true := by
  decide +kernel

/-- What can begin an identifier can also continue one. -/
theorem continues_of_starts {c : Char} (starts : identifierStartTable.has c = true) :
    identifierContinueTable.has c = true := by
  rcases Intervals.exists_of_covers starts with ⟨pair, member, above, below⟩
  rcases Intervals.exists_of_within startTable_within member with ⟨cover, isCover, low, high⟩
  exact Intervals.covers_of_mem continueTable_increasing isCover (by omega) (by omega)

/-- The word characters of a run, and what the run gives for them, can begin an identifier. -/
def CaseRun.keepsStarts (run : CaseRun) : Bool :=
  let starts := Intervals.spans identifierStartTable.pairs
  let changed := starts (run.first + run.shift).toNat (run.last + run.shift).toNat
  -- The table of word characters is needed for the few runs only that have other characters.
  (starts run.first run.last && changed) ||
    wordTable.pairs.all (fun pair =>
      Nat.blt run.last pair.1 || Nat.blt pair.2 run.first ||
        (starts (max pair.1 run.first) (min pair.2 run.last) && changed))

private theorem lowerRuns_keepStarts : lowerRuns.all CaseRun.keepsStarts = true := by
  decide +kernel

private theorem lowerExpansions_identifiers :
    ∀ entry ∈ lowerExpansions, identifierStartTable.has (Char.ofNat entry.1) = true ∧
      isIdentifier (entry.2.map Char.ofNat) = true := by
  decide

theorem CaseRun.starts_of_keepsStarts {run : CaseRun} (kept : run.keepsStarts = true)
    (above : run.staysAbove = true) {c : Char} (inWord : isWord c = true)
    (low : run.first ≤ c.toNat) (high : c.toNat ≤ run.last) :
    identifierStartTable.has c = true ∧ identifierStartTable.has (run.apply c.toNat) = true := by
  have changes : Intervals.spans identifierStartTable.pairs (run.first + run.shift).toNat
      (run.last + run.shift).toNat = true →
      identifierStartTable.has (run.apply c.toNat) = true := by
    intro changed
    unfold Intervals.has
    rw [toNat_apply above low high]
    exact Intervals.covers_of_spans changed (by omega) (by omega)
  simp only [keepsStarts, Bool.or_eq_true, Bool.and_eq_true, List.all_eq_true,
    Nat.blt_eq] at kept
  rcases kept with ⟨given, changed⟩ | kept
  · exact ⟨Intervals.covers_of_spans given low high, changes changed⟩
  · rcases Intervals.exists_of_covers inWord with ⟨pair, member, pairLow, pairHigh⟩
    rcases kept pair member with apart | ⟨given, changed⟩
    · omega
    · exact ⟨Intervals.covers_of_spans given (by omega) (by omega), changes changed⟩

/-- A word character is its own lower case form, or it can begin an identifier and its form is
one. -/
theorem lowerOf_cases {c : Char} (inWord : isWord c = true) :
    lowerOf c = [c] ∨ identifierStartTable.has c = true ∧ isIdentifier (lowerOf c) = true := by
  unfold lowerOf mapCase
  cases isRun : CaseRun.find? lowerRuns c.toNat with
  | some run =>
      right
      rcases CaseRun.bounds_of_find? isRun with ⟨member, low, high⟩
      have kept := List.all_eq_true.mp lowerRuns_keepStarts run member
      have above := lowerRuns_staysAbove run member
      have starts := CaseRun.starts_of_keepsStarts kept above inWord low high
      refine ⟨starts.1, ?_⟩
      simp only [isIdentifier, starts.2, List.all_nil, Bool.and_self]
  | none =>
      cases isExpansion : expansion? lowerExpansions c.toNat with
      | none => exact Or.inl rfl
      | some forms =>
          right
          rcases mem_of_expansion? isExpansion with ⟨entry, isEntry, isCode, same⟩
          have parts := lowerExpansions_identifiers entry isEntry
          rw [isCode, Char.ofNat_toNat] at parts
          rw [same]
          exact parts

@[mk_iff]
structure OpensIdentifier (text : List Char) : Prop where
  starts : ∀ first, text.head? = some first → identifierStartTable.has first = true
  continues : ∀ c ∈ text, identifierContinueTable.has c = true

theorem OpensIdentifier.of_isIdentifier {text : List Char} (isWhole : isIdentifier text = true) :
    OpensIdentifier text := by
  cases text with
  | nil => cases isWhole
  | cons first rest =>
      rcases Bool.and_eq_true_iff.mp isWhole with ⟨starts, continues⟩
      constructor
      · intro c isFirst
        cases isFirst
        exact starts
      · intro c member
        rcases List.mem_cons.mp member with same | later
        · rw [same]
          exact continues_of_starts starts
        · exact List.all_eq_true.mp continues c later

/-- Before an identifier stands what opens one, so that the two together are an identifier. -/
theorem isIdentifier_append_iff {text ending : List Char} (isEnding : isIdentifier ending = true) :
    isIdentifier (text ++ ending) = true ↔ OpensIdentifier text := by
  constructor
  · intro isWhole
    have opens := OpensIdentifier.of_isIdentifier isWhole
    constructor
    · intro first isFirst
      apply opens.starts
      rw [List.head?_append, isFirst, Option.some_or]
    · intro c member
      exact opens.continues c (List.mem_append_left _ member)
  · intro opens
    cases text with
    | nil => exact isEnding
    | cons first rest =>
        have behind := (OpensIdentifier.of_isIdentifier isEnding).continues
        rw [List.cons_append, isIdentifier, opens.starts first rfl, Bool.true_and,
          List.all_append, Bool.and_eq_true, List.all_eq_true, List.all_eq_true]
        exact ⟨fun c member => opens.continues c (List.mem_cons_of_mem _ member), behind⟩

theorem isIdentifier_append {text more : List Char} (isWhole : isIdentifier text = true)
    (continues : ∀ c ∈ more, identifierContinueTable.has c = true) :
    isIdentifier (text ++ more) = true := by
  cases text with
  | nil => cases isWhole
  | cons first rest =>
      rcases Bool.and_eq_true_iff.mp isWhole with ⟨starts, others⟩
      rw [List.cons_append, isIdentifier, starts, Bool.true_and, List.all_append, others,
        Bool.true_and, List.all_eq_true]
      exact continues

/-- Characters that are put in behind the first one do not matter, if they can stand there. -/
theorem opensIdentifier_iff_of_head? {text other : List Char} (sameHead : other.head? = text.head?)
    (kept : text ⊆ other)
    (added : ∀ c ∈ other, identifierContinueTable.has c = true ∨ c ∈ text) :
    OpensIdentifier other ↔ OpensIdentifier text := by
  constructor
  · intro opens
    exact ⟨fun first isFirst => opens.starts first (sameHead ▸ isFirst),
      fun c member => opens.continues c (kept member)⟩
  · intro opens
    refine ⟨fun first isFirst => opens.starts first (sameHead ▸ isFirst), ?_⟩
    intro c member
    rcases added c member with continues | given
    · exact continues
    · exact opens.continues c given

/-- Lower case replaces the first character by one form, which is the character itself or keeps it
in identifiers. -/
theorem lowerAfter_cons (cased : Bool) {c : Char} (rest : List Char) (inWord : isWord c = true) :
    ∃ form seen, lowerAfter cased (c :: rest) = form ++ lowerAfter seen rest ∧
      (form = [c] ∨ identifierStartTable.has c = true ∧ isIdentifier form = true) := by
  rw [lowerAfter]
  by_cases sigma : c = 'Σ'
  · rw [if_pos sigma, sigma]
    refine ⟨[_], _, rfl, Or.inr ⟨by decide, ?_⟩⟩
    split
    · decide
    · decide
  · rw [if_neg sigma]
    exact ⟨_, _, rfl, lowerOf_cases inWord⟩

theorem continues_lowerAfter_iff {cased : Bool} {text : List Char}
    (inWords : ∀ c ∈ text, isWord c = true) :
    (∀ c ∈ lowerAfter cased text, identifierContinueTable.has c = true) ↔
      ∀ c ∈ text, identifierContinueTable.has c = true := by
  induction text generalizing cased with
  | nil => exact Iff.rfl
  | cons first rest ih =>
      have parts := List.forall_mem_cons.mp inWords
      rcases lowerAfter_cons cased rest parts.1 with ⟨form, seen, same, either⟩
      rw [same, List.forall_mem_append, ih parts.2, List.forall_mem_cons]
      apply and_congr_left'
      rcases either with itself | ⟨starts, isForm⟩
      · rw [itself, List.forall_mem_singleton]
      · exact iff_of_true (OpensIdentifier.of_isIdentifier isForm).continues
          (continues_of_starts starts)

/-- Word characters open an identifier if and only if they do so in lower case. -/
theorem opensIdentifier_lower_iff {text : List Char} (inWords : ∀ c ∈ text, isWord c = true) :
    OpensIdentifier (lower text) ↔ OpensIdentifier text := by
  have sameStart : (∀ first, (lower text).head? = some first →
      identifierStartTable.has first = true) ↔
      ∀ first, text.head? = some first → identifierStartTable.has first = true := by
    cases text with
    | nil => exact Iff.rfl
    | cons c rest =>
        have inWord := inWords c List.mem_cons_self
        rcases lowerAfter_cons false rest inWord with ⟨form, seen, same, either⟩
        unfold lower
        rw [same]
        rcases either with itself | ⟨starts, isForm⟩
        · rw [itself, List.singleton_append, List.head?_cons, List.head?_cons]
        · cases form with
          | nil => cases isForm
          | cons first others =>
              have firstStarts := (OpensIdentifier.of_isIdentifier isForm).starts first rfl
              simp only [List.cons_append, List.head?_cons, Option.some.injEq, forall_eq',
                firstStarts, starts]
  constructor
  · intro opens
    exact ⟨sameStart.mp opens.starts, (continues_lowerAfter_iff inWords).mp opens.continues⟩
  · intro opens
    exact ⟨sameStart.mpr opens.starts, (continues_lowerAfter_iff inWords).mpr opens.continues⟩

end Text
end ApiAccessors
