import ApiAccessors.Proofs.Json.Fits
import ApiAccessors.Proofs.Json.WrittenForm

namespace ApiAccessors
namespace Json

/-!
# Written values are read back

The reader takes a collection off its input if it does so with the members and with the row of them.
What is read of a row is known once its first member has been written, because the reader meets a
mark between two members only when the first of them has ended.  So the members behind the first one
are gone through with a first one that is given.
-/

private theorem isPlain_append {left right : List Char} (leftPlain : ∀ c ∈ left, IsPlain c)
    (rightPlain : ∀ c ∈ right, IsPlain c) : ∀ c ∈ left ++ right, IsPlain c :=
  List.forall_mem_append.mpr ⟨leftPlain, rightPlain⟩

private theorem isPlain_cons {c : Char} {text : List Char} (first : IsPlain c)
    (others : ∀ c ∈ text, IsPlain c) : ∀ other ∈ c :: text, IsPlain other :=
  List.forall_mem_cons.mpr ⟨first, others⟩

private theorem isPlain_bracketed {style : Style} (gaps : style.AddsGaps) (depth : Nat)
    {opening closing : Char} {head tail : List Char} (openingPlain : IsPlain opening)
    (closingPlain : IsPlain closing) (headPlain : ∀ c ∈ head, IsPlain c)
    (tailPlain : ∀ c ∈ tail, IsPlain c) :
    ∀ c ∈ bracketed style depth opening closing head tail, IsPlain c :=
  isPlain_cons openingPlain (isPlain_append (isPlain_append (isPlain_append (isPlain_append
    (gaps.opening depth).plain headPlain) tailPlain) (gaps.closing depth).plain)
    (isPlain_cons closingPlain (List.forall_mem_nil _)))

section

variable {writing reading : Nat}

/-- A value is written wherever there is room for it, and what is written is read back where there
is room for that.  A program need not have the same room for both. -/
def IsReadBack (writing reading : Nat) (style : Style) (around : List Nat) (room : Nat)
    (value : Value) : Prop :=
  ∀ depth, depth + room ≤ writing →
    ∃ text, writeValue writing style around depth value = .ok text ∧
      ReadsBack reading room text value

variable {style : Style} {around : List Nat} {room : Nat}

/-- The items behind the first one are written, and once the first one has been written the reader
takes all of them, up to the closing bracket. -/
theorem exists_writeItems (gaps : style.AddsGaps) {depth : Nat}
    (within : depth + 1 + room ≤ writing) {items : List Value}
    (back : ∀ item ∈ items, IsReadBack writing reading style around room item) :
    ∃ tail, writeItems writing style around depth items = .ok tail ∧ (∀ c ∈ tail, IsPlain c) ∧
      ∀ (level count : Nat) (before : List Value) {first : Value} {head gap : List Char}
        (behind : List Char), ReadsBack reading room head first → IsGap gap →
        level + room ≤ reading → 2 * (head.length + tail.length) + 1 ≤ count →
        readItems reading level count before (head ++ (tail ++ (gap ++ ']' :: behind))) =
          .ok (.list (before.reverse ++ first :: items), behind) := by
  induction items with
  | nil =>
      refine ⟨[], rfl, List.forall_mem_nil _, ?_⟩
      intro level count before first head gap behind headBack isGap deep enough
      cases count with
      | zero => omega
      | succ count =>
          have ends : EndsNumber (gap ++ ']' :: behind) :=
            endsNumber_gap isGap (endsNumber_cons (by decide) _)
          have read := headBack.reads level count _ deep (by omega) ends
          rw [readItems, List.nil_append, read]
          simp only [skipSpace_gap isGap (show isSpace ']' = false by decide), List.reverse_cons]
  | cons item items ih =>
      rcases ih (fun other member => back other (List.mem_cons_of_mem _ member)) with
        ⟨tail, isTail, tailPlain, readTail⟩
      rcases back item List.mem_cons_self (depth + 1) within with ⟨text, isText, textBack⟩
      rcases gaps.between depth with ⟨between, isBetween, betweenGap⟩
      refine ⟨style.between depth ++ text ++ tail, ?_, ?_, ?_⟩
      · rw [writeItems, isText, isTail]
      · rw [isBetween]
        exact isPlain_append (isPlain_append (isPlain_cons (by decide) betweenGap.plain)
          textBack.plain) tailPlain
      · intro level count before first head gap behind headBack isGap deep enough
        rw [isBetween] at enough ⊢
        have comma : isSpace ',' = false := by decide
        have isRow : ',' :: between ++ text ++ tail ++ (gap ++ ']' :: behind) =
            ',' :: (between ++ (text ++ (tail ++ (gap ++ ']' :: behind)))) := by
          simp only [List.cons_append, List.append_assoc]
        simp only [List.cons_append, List.length_cons, List.length_append] at enough
        cases count with
        | zero => omega
        | succ count =>
            have ends : EndsNumber
                (',' :: (between ++ (text ++ (tail ++ (gap ++ ']' :: behind))))) :=
              endsNumber_cons (by decide) _
            have read := headBack.reads level count _ deep (by omega) ends
            -- The first item joins those before it, and the next one takes its place.
            have later := readTail level count (first :: before) behind textBack isGap deep
              (by omega)
            rw [isRow, readItems, read]
            simp only [skipSpace_cons comma, textBack.skipSpace_gap betweenGap, later,
              List.reverse_cons, List.append_assoc, List.singleton_append]

theorem isReadBack_list (gaps : style.AddsGaps) {items : List Value}
    (back : ∀ item ∈ items, IsReadBack writing reading style around room item) :
    IsReadBack writing reading style around (room + 1) (.list items) := by
  intro depth within
  have writable : ¬writing ≤ depth := by omega
  cases items with
  | nil =>
      refine ⟨['[', ']'], by rw [writeValue, writeRow, if_neg writable],
        ⟨_, _, rfl, by decide, by decide⟩, isPlain_of_all (by decide), ?_⟩
      intro level count rest deep enough _
      cases count with
      | zero => simp at enough
      | succ count =>
          have shallow : ¬reading ≤ level := by omega
          change readValue reading level (count + 1) ('[' :: ']' :: rest) = _
          rw [readValue, if_neg shallow, skipSpace_cons (by decide)]
          rfl
  | cons first items =>
      rcases back first List.mem_cons_self (depth + 1) (by omega) with ⟨head, isHead, headBack⟩
      rcases exists_writeItems gaps (show depth + 1 + room ≤ writing by omega)
        (fun other member => back other (List.mem_cons_of_mem _ member)) with
        ⟨tail, isTail, tailPlain, readTail⟩
      refine ⟨bracketed style depth '[' ']' head tail, ?_, ⟨_, _, rfl, by decide, by decide⟩,
        isPlain_bracketed gaps depth (by decide) (by decide) headBack.plain tailPlain, ?_⟩
      · rw [writeValue, writeRow, if_neg writable, isHead, isTail]
      · intro level count rest deep enough _
        have isText : bracketed style depth '[' ']' head tail ++ rest =
            '[' :: (style.opening depth ++ (head ++ (tail ++
              (style.closing depth ++ ']' :: rest)))) := by
          simp only [bracketed, List.cons_append, List.append_assoc, List.nil_append]
        simp only [bracketed, List.length_cons, List.length_append, List.length_nil] at enough
        cases count with
        | zero => omega
        | succ count =>
            have shallow : ¬reading ≤ level := by omega
            have read := readTail (level + 1) count [] rest headBack (gaps.closing depth)
              (by omega) (by omega)
            rw [isText, readValue, if_neg shallow,
              headBack.skipSpace_gap (gaps.opening depth)]
            split
            · rename_i others closes
              rcases headBack.begins with ⟨c, later, begins, -, notClose⟩
              rw [begins] at closes
              exact absurd (List.cons.inj closes).1 notClose
            · exact read

/-- A member is read up to the end of its value and put behind the entries before it.  Then the
mapping ends, or the next member is read. -/
private theorem readMembers_member {level count : Nat} {before : Entries} {name : String}
    {value : Value} {head rest : List Char} (back : ReadsBack reading room head value)
    (deep : level + room ≤ reading) (enough : 2 * head.length ≤ count) (ends : EndsNumber rest)
    (new : .text name ∉ before.map (·.1)) (others : List Char) :
    (skipSpace rest = '\x7d' :: others →
      readMembers reading level (count + 1) before
          (writeString name ++ (':' :: ' ' :: (head ++ rest))) =
        .ok (.map (before ++ [(.text name, value)]), others)) ∧
    (skipSpace rest = ',' :: others →
      readMembers reading level (count + 1) before
          (writeString name ++ (':' :: ' ' :: (head ++ rest))) =
        readMembers reading level count (before ++ [(.text name, value)]) (skipSpace others)) := by
  have colon : isSpace ':' = false := by decide
  have blank : IsGap [' '] := List.forall_mem_singleton.mpr (Or.inl rfl)
  have behind : skipSpace (' ' :: (head ++ rest)) = head ++ rest := back.skipSpace_gap blank rest
  unfold writeString
  rw [List.cons_append, readMembers, readString_writeString]
  simp only [skipSpace_cons colon, behind, back.reads level count rest deep enough ends,
    String.ofList_toList, Entries.insert_of_not_mem new]
  constructor
  · intro closes
    simp only [closes]
  · intro continues
    simp only [continues]

/-- The members behind the first one are written, and once the first one has been written the reader
takes all of them, up to the closing brace. -/
theorem exists_writeMembers (gaps : style.AddsGaps) {depth : Nat}
    (within : depth + 1 + room ≤ writing) {entries : Entries}
    (texts : ∀ entry ∈ entries, ∃ name, entry.1 = .text name)
    (back : ∀ entry ∈ entries, IsReadBack writing reading style around room entry.2) :
    ∃ tail, writeMembers writing style around depth entries = .ok tail ∧ (∀ c ∈ tail, IsPlain c) ∧
      ∀ (level count : Nat) (before : Entries) (name : String) {value : Value}
        {head gap : List Char} (behind : List Char), ReadsBack reading room head value →
        IsGap gap → level + room ≤ reading →
        2 * (head.length + tail.length) + 1 ≤ count →
        ((before ++ (.text name, value) :: entries).map (·.1)).Nodup →
        readMembers reading level count before
            (writeString name ++ (':' :: ' ' :: (head ++ (tail ++ (gap ++ '\x7d' :: behind))))) =
          .ok (.map (before ++ (.text name, value) :: entries), behind) := by
  have new : ∀ {before after : Entries} {name : String} {value : Value},
      ((before ++ (.text name, value) :: after).map (·.1)).Nodup →
      .text name ∉ before.map (·.1) := by
    intro before after name value differ member
    rw [List.map_append] at differ
    exact (List.nodup_append.mp differ).2.2 _ member _ List.mem_cons_self rfl
  induction entries with
  | nil =>
      refine ⟨[], rfl, List.forall_mem_nil _, ?_⟩
      intro level count before name value head gap behind headBack isGap deep enough differ
      cases count with
      | zero => omega
      | succ count =>
          have ends : EndsNumber (gap ++ '\x7d' :: behind) :=
            endsNumber_gap isGap (endsNumber_cons (by decide) _)
          have brace : isSpace '\x7d' = false := by decide
          exact (readMembers_member headBack deep (by omega) ends (new differ) behind).1
            (skipSpace_gap isGap brace behind)
  | cons entry entries ih =>
      rcases ih (fun other member => texts other (List.mem_cons_of_mem _ member))
        (fun other member => back other (List.mem_cons_of_mem _ member)) with
        ⟨tail, isTail, tailPlain, readTail⟩
      rcases back entry List.mem_cons_self (depth + 1) within with ⟨text, isText, textBack⟩
      rcases texts entry List.mem_cons_self with ⟨key, isKey⟩
      rcases gaps.between depth with ⟨between, isBetween, betweenGap⟩
      rcases entry with ⟨_, item⟩
      cases isKey
      refine ⟨style.between depth ++ writeString key ++ [':', ' '] ++ text ++ tail, ?_, ?_, ?_⟩
      · rw [writeMembers, isText, isTail]
        rfl
      · rw [isBetween]
        exact isPlain_append (isPlain_append (isPlain_append (isPlain_append
          (isPlain_cons (by decide) betweenGap.plain) (fun _ => isPlain_of_mem_writeString))
          (isPlain_of_all (by decide))) textBack.plain) tailPlain
      · intro level count before name value head gap behind headBack isGap deep enough differ
        rw [isBetween] at enough ⊢
        have comma : isSpace ',' = false := by decide
        have isRow : ',' :: between ++ writeString key ++ [':', ' '] ++ text ++ tail ++
            (gap ++ '\x7d' :: behind) = ',' :: (between ++ (writeString key ++ (':' :: ' ' ::
              (text ++ (tail ++ (gap ++ '\x7d' :: behind)))))) := by
          simp only [List.cons_append, List.append_assoc, List.nil_append]
        simp only [List.cons_append, List.length_cons, List.length_append] at enough
        cases count with
        | zero => omega
        | succ count =>
            have ends : EndsNumber (',' :: (between ++ (writeString key ++ (':' :: ' ' ::
                (text ++ (tail ++ (gap ++ '\x7d' :: behind))))))) :=
              endsNumber_cons (by decide) _
            have differLater := differ
            rw [List.append_cons] at differLater
            have later := readTail level count (before ++ [(.text name, value)]) key behind
              textBack isGap deep (by omega) differLater
            have next := readMembers_member headBack deep (show 2 * head.length ≤ count by omega)
              ends (new differ)
            rw [isRow, (next _).2 (skipSpace_cons comma _)]
            simp only [(readsBack_text reading 0 key).skipSpace_gap betweenGap, later,
              List.append_assoc, List.singleton_append]

theorem isReadBack_map (gaps : style.AddsGaps) {entries : Entries}
    (texts : ∀ entry ∈ entries, ∃ name, entry.1 = .text name)
    (differ : (entries.map (·.1)).Nodup)
    (back : ∀ entry ∈ entries, IsReadBack writing reading style around room entry.2) :
    IsReadBack writing reading style around (room + 1) (.map entries) := by
  intro depth within
  have writable : ¬writing ≤ depth := by omega
  cases entries with
  | nil =>
      refine ⟨['\x7b', '\x7d'], by rw [writeValue, if_neg writable],
        ⟨_, _, rfl, by decide, by decide⟩, isPlain_of_all (by decide), ?_⟩
      intro level count rest deep enough _
      cases count with
      | zero => simp at enough
      | succ count =>
          have shallow : ¬reading ≤ level := by omega
          change readValue reading level (count + 1) ('\x7b' :: '\x7d' :: rest) = _
          rw [readValue, if_neg shallow, skipSpace_cons (by decide)]
          rfl
  | cons entry entries =>
      rcases back entry List.mem_cons_self (depth + 1) (by omega) with ⟨head, isHead, headBack⟩
      rcases texts entry List.mem_cons_self with ⟨name, isName⟩
      rcases exists_writeMembers gaps (show depth + 1 + room ≤ writing by omega)
        (fun other member => texts other (List.mem_cons_of_mem _ member))
        (fun other member => back other (List.mem_cons_of_mem _ member)) with
        ⟨tail, isTail, tailPlain, readTail⟩
      rcases entry with ⟨_, value⟩
      cases isName
      have namePlain : ∀ c ∈ writeString name, IsPlain c := fun _ => isPlain_of_mem_writeString
      have headPlain := isPlain_append (isPlain_append namePlain
        (show ∀ c ∈ [':', ' '], IsPlain c from isPlain_of_all (by decide))) headBack.plain
      refine ⟨bracketed style depth '\x7b' '\x7d' (writeString name ++ [':', ' '] ++ head) tail, ?_,
        ⟨_, _, rfl, by decide, by decide⟩,
        isPlain_bracketed gaps depth (by decide) (by decide) headPlain tailPlain, ?_⟩
      · rw [writeValue, if_neg writable, isHead, isTail]
        rfl
      · intro level count rest deep enough _
        have isText :
            bracketed style depth '\x7b' '\x7d' (writeString name ++ [':', ' '] ++ head) tail ++
              rest = '\x7b' :: (style.opening depth ++ (writeString name ++ (':' :: ' ' :: (head ++
                (tail ++ (style.closing depth ++ '\x7d' :: rest)))))) := by
          simp only [bracketed, List.cons_append, List.append_assoc, List.nil_append]
        simp only [bracketed, List.length_cons, List.length_append, List.length_nil] at enough
        cases count with
        | zero => omega
        | succ count =>
            have shallow : ¬reading ≤ level := by omega
            have read := readTail (level + 1) count [] name rest headBack (gaps.closing depth)
              (by omega) (by omega) differ
            rw [isText, readValue, if_neg shallow,
              (readsBack_text reading 0 name).skipSpace_gap (gaps.opening depth)]
            exact read

end

/-- Whatever fits is read back from its written form in every style. -/
theorem Fits.isReadBack {writing reading : Nat} {style : Style}
    (gaps : style.AddsGaps) (around : List Nat) {room : Nat} {value : Value}
    (fits : Fits room value) : IsReadBack writing reading style around room value := by
  induction fits with
  | null room => exact fun _ _ => ⟨_, rfl, readsBack_null reading room⟩
  | bool room value => exact fun _ _ => ⟨_, rfl, readsBack_bool reading room value⟩
  | int room short =>
      intro depth _
      refine ⟨_, ?_, readsBack_int reading room short⟩
      have notLong : Value.isLongInteger _ = false := decide_eq_false (Nat.not_lt.mpr short)
      rw [writeValue, scalarText, notLong, if_neg Bool.false_ne_true]
      · rfl
      all_goals
        intros
        contradiction
  | text room value => exact fun _ _ => ⟨_, rfl, readsBack_text reading room value⟩
  | list fit back => exact isReadBack_list gaps back
  | map texts differ fit back => exact isReadBack_map gaps texts differ back

theorem endsNumber_of_isGap {gap : List Char} (isGap : IsGap gap) : EndsNumber gap := by
  have nothing : EndsNumber [] := fun _ impossible => by cases impossible
  have ends := endsNumber_gap isGap nothing
  rw [List.append_nil] at ends
  exact ends

/-- A text that is read back as a value is one as a whole, also with a gap behind it. -/
theorem ReadsBack.read_append {limit room : Nat} {text : List Char} {value : Value}
    (back : ReadsBack limit room text value) (readable : room ≤ limit) {gap : List Char}
    (isGap : IsGap gap) :
    read limit (text ++ gap) = .ok value := by
  have noMark : ∀ rest, text ++ gap ≠ '\uFEFF' :: rest := by
    intro rest begins
    rcases back.begins with ⟨c, others, isText, -⟩
    have plain := back.plain c (isText ▸ List.mem_cons_self)
    rw [isText] at begins
    rw [(List.cons.inj begins).1] at plain
    exact absurd plain (by decide)
  have front : skipSpace (text ++ gap) = text ++ gap :=
    back.skipSpace_gap (List.forall_mem_nil _) gap
  have enough : 2 * text.length ≤ 2 * (text ++ gap).length + 2 := by
    rw [List.length_append]
    omega
  have none : skipSpace gap = [] := by
    have skipped := skipSpace_append isGap []
    rw [List.append_nil] at skipped
    exact skipped
  rw [read]
  · rw [front, back.reads 0 _ gap (by omega) enough (endsNumber_of_isGap isGap)]
    simp only [none]
  · exact noMark

/-- Whatever fits has a written form in every style, and the value is read from it. -/
theorem Fits.exists_write {writing reading room : Nat} {style : Style} (gaps : style.AddsGaps)
    {value : Value} (fits : Fits room value) (writable : room ≤ writing)
    (readable : room ≤ reading) :
    ∃ text, write writing style value = .ok text ∧ (∀ c ∈ text.toList, IsPlain c) ∧
      ∀ gap, IsGap gap → read reading (text.toList ++ gap) = .ok value := by
  have isReadBack : IsReadBack writing reading style [] room value := fits.isReadBack gaps []
  rcases isReadBack 0 ((Nat.zero_add room).trans_le writable) with ⟨text, isText, back⟩
  refine ⟨String.ofList text, ?_, ?_, ?_⟩
  · unfold write
    rw [isText]
    rfl
  · rw [String.toList_ofList]
    exact back.plain
  · intro gap isGap
    rw [String.toList_ofList]
    exact back.read_append readable isGap

end Json
end ApiAccessors
