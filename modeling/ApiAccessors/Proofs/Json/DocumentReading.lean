import ApiAccessors.Proofs.Document.DistinctKeys
import ApiAccessors.Proofs.Json.Document
import ApiAccessors.Proofs.Json.Refused
import ApiAccessors.Proofs.Json.WrittenForm
import ApiAccessors.Text.Split

namespace ApiAccessors
namespace Json

/-!
# Documents are read

Whatever the grammar derives the reader takes, and it gives the value that the grammar says.  The
reader looks at no more than one character behind a value, so what stands there matters only for
numbers, which go on as long as they can.
-/

/-! ## Strings -/

theorem readUnits_numbered (opened : Nat) {a b c d : Char} {unit : Nat}
    (isUnit : fourHex? a b c d = some unit) {rest : List Char} (follows : rest ≠ []) :
    readUnits opened ('\\' :: 'u' :: a :: b :: c :: d :: rest) =
      consUnit unit (readUnits opened rest) := by
  have isMore : rest.isEmpty = false := by simpa using follows
  rw [readUnits, isUnit, isMore]

theorem IsPiece.readUnits_append {piece : List Char} {unit : Nat} (isPiece : IsPiece piece unit)
    (opened : Nat) {rest : List Char} (follows : rest ≠ []) :
    readUnits opened (piece ++ rest) = consUnit unit (readUnits opened rest) := by
  cases isPiece with
  | plain notQuote notBackslash notControl =>
      exact readUnits_plain opened notQuote notBackslash notControl rest
  | marked isMark => exact readUnits_marked opened isMark rest
  | numbered isUnit => exact readUnits_numbered opened isUnit follows

theorem IsString.readUnits_append {raw : List Char} {units : List Nat}
    (isString : IsString raw units) (opened : Nat) (rest : List Char) :
    readUnits opened (raw ++ '"' :: rest) = .ok (units, rest) := by
  induction isString with
  | nil => rfl
  | cons isPiece isString ih =>
      rw [List.append_assoc, isPiece.readUnits_append opened (by simp), ih]
      rfl

theorem IsString.readString_append {raw : List Char} {units : List Nat}
    (isString : IsString raw units) (paired : arePaired units = true) (opened : Nat)
    (rest : List Char) :
    readString opened (raw ++ '"' :: rest) = .ok (joinUnits units, rest) := by
  unfold readString
  rw [isString.readUnits_append]
  exact if_pos paired

/-! ## Numbers -/

/-- No digit comes next. -/
def EndsDigits (text : List Char) : Prop := ∀ c ∈ text.head?, Text.isAsciiDigit c = false

theorem EndsNumber.endsDigits {text : List Char} (ends : EndsNumber text) : EndsDigits text :=
  fun c isFirst => (ends c isFirst).1

theorem endsDigits_cons {c : Char} (noDigit : Text.isAsciiDigit c = false) (rest : List Char) :
    EndsDigits (c :: rest) := by
  intro first isFirst
  cases isFirst
  exact noDigit

/-- The digits in front of something else are found. -/
theorem Digits.span_append (digits : Digits) {rest : List Char} (ends : EndsDigits rest) :
    (digits.chars ++ rest).takeWhile Text.isAsciiDigit = digits.chars ∧
      (digits.chars ++ rest).dropWhile Text.isAsciiDigit = rest :=
  Text.span_append digits.areDigits ends

theorem Digits.exists_cons (digits : Digits) :
    ∃ first others, digits.chars = first :: others ∧ Text.isAsciiDigit first = true := by
  rcases List.exists_cons_of_ne_nil digits.notEmpty with ⟨first, others, same⟩
  exact ⟨first, others, same, digits.areDigits first (same ▸ List.mem_cons_self)⟩

theorem Exponent.readExponent_append (exponent : Exponent) {rest : List Char}
    (ends : EndsNumber rest) :
    readExponent (exponent.text ++ rest) = some (exponent.value, rest) := by
  rcases exponent with ⟨mark, isMark, sign, isSign, digits⟩
  have marks : (decide (mark = 'e') || decide (mark = 'E')) = true := by simpa using isMark
  rcases digits.span_append ends.endsDigits with ⟨taken, left⟩
  unfold readExponent text value
  rcases isSign with rfl | rfl | rfl
  · rcases digits.exists_cons with ⟨first, others, isDigits, isDigit⟩
    have noSign : first ≠ '-' ∧ first ≠ '+' := by
      constructor
      · rintro rfl
        cases isDigit
      · rintro rfl
        cases isDigit
    rw [isDigits, List.cons_append] at taken left
    rw [isDigits]
    simp [marks, noSign, taken, left]
  · simp [marks, taken, left, digits.notEmpty]
  · simp [marks, taken, left, digits.notEmpty]

namespace Numeral

variable (numeral : Numeral) {rest : List Char}

theorem readWhole_append (ends : EndsDigits rest) :
    readWhole (numeral.whole.chars ++ rest) = some (numeral.whole.chars, rest) := by
  rcases numeral.whole.span_append ends with ⟨taken, left⟩
  by_cases isZero : numeral.whole.chars.head? = some '0'
  · rw [numeral.noLeadingZero isZero]
    rfl
  · rw [readWhole]
    · rw [taken, left, if_neg (by simp [numeral.whole.notEmpty])]
    · intro others begins
      have isFirst := congrArg List.head? begins
      rw [List.head?_append_of_ne_nil _ numeral.whole.notEmpty] at isFirst
      exact isZero isFirst

/-- What stands behind the whole part does not continue it. -/
theorem endsDigits_exponentText (ends : EndsNumber rest) :
    EndsDigits (numeral.exponentText ++ rest) := by
  unfold exponentText
  cases numeral.exponent with
  | none => exact ends.endsDigits
  | some exponent =>
      refine endsDigits_cons ?_ _
      rcases exponent.isMark with same | same
      · rw [same]
        rfl
      · rw [same]
        rfl

theorem endsDigits_fractionText (ends : EndsNumber rest) :
    EndsDigits (numeral.fractionText ++ (numeral.exponentText ++ rest)) := by
  unfold fractionText
  cases numeral.places with
  | none => exact numeral.endsDigits_exponentText ends
  | some places => exact endsDigits_cons rfl _

theorem readExponent_append (ends : EndsNumber rest) :
    readExponent (numeral.exponentText ++ rest) =
      numeral.exponent.map (fun exponent => (exponent.value, rest)) := by
  unfold exponentText
  cases numeral.exponent with
  | none => exact readExponent_of_endsNumber ends
  | some exponent => exact exponent.readExponent_append ends

theorem readFraction_append (ends : EndsNumber rest) :
    readFraction (numeral.fractionText ++ (numeral.exponentText ++ rest)) =
      numeral.places.map (fun places => (places.chars, numeral.exponentText ++ rest)) := by
  have endsPlaces := numeral.endsDigits_exponentText ends
  unfold fractionText
  cases numeral.places with
  | some places =>
      rcases places.span_append endsPlaces with ⟨taken, left⟩
      simp [readFraction, taken, left, places.notEmpty]
  | none =>
      have noPoint : ∀ others, numeral.exponentText ++ rest ≠ '.' :: others := by
        intro others begins
        unfold exponentText at begins
        cases isExponent : numeral.exponent with
        | none =>
            rw [isExponent] at begins
            change rest = _ at begins
            rw [begins] at ends
            exact (ends '.' rfl).2.1 rfl
        | some exponent =>
            rw [isExponent] at begins
            have isPoint : exponent.mark = '.' := (List.cons.inj begins).1
            rcases exponent.isMark with isMark | isMark
            · cases isMark.symm.trans isPoint
            · cases isMark.symm.trans isPoint
      change readFraction (numeral.exponentText ++ rest) = none
      unfold readFraction
      split
      · rename_i others begins
        exact absurd begins (noPoint others)
      · rfl

/-- A number begins with a digit, behind its sign. -/
theorem exists_cons :
    ∃ first others, numeral.unsignedText = first :: others ∧ Text.isAsciiDigit first = true := by
  rcases numeral.whole.exists_cons with ⟨first, others, isWhole, isDigit⟩
  exact ⟨first, _, congrArg (· ++ _) isWhole, isDigit⟩

theorem readNumber_append (short : numeral.IsShort) (ends : EndsNumber rest) :
    readNumber (numeral.text ++ rest) = .ok (numeral.value, rest) := by
  have isWhole := numeral.readWhole_append (numeral.endsDigits_fractionText ends)
  have isFraction := numeral.readFraction_append ends
  have isExponent := numeral.readExponent_append ends
  have isUnsignedText : numeral.unsignedText ++ rest =
      numeral.whole.chars ++ (numeral.fractionText ++ (numeral.exponentText ++ rest)) := by
    simp only [unsignedText, List.append_assoc]
  have noSign : ∀ others, numeral.unsignedText ++ rest ≠ '-' :: others := by
    rcases numeral.exists_cons with ⟨first, later, begins, isDigit⟩
    intro others same
    rw [begins] at same
    rw [(List.cons.inj same).1] at isDigit
    cases isDigit
  unfold readNumber
  split
  rename_i negative unsigned isUnsigned
  have isSplit : negative = numeral.negative ∧ unsigned = numeral.unsignedText ++ rest := by
    unfold text at isUnsigned
    cases isNegative : numeral.negative with
    | true =>
        rw [isNegative] at isUnsigned
        cases isUnsigned
        exact ⟨rfl, rfl⟩
    | false =>
        rw [isNegative, if_neg Bool.false_ne_true] at isUnsigned
        split at isUnsigned
        · rename_i others begins
          exact absurd begins (noSign others)
        · cases isUnsigned
          exact ⟨rfl, rfl⟩
  rw [isSplit.1, isSplit.2, isUnsignedText, isWhole]
  simp only [isFraction]
  unfold IsShort isInteger at short
  unfold value realValue integerValue isInteger placeChars
  cases isPlaces : numeral.places with
  | some places =>
      simp only [Option.map_some, Option.getD_some, isExponent]
      cases exponent : numeral.exponent with
      | none => simp [exponentText, exponent]
      | some exponent => simp
  | none =>
      have isFractionText : numeral.fractionText = [] := by
        unfold fractionText
        rw [isPlaces]
        rfl
      rw [isPlaces] at short
      simp only [Option.map_none, Option.getD_none, isFractionText, List.nil_append, isExponent]
      cases exponent : numeral.exponent with
      | none =>
          rw [exponent] at short
          simp [exponentText, exponent, Nat.not_lt.mpr (short rfl)]
      | some exponent => simp

end Numeral

/-! ## Values -/

/-- The rules of the notation itself.  The length of an integer is a bound of the reader, and no
text has half of a surrogate pair without the other half. -/
def readable : Rules where
  gap := fun gap => ∀ c ∈ gap, isSpace c = true
  string := fun _ units => arePaired units = true
  colon := fun _ gap => ∀ c ∈ gap, isSpace c = true
  numeral := Numeral.IsShort

/-- A text is taken off the front of the input as a value, wherever there is room for it. -/
structure IsTaken (limit room : Nat) (text : List Char) (value : Value) : Prop where
  begins : ∃ c rest, text = c :: rest ∧ isSpace c = false ∧ c ≠ ']'
  reads : ∀ depth count rest, depth + room ≤ limit → 2 * text.length ≤ count →
    EndsNumber rest → readValue limit depth count (text ++ rest) = .ok (value, rest)

theorem ReadsBack.isTaken {limit room : Nat} {text : List Char} {value : Value}
    (back : ReadsBack limit room text value) : IsTaken limit room text value :=
  ⟨back.begins, back.reads⟩

section

variable {limit room : Nat} {text gap : List Char} {value : Value}

theorem skipSpace_blank (isBlank : ∀ c ∈ gap, isSpace c = true) (text : List Char) :
    skipSpace (gap ++ text) = skipSpace text :=
  List.dropWhile_append_of_pos isBlank

theorem skipSpace_mark (isBlank : ∀ c ∈ gap, isSpace c = true) {c : Char}
    (noSpace : isSpace c = false) (rest : List Char) :
    skipSpace (gap ++ c :: rest) = c :: rest := by
  rw [skipSpace_blank isBlank, skipSpace_cons noSpace]

theorem IsTaken.skipSpace_append (taken : IsTaken limit room text value) (rest : List Char) :
    skipSpace (text ++ rest) = text ++ rest := by
  rcases taken.begins with ⟨c, others, isText, noSpace, -⟩
  rw [isText, List.cons_append, skipSpace_cons noSpace]

theorem endsNumber_blank (isBlank : ∀ c ∈ gap, isSpace c = true) {text : List Char}
    (ends : EndsNumber text) : EndsNumber (gap ++ text) := by
  cases gap with
  | nil => exact ends
  | cons c rest =>
      have space := isBlank c List.mem_cons_self
      intro first isFirst
      cases isFirst
      simp only [isSpace, Bool.or_eq_true, beq_iff_eq] at space
      rcases space with ((rfl | rfl) | rfl) | rfl
      all_goals exact ⟨by decide, by decide, by decide, by decide⟩

theorem isTaken_string (limit room : Nat) {raw : List Char} {units : List Nat}
    (isString : IsString raw units) (paired : arePaired units = true) :
    IsTaken limit room (quoted raw) (.text (unitsText units)) := by
  refine ⟨⟨'"', raw ++ ['"'], rfl, by decide, by decide⟩, ?_⟩
  intro depth count rest _ enough _
  cases count with
  | zero => simp [quoted] at enough
  | succ count =>
      have isQuoted : quoted raw ++ rest = '"' :: (raw ++ '"' :: rest) := by
        simp [quoted]
      rw [isQuoted, readValue, isString.readString_append paired]
      rfl

theorem isTaken_number (limit room : Nat) {numeral : Numeral} (short : numeral.IsShort) :
    IsTaken limit room numeral.text numeral.value := by
  rcases numeral.exists_cons with ⟨digit, others, isUnsigned, isDigit⟩
  rcases apart_of_digit isDigit with ⟨noBracket, noSpace⟩
  have read : ∀ rest, EndsNumber rest →
      readNumber (numeral.text ++ rest) = .ok (numeral.value, rest) :=
    fun _ ends => numeral.readNumber_append short ends
  -- The first character decides how the reader goes on: it is a digit or the sign.
  cases isNegative : numeral.negative with
  | false =>
      have isText : numeral.text = digit :: others := by
        rw [Numeral.text, isNegative, if_neg Bool.false_ne_true, isUnsigned]
      refine ⟨⟨digit, others, isText, noSpace, ?_⟩, ?_⟩
      · rintro rfl
        cases noBracket
      · intro depth count rest _ enough ends
        have isRead := read rest ends
        rw [isText] at enough isRead ⊢
        cases count with
        | zero => simp at enough
        | succ count =>
            rw [List.cons_append] at isRead ⊢
            rw [readValue_eq_readScalar limit depth count noBracket, readScalar,
              (readWord_digit isDigit _).1]
            exact isRead
  | true =>
      have isText : numeral.text = '-' :: digit :: others := by
        rw [Numeral.text, isNegative, if_pos rfl, isUnsigned]
      refine ⟨⟨'-', digit :: others, isText, by decide, by decide⟩, ?_⟩
      intro depth count rest _ enough ends
      have isRead := read rest ends
      rw [isText] at enough isRead ⊢
      cases count with
      | zero => simp at enough
      | succ count =>
          rw [List.cons_append, List.cons_append] at isRead ⊢
          rw [readValue_eq_readScalar limit depth count (by decide), readScalar,
            (readWord_digit isDigit _).2]
          exact isRead

/-! ## Collections -/

theorem endsNumber_mark {mark : Char} (isMark : mark ∈ [' ', '\n', ',', ']', '\x7d'])
    (isBlank : ∀ c ∈ gap, isSpace c = true) (rest : List Char) :
    EndsNumber (gap ++ mark :: rest) :=
  endsNumber_blank isBlank (endsNumber_cons isMark rest)

/-- The items of a list from the text of the first one on. -/
theorem readItems_row {items : List Item} (follow : ∀ item ∈ items, item.Follows readable)
    (taken : ∀ item ∈ items, IsTaken limit room item.text item.value) {level : Nat}
    (deep : level + room ≤ limit) (count : Nat) (before : List Value) {first : Item}
    (follows : first.Follows readable) (isTaken : IsTaken limit room first.text first.value)
    (enough : 2 * (first.text.length + (rowTail ',' (items.map Item.spaced)).length) + 1 ≤ count)
    (rest : List Char) :
    readItems limit level count before (first.text ++ (first.behind ++
        (rowTail ',' (items.map Item.spaced) ++ ']' :: rest))) =
      .ok (.list (before.reverse ++ first.value :: items.map Item.value), rest) := by
  induction items generalizing first before count with
  | nil =>
      cases count with
      | zero => omega
      | succ count =>
          have ends := endsNumber_mark (show ']' ∈ _ by decide) follows.behind rest
          have bracket : isSpace ']' = false := by decide
          have read := isTaken.reads level count _ deep (by omega) ends
          change readItems limit level (count + 1) before
            (first.text ++ (first.behind ++ ']' :: rest)) = _
          rw [readItems, read]
          simp only [skipSpace_mark follows.behind bracket, List.reverse_cons, List.map_nil]
  | cons item items ih =>
      have itemFollows := follow item List.mem_cons_self
      have itemTaken := taken item List.mem_cons_self
      have comma : isSpace ',' = false := by decide
      simp only [List.map_cons, rowTail_cons, Item.spaced, List.cons_append, List.append_assoc,
        List.length_cons, List.length_append] at enough ⊢
      cases count with
      | zero => omega
      | succ count =>
          have ends := endsNumber_mark (show ',' ∈ _ by decide) follows.behind (item.before ++
            (item.text ++ (item.behind ++ (rowTail ',' (items.map Item.spaced) ++ ']' :: rest))))
          have read := isTaken.reads level count _ deep (by omega) ends
          -- The first item joins those before it, and the next one takes its place.
          have later := ih (fun other member => follow other (List.mem_cons_of_mem _ member))
            (fun other member => taken other (List.mem_cons_of_mem _ member)) count
            (first.value :: before) itemFollows itemTaken (by omega)
          rw [readItems, read]
          simp only [skipSpace_mark follows.behind comma, skipSpace_blank itemFollows.before,
            itemTaken.skipSpace_append, later, List.reverse_cons, List.append_assoc,
            List.singleton_append]

theorem isTaken_list {items : List Item} (isGap : readable.gap gap)
    (follow : ∀ item ∈ items, item.Follows readable)
    (taken : ∀ item ∈ items, IsTaken limit room item.text item.value) :
    IsTaken limit (room + 1) ('[' :: (gap ++ (row ',' (items.map Item.spaced) ++ [']'])))
      (.list (items.map Item.value)) := by
  refine ⟨⟨'[', _, rfl, by decide, by decide⟩, ?_⟩
  intro level count rest deep enough _
  have shallow : ¬limit ≤ level := by omega
  cases count with
  | zero => simp at enough
  | succ count =>
      rw [List.cons_append, readValue, if_neg shallow]
      cases items with
      | nil =>
          have bracket : isSpace ']' = false := by decide
          simp [row, skipSpace_mark isGap bracket]
      | cons first items =>
          rcases List.forall_mem_cons.mp follow with ⟨firstFollows, othersFollow⟩
          rcases List.forall_mem_cons.mp taken with ⟨firstTaken, othersTaken⟩
          simp only [List.map_cons, row, Item.spaced, List.append_assoc, List.length_cons,
            List.length_append] at enough ⊢
          have read := readItems_row othersFollow othersTaken (show level + 1 + room ≤ _ by omega)
            count [] firstFollows firstTaken (by omega) rest
          rw [skipSpace_blank isGap, skipSpace_blank firstFollows.before,
            firstTaken.skipSpace_append]
          split
          · rename_i others closes
            rcases firstTaken.begins with ⟨c, later, begins, -, notClose⟩
            rw [begins] at closes
            exact absurd (List.cons.inj closes).1 notClose
          · exact read

/-- A member is read up to the end of its value and put behind the entries before it.  Then the
mapping ends, or the next member is read. -/
theorem readMembers_spaced {level count : Nat} {before : Entries} {member : Member}
    (follows : member.Follows readable)
    (taken : IsTaken limit room member.item.text member.item.value)
    (deep : level + room ≤ limit) (enough : 2 * member.item.text.length ≤ count)
    (new : .text member.name ∉ before.map (·.1)) {mark : Char}
    (isMark : mark ∈ [' ', '\n', ',', ']', '\x7d']) (noSpace : isSpace mark = false)
    (rest : List Char) :
    readMembers limit level (count + 1) before (quoted member.raw ++ (member.behind ++
        ':' :: (member.item.spaced ++ mark :: rest))) =
      match mark :: rest with
      | '\x7d' :: rest => .ok (.map (before ++ [member.entry]), rest)
      | ',' :: rest => readMembers limit level count (before ++ [member.entry]) (skipSpace rest)
      | others => stop .comma others := by
  have colon : isSpace ':' = false := by decide
  have ends := endsNumber_mark isMark follows.item.behind rest
  have isQuoted : ∀ behind, quoted member.raw ++ behind = '"' :: (member.raw ++ '"' :: behind) := by
    intro behind
    simp [quoted]
  rw [isQuoted, readMembers,
    follows.isString.readString_append follows.string]
  simp only [skipSpace_mark follows.colon colon, Item.spaced, List.append_assoc,
    skipSpace_blank follows.item.before, taken.skipSpace_append,
    taken.reads level count _ deep enough ends, skipSpace_mark follows.item.behind noSpace]
  change (match mark :: rest with
    | '\x7d' :: rest => _
    | ',' :: rest => _
    | others => _) = _
  rw [show String.ofList (joinUnits member.units) = member.name from rfl,
    Entries.insert_of_not_mem new]
  rfl

/-- The members of a mapping from the key of the first one on. -/
theorem readMembers_row {members : List Member}
    (follow : ∀ member ∈ members, member.Follows readable)
    (taken : ∀ member ∈ members, IsTaken limit room member.item.text member.item.value)
    {level : Nat} (deep : level + room ≤ limit) (count : Nat) (before : Entries) {first : Member}
    (follows : first.Follows readable)
    (isTaken : IsTaken limit room first.item.text first.item.value)
    (enough : 2 * (first.item.text.length + (rowTail ',' (members.map Member.spaced)).length) + 1 ≤
      count)
    (differ : ((before ++ first.entry :: members.map Member.entry).map (·.1)).Nodup)
    (rest : List Char) :
    readMembers limit level count before (quoted first.raw ++ (first.behind ++ ':' ::
        (first.item.spaced ++ (rowTail ',' (members.map Member.spaced) ++ '\x7d' :: rest)))) =
      .ok (.map (before ++ first.entry :: members.map Member.entry), rest) := by
  have new : .text first.name ∉ before.map (·.1) := by
    intro isKey
    rw [List.map_append] at differ
    exact (List.nodup_append.mp differ).2.2 _ isKey _ List.mem_cons_self rfl
  induction members generalizing first before count with
  | nil =>
      cases count with
      | zero => omega
      | succ count =>
          exact readMembers_spaced follows isTaken deep (by omega) new (by decide) (by decide) rest
  | cons member members ih =>
      have memberFollows := follow member List.mem_cons_self
      have memberTaken := taken member List.mem_cons_self
      have quote : isSpace '"' = false := by decide
      simp only [List.map_cons, rowTail_cons, Member.spaced, Item.spaced, List.cons_append,
        List.append_assoc, List.length_cons, List.length_append] at enough
      cases count with
      | zero => omega
      | succ count =>
          have read := readMembers_spaced follows isTaken deep (show _ ≤ count by omega) new
            (show ',' ∈ _ by decide) (by decide)
            (member.spaced ++ (rowTail ',' (members.map Member.spaced) ++ '\x7d' :: rest))
          have differLater := differ
          rw [List.map_cons, List.append_cons] at differLater
          have newLater : .text member.name ∉ (before ++ [first.entry]).map (·.1) := by
            intro isKey
            rw [List.map_append] at differLater
            exact (List.nodup_append.mp differLater).2.2 _ isKey _ List.mem_cons_self rfl
          have later := ih (fun other isOther => follow other (List.mem_cons_of_mem _ isOther))
            (fun other isOther => taken other (List.mem_cons_of_mem _ isOther)) count
            (before ++ [first.entry]) memberFollows memberTaken (by omega) differLater newLater
          have isKey : skipSpace (member.spaced ++ (rowTail ',' (members.map Member.spaced) ++
              '\x7d' :: rest)) = quoted member.raw ++ (member.behind ++ ':' ::
                (member.item.spaced ++ (rowTail ',' (members.map Member.spaced) ++
                  '\x7d' :: rest))) := by
            rw [Member.spaced, List.append_assoc, skipSpace_blank memberFollows.before]
            simp only [quoted, List.cons_append, List.append_assoc, skipSpace_cons quote]
          rw [List.map_cons, rowTail_cons, List.cons_append, List.append_assoc, read]
          simp only [isKey, later, List.append_assoc, List.singleton_append, List.map_cons]

theorem isTaken_map {members : List Member} (isGap : readable.gap gap)
    (follow : ∀ member ∈ members, member.Follows readable)
    (differ : (members.map Member.name).Nodup)
    (taken : ∀ member ∈ members, IsTaken limit room member.item.text member.item.value) :
    IsTaken limit (room + 1) ('\x7b' :: (gap ++ (row ',' (members.map Member.spaced) ++ ['\x7d'])))
      (.map (members.map Member.entry)) := by
  have keys : (members.map Member.entry).map (·.1) = (members.map Member.name).map Value.text := by
    rw [List.map_map, List.map_map]
    rfl
  have keysDiffer : ((members.map Member.entry).map (·.1)).Nodup := by
    rw [keys]
    exact differ.map (fun _ _ => Value.text.inj)
  refine ⟨⟨'\x7b', _, rfl, by decide, by decide⟩, ?_⟩
  intro level count rest deep enough _
  have shallow : ¬limit ≤ level := by omega
  cases count with
  | zero => simp at enough
  | succ count =>
      rw [List.cons_append, readValue, if_neg shallow]
      cases members with
      | nil =>
          have brace : isSpace '\x7d' = false := by decide
          simp [row, skipSpace_mark isGap brace]
      | cons first members =>
          rcases List.forall_mem_cons.mp follow with ⟨firstFollows, othersFollow⟩
          rcases List.forall_mem_cons.mp taken with ⟨firstTaken, othersTaken⟩
          have quote : isSpace '"' = false := by decide
          simp only [List.map_cons, row, Member.spaced, Item.spaced, List.append_assoc,
            List.length_cons, List.length_append] at enough
          have read := readMembers_row othersFollow othersTaken
            (show level + 1 + room ≤ _ by omega) count [] firstFollows firstTaken (by omega)
            keysDiffer rest
          have isKey : skipSpace (gap ++ (row ',' ((first :: members).map Member.spaced) ++
              ['\x7d']) ++ rest) = quoted first.raw ++ (first.behind ++ ':' ::
                (first.item.spaced ++ (rowTail ',' (members.map Member.spaced) ++
                  '\x7d' :: rest))) := by
            simp only [List.map_cons, row, Member.spaced, List.append_assoc, skipSpace_blank isGap,
              skipSpace_blank firstFollows.before, quoted, List.cons_append, List.nil_append,
              skipSpace_cons quote]
          rw [isKey]
          exact read

end

/-- Whatever the grammar derives is read. -/
theorem Denotes.isTaken {limit room : Nat} {text : List Char} {value : Value}
    (denotes : Denotes readable room text value) : IsTaken limit room text value := by
  induction denotes with
  | null room => exact (readsBack_null limit room).isTaken
  | bool room value => exact (readsBack_bool limit room value).isTaken
  | number room short => exact isTaken_number limit room short
  | text room isString paired => exact isTaken_string limit room isString paired
  | list isGap follow denote ih => exact isTaken_list isGap follow ih
  | map isGap follow differ denote ih => exact isTaken_map isGap follow differ ih

/-- The reader gives the entries of every document. -/
theorem IsDocument.read_eq {limit : Nat} {text : List Char} {entries : Entries}
    (document : IsDocument readable limit text entries) : read limit text = .ok (.map entries) := by
  cases document with
  | @intro before body behind _ isBefore denotes isBehind =>
      have taken : IsTaken limit limit body _ := denotes.isTaken
      have ends : EndsNumber behind := by
        have nothing : EndsNumber [] := fun _ impossible => by cases impossible
        have blank := endsNumber_blank isBehind nothing
        rwa [List.append_nil] at blank
      have noMark : ∀ rest, before ++ (body ++ behind) ≠ '\uFEFF' :: rest := by
        intro rest begins
        cases before with
        | nil =>
            rcases denotes.exists_brace with ⟨others, rfl⟩
            cases begins
        | cons c others =>
            have space := isBefore c List.mem_cons_self
            rw [(List.cons.inj begins).1] at space
            exact absurd space (by decide)
      have none : skipSpace behind = [] := by
        have skipped := skipSpace_blank isBehind []
        rwa [List.append_nil] at skipped
      rw [read]
      · have isBody := taken.reads 0 (2 * (before ++ (body ++ behind)).length + 2) behind
          (by omega) (by simp only [List.length_append]; omega) ends
        rw [skipSpace_blank isBefore, taken.skipSpace_append, isBody]
        simp only [none]
      · exact noMark

end Json
end ApiAccessors
