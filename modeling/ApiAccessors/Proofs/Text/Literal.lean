import ApiAccessors.Text.Quoted
import Mathlib.Tactic.Ring

namespace ApiAccessors
namespace Text

/-!
# Reading literals

The reader of literals in the generated language, by the rules of that language and not only for the
literals that are written here: all escapes by a mark or by a number are read, a backslash before
any other character stands for itself, and a literal ends at its own quote only.  Escapes by the
name of a character are not read, nor are literals in three quotes.

What is written as the literal of a text is read as that text, wherever the literal ends.
-/

/-- Read items as long as there are any; each takes something away from the input. -/
def readMany {α : Type} (item : List Char → Option (α × List Char)) (input : List Char) :
    List α × List Char :=
  match item input with
  | some (value, rest) =>
      if rest.length < input.length then
        let (values, last) := readMany item rest
        (value :: values, last)
      else ([], input)
  | none => ([], input)
termination_by input.length

/-- Items that are read back one by one are read back in a row, up to what begins no item. -/
theorem readMany_eq {α β : Type} {item : List Char → Option (α × List Char)}
    {write : β → List Char} {value : β → α} {last : List Char}
    (reads : ∀ x rest, item (write x ++ rest) = some (value x, rest))
    (nothing : item [] = none) (stops : item last = none) (items : List β) :
    readMany item (items.flatMap write ++ last) = (items.map value, last) := by
  have positive : ∀ x, 0 < (write x).length := by
    intro x
    apply List.length_pos_iff.mpr
    intro empty
    have read := reads x []
    rw [empty, List.nil_append, nothing] at read
    cases read
  induction items with
  | nil =>
      rw [List.flatMap_nil, List.nil_append, readMany, stops]
      rfl
  | cons x rest ih =>
      have shorter : (rest.flatMap write ++ last).length <
          (write x ++ (rest.flatMap write ++ last)).length := by
        have here := positive x
        simp only [List.length_append]
        omega
      rw [List.flatMap_cons, List.append_assoc, readMany, reads]
      simp only [if_pos shorter, ih]
      rfl

namespace Literal

def octalValue? (c : Char) : Option Nat :=
  if '0'.toNat ≤ c.toNat && c.toNat ≤ '7'.toNat then some (c.toNat - '0'.toNat) else none

/-- Read octal digits, not more than `width` of them, continuing a number that has been begun. -/
def readOctal : Nat → Nat → List Char → Nat × List Char
  | 0, number, rest => (number, rest)
  | _ + 1, number, [] => (number, [])
  | width + 1, number, c :: rest =>
      match octalValue? c with
      | some value => readOctal width (number * 8 + value) rest
      | none => (number, c :: rest)

/-- The character with a code point, which must be one of a character. -/
def charAt? (code : Nat) : Option (List Char) :=
  if code.isValidChar then some [Char.ofNat code] else none

/-- What an escape by a fixed number of digits stands for. -/
def readNumeric (width : Nat) (rest : List Char) : Option (List Char × List Char) :=
  match readHex width 0 rest with
  | some (code, rest) => (charAt? code).map (fun value => (value, rest))
  | none => none

/-- The character that a mark behind a backslash stands for. -/
def marked? : Char → Option Char
  | '\\' => some '\\'
  | '\'' => some '\''
  | '"' => some '"'
  | 'a' => some '\x07'
  | 'b' => some '\x08'
  | 'f' => some '\x0c'
  | 'n' => some '\n'
  | 'r' => some '\r'
  | 't' => some '\t'
  | 'v' => some '\x0b'
  | _ => none

/-- What an escape stands for, given what follows the backslash. -/
def readEscape : List Char → Option (List Char × List Char)
  | [] => none
  | '\r' :: '\n' :: rest => some ([], rest)
  | mark :: rest =>
      if mark = '\n' || mark = '\r' then some ([], rest)
      else if mark = 'x' then readNumeric 2 rest
      else if mark = 'u' then readNumeric 4 rest
      else if mark = 'U' then readNumeric 8 rest
      else if mark = 'N' then none
      else
        match marked? mark with
        | some c => some ([c], rest)
        | none =>
            match octalValue? mark with
            | some value =>
                let (code, rest) := readOctal 2 value rest
                some ([Char.ofNat code], rest)
            | none => some (['\\', mark], rest)

/-- What one piece between quotes stands for: an escape, or a character by itself. -/
def readPiece (quote : Char) : List Char → Option (List Char × List Char)
  | [] => none
  | c :: rest =>
      if c = quote || c = '\n' || c = '\r' || c = '\x00' then none
      else if c = '\\' then readEscape rest
      else some ([c], rest)

def read : List Char → Option (List Char × List Char)
  | [] => none
  | quote :: rest =>
      if (quote = '\'' || quote = '"') && rest.take 2 != [quote, quote] then
        match readMany (readPiece quote) rest with
        | (pieces, last :: rest) => if last = quote then some (pieces.flatten, rest) else none
        | (_, []) => none
      else none

theorem hexValue?_digit : ∀ value < 16, hexValue? (HexCase.small.digit value) = some value := by
  decide

/-- The last digit can be read after all others. -/
theorem readHex_succ (width number : Nat) (input : List Char) :
    readHex (width + 1) number input =
      (readHex width number input).bind (fun begun => readHex 1 begun.1 begun.2) := by
  induction width generalizing number input with
  | zero => rfl
  | succ width ih =>
      cases input with
      | nil => rfl
      | cons c rest =>
          rw [readHex, readHex]
          cases hexValue? c with
          | none => rfl
          | some value => exact ih _ rest

theorem readHex_write (width number code : Nat) (rest : List Char) :
    readHex width number (HexCase.small.write width code ++ rest) =
      some (number * 16 ^ width + code % 16 ^ width, rest) := by
  induction width generalizing code rest with
  | zero => simp only [HexCase.write, readHex, List.nil_append, Nat.pow_zero, Nat.mul_one,
      Nat.mod_one, Nat.add_zero]
  | succ width ih =>
      have digit := hexValue?_digit (code % 16) (Nat.mod_lt _ (by decide))
      rw [readHex_succ, HexCase.write, List.append_assoc, ih, Option.bind_some,
        List.singleton_append, readHex, digit]
      have value : (number * 16 ^ width + code / 16 % 16 ^ width) * 16 + code % 16 =
          number * 16 ^ (width + 1) + code % 16 ^ (width + 1) := by
        rw [Nat.pow_succ, Nat.mul_comm (16 ^ width) 16, Nat.mod_mul]
        ring
      simp only [readHex, value]

theorem readNumeric_write {width : Nat} {c : Char} (fits : c.toNat < 16 ^ width)
    (rest : List Char) :
    readNumeric width (HexCase.small.write width c.toNat ++ rest) = some ([c], rest) := by
  have isChar : charAt? c.toNat = some [c] := by
    have valid : c.toNat.isValidChar := c.valid
    rw [charAt?, if_pos valid, Char.ofNat_toNat]
  rw [readNumeric, readHex_write, Nat.zero_mul, Nat.zero_add, Nat.mod_eq_of_lt fits]
  simp only [isChar, Option.map_some]

theorem readEscape_numeric (c : Char) (rest : List Char) :
    ∃ escaped, numeric c.toNat = '\\' :: escaped ∧
      readEscape (escaped ++ rest) = some ([c], rest) := by
  have bound : c.toNat < 0x110000 := by
    have valid := c.valid
    simp only [UInt32.isValidChar, Nat.isValidChar] at valid
    change c.val.toNat < _
    omega
  unfold numeric
  split
  · rename_i small
    exact ⟨_, rfl, readNumeric_write (by omega) rest⟩
  · split
    · rename_i small
      exact ⟨_, rfl, readNumeric_write (by omega) rest⟩
    · exact ⟨_, rfl, readNumeric_write (by omega) rest⟩

theorem isPrintable_controls : isPrintable '\n' = false ∧ isPrintable '\r' = false ∧
    isPrintable '\x00' = false := by
  decide

def IsQuote (quote : Char) : Prop := quote = '\'' ∨ quote = '"'

theorem isQuote_delimiter (text : List Char) : IsQuote (delimiter text) := by
  unfold delimiter
  split
  · exact Or.inr rfl
  · exact Or.inl rfl

theorem readPiece_backslash {quote : Char} (isQuote : IsQuote quote) (rest : List Char) :
    readPiece quote ('\\' :: rest) = readEscape rest := by
  rcases isQuote with rfl | rfl
  · rfl
  · rfl

theorem readPiece_of_isPrintable {quote c : Char} (notQuote : c ≠ quote) (notBackslash : c ≠ '\\')
    (printable : isPrintable c = true) (rest : List Char) :
    readPiece quote (c :: rest) = some ([c], rest) := by
  have notControl : ∀ control : Char, isPrintable control = false → c ≠ control := by
    intro control unprintable same
    rw [same, unprintable] at printable
    cases printable
  rw [readPiece]
  simp only [notQuote, notBackslash, notControl _ isPrintable_controls.1,
    notControl _ isPrintable_controls.2.1, notControl _ isPrintable_controls.2.2, decide_false,
    Bool.or_self, Bool.false_eq_true, if_false]

/-- What a character is written as between quotes is read as the character. -/
theorem readPiece_escape {quote : Char} (isQuote : IsQuote quote) (c : Char) (rest : List Char) :
    readPiece quote (escape quote c ++ rest) = some ([c], rest) := by
  have marked : ∀ mark : Char, readEscape (mark :: rest) = some ([c], rest) →
      readPiece quote (['\\', mark] ++ rest) = some ([c], rest) := by
    intro mark escaped
    rw [← escaped]
    exact readPiece_backslash isQuote (mark :: rest)
  unfold escape
  by_cases special : c = quote ∨ c = '\\'
  · rw [if_pos (by simpa using special)]
    apply marked
    rcases special with same | same
    · rw [same]
      rcases isQuote with same | same
      · rw [same]
        rfl
      · rw [same]
        rfl
    · rw [same]
      rfl
  rw [if_neg (by simpa using special)]
  rw [not_or] at special
  split
  · rename_i same
    rw [same] at marked ⊢
    exact marked 't' rfl
  split
  · rename_i same
    rw [same] at marked ⊢
    exact marked 'n' rfl
  split
  · rename_i same
    rw [same] at marked ⊢
    exact marked 'r' rfl
  split
  · rename_i printable
    exact readPiece_of_isPrintable special.1 special.2 printable rest
  · rcases readEscape_numeric c rest with ⟨escaped, isNumeric, reads⟩
    rw [isNumeric, List.cons_append, readPiece_backslash isQuote, reads]

theorem readPiece_quote (quote : Char) (rest : List Char) :
    readPiece quote (quote :: rest) = none := by
  rw [readPiece, if_pos (by simp)]

/-- What a character is written as does not begin with the quote, as it would end the literal. -/
theorem exists_escape_eq_cons {quote : Char} (isQuote : IsQuote quote) (c : Char) :
    ∃ first others, escape quote c = first :: others ∧ first ≠ quote := by
  have reads := readPiece_escape isQuote c []
  cases written : escape quote c with
  | nil =>
      rw [written] at reads
      cases reads
  | cons first others =>
      refine ⟨first, others, rfl, ?_⟩
      intro same
      rw [written, same, List.cons_append, readPiece_quote] at reads
      cases reads

theorem not_three_quotes (text : List Char) {rest : List Char} (apart : rest.head? ≠ some '\'') :
    (text.flatMap (escape (delimiter text)) ++ delimiter text :: rest).take 2 ≠
      [delimiter text, delimiter text] := by
  intro same
  cases text with
  | nil =>
      apply apart
      cases rest with
      | nil => cases same
      | cons c later =>
          injection same with _ same
          injection same with same
          rw [same]
          rfl
  | cons c others =>
      rcases exists_escape_eq_cons (isQuote_delimiter (c :: others)) c with
        ⟨first, later, written, different⟩
      rw [List.flatMap_cons, written] at same
      injection same with same
      exact different same

/-- The literal of a text is read as the text, unless what follows makes it begin with three
quotes. -/
theorem read_encode (text : List Char) {rest : List Char} (apart : rest.head? ≠ some '\'') :
    read (encode text ++ rest) = some (text, rest) := by
  have isQuote := isQuote_delimiter text
  have opens : ((delimiter text = '\'' || delimiter text = '"') &&
      (text.flatMap (escape (delimiter text)) ++ delimiter text :: rest).take 2 !=
        [delimiter text, delimiter text]) = true := by
    rw [Bool.and_eq_true, bne_iff_ne]
    exact ⟨by simpa [IsQuote] using isQuote, not_three_quotes text apart⟩
  have pieces : readMany (readPiece (delimiter text))
      (text.flatMap (escape (delimiter text)) ++ delimiter text :: rest) =
        (text.map (fun c => [c]), delimiter text :: rest) := by
    exact readMany_eq (readPiece_escape isQuote) rfl (readPiece_quote _ rest) text
  unfold encode
  rw [List.cons_append, List.append_assoc, List.singleton_append, read, if_pos opens, pieces]
  simp only [if_true, ← List.flatMap_def, List.flatMap_singleton']

end Literal
end Text
end ApiAccessors
