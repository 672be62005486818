import ApiAccessors.Document.Value
import ApiAccessors.Text.Digits
import ApiAccessors.Text.Hex

namespace ApiAccessors
namespace Json

/-!
# Reading interchange text

A reader for the interchange notation of documents.  It accepts the names for numbers that are not
finite, keeps integers of any size exact, and lets the last of several equal keys win at the place
of the first.  What it refuses it refuses at a definite character, which the complaint names by
line, column and offset.
-/

inductive Complaint where
  | value
  | propertyName
  | colon
  | comma
  | extraData
  | escapeLetter
  | escapeNumber
  | controlCharacter
  | unterminated
  | byteOrderMark
deriving DecidableEq, Repr

/-- Why a text was not read.  A complaint holds at the place with this many characters to come. -/
inductive ReadFault where
  | complaint (what : Complaint) (remaining : Nat)
  | tooManyDigits
  | tooDeep
  /-- A string with half of a surrogate pair without the other half. -/
  | unpaired
deriving DecidableEq, Repr

def Complaint.wording : Complaint → String
  | .value => "Expecting value"
  | .propertyName => "Expecting property name enclosed in double quotes"
  | .colon => "Expecting ':' delimiter"
  | .comma => "Expecting ',' delimiter"
  | .extraData => "Extra data"
  | .escapeLetter => "Invalid \\escape"
  | .escapeNumber => "Invalid \\uXXXX escape"
  | .controlCharacter => "Invalid control character at"
  | .unterminated => "Unterminated string starting at"
  | .byteOrderMark => "Unexpected UTF-8 BOM (decode using utf-8-sig)"

/-- A complaint with its place: lines and columns are counted from one, characters from zero. -/
def Complaint.message (what : Complaint) (text : List Char) (remaining : Nat) : String :=
  let offset := text.length - remaining
  let before := text.take offset
  let line := before.count '\n' + 1
  let column := (before.reverse.takeWhile (· != '\n')).length + 1
  what.wording ++ ": line " ++ toString line ++ " column " ++ toString column ++
    " (char " ++ toString offset ++ ")"

abbrev Read (α : Type) := Except ReadFault (α × List Char)

/-- Stop at the place where the given characters are still to come. -/
def stop {α : Type} (what : Complaint) (rest : List Char) : Except ReadFault α :=
  .error (.complaint what rest.length)

def isSpace (c : Char) : Bool := c == ' ' || c == '\t' || c == '\n' || c == '\r'

def skipSpace (text : List Char) : List Char := text.dropWhile isSpace

/-- The character that a one-letter escape stands for. -/
def escapedChar? : Char → Option Char
  | '"' => some '"'
  | '\\' => some '\\'
  | '/' => some '/'
  | 'b' => some '\x08'
  | 'f' => some '\x0C'
  | 'n' => some '\n'
  | 'r' => some '\r'
  | 't' => some '\t'
  | _ => none

/-- The number that four hexadecimal digits make. -/
def fourHex? (a b c d : Char) : Option Nat := do
  let a ← Text.hexValue? a
  let b ← Text.hexValue? b
  let c ← Text.hexValue? c
  let d ← Text.hexValue? d
  pure (((a * 16 + b) * 16 + c) * 16 + d)

def isHighSurrogate (code : Nat) : Bool := 0xD800 ≤ code && code < 0xDC00

def isLowSurrogate (code : Nat) : Bool := 0xDC00 ≤ code && code < 0xE000

def pairedChar (high low : Nat) : Char :=
  Char.ofNat (0x10000 + (high - 0xD800) * 0x400 + (low - 0xDC00))

/-- Whether all halves of surrogate pairs stand in pairs. -/
def arePaired : List Nat → Bool
  | [] => true
  | [unit] => !isHighSurrogate unit && !isLowSurrogate unit
  | unit :: next :: rest =>
      if isHighSurrogate unit && isLowSurrogate next then arePaired rest
      else !isHighSurrogate unit && !isLowSurrogate unit && arePaired (next :: rest)

/-- The characters that code units make: the two halves of a pair are one character. -/
def joinUnits : List Nat → List Char
  | [] => []
  | [unit] => [Char.ofNat unit]
  | unit :: next :: rest =>
      if isHighSurrogate unit && isLowSurrogate next then pairedChar unit next :: joinUnits rest
      else Char.ofNat unit :: joinUnits (next :: rest)

/-- Put a code unit in front of what has been read. -/
def consUnit (unit : Nat) : Read (List Nat) → Read (List Nat)
  | .ok (units, rest) => .ok (unit :: units, rest)
  | .error fault => .error fault

/--
The code units of a string up to its closing quote.  `opened` counts the characters from the
opening quote on, for the complaint about a string that never closes.  A numeric escape needs a
character behind it.
-/
def readUnits (opened : Nat) : List Char → Read (List Nat)
  | [] => .error (.complaint .unterminated opened)
  | '"' :: rest => .ok ([], rest)
  | '\\' :: 'u' :: a :: b :: c :: d :: rest =>
      match rest.isEmpty, fourHex? a b c d with
      | false, some unit => consUnit unit (readUnits opened rest)
      | _, _ => stop .escapeNumber ('u' :: a :: b :: c :: d :: rest)
  | '\\' :: 'u' :: rest => stop .escapeNumber ('u' :: rest)
  | ['\\'] => .error (.complaint .unterminated opened)
  | '\\' :: mark :: rest =>
      match escapedChar? mark with
      | some c => consUnit c.toNat (readUnits opened rest)
      | none => stop .escapeLetter ('\\' :: mark :: rest)
  | c :: rest =>
      if c.toNat < 0x20 then stop .controlCharacter (c :: rest)
      else consUnit c.toNat (readUnits opened rest)

/-- The text of a string up to its closing quote. -/
def readString (opened : Nat) (text : List Char) : Read (List Char) :=
  match readUnits opened text with
  | .error fault => .error fault
  | .ok (units, rest) =>
      if arePaired units then .ok (joinUnits units, rest) else .error .unpaired

/-- The number that decimal digits make, continuing a number that has been begun. -/
def digitsValue (digits : List Char) : Nat :=
  digits.foldl (fun number c => number * 10 + (c.toNat - '0'.toNat)) 0

/-- The exponent behind a number, if a mark, perhaps a sign, and digits follow. -/
def readExponent (text : List Char) : Option (Int × List Char) :=
  match text with
  | [] => none
  | mark :: rest =>
      if mark = 'e' || mark = 'E' then
        let (negative, digits) :=
          match rest with
          | '-' :: others => (true, others)
          | '+' :: others => (false, others)
          | others => (false, others)
        let number := digits.takeWhile Text.isAsciiDigit
        if number.isEmpty then none
        else
          let value : Int := digitsValue number
          some (if negative then -value else value, digits.dropWhile Text.isAsciiDigit)
      else none

/-- The digits behind the point of a number, if there are any. -/
def readFraction : List Char → Option (List Char × List Char)
  | '.' :: rest =>
      let digits := rest.takeWhile Text.isAsciiDigit
      if digits.isEmpty then none else some (digits, rest.dropWhile Text.isAsciiDigit)
  | _ => none

/-- The whole part of a number: no digits may follow a leading zero. -/
def readWhole : List Char → Option (List Char × List Char)
  | '0' :: rest => some (['0'], rest)
  | text =>
      let digits := text.takeWhile Text.isAsciiDigit
      if digits.isEmpty then none else some (digits, text.dropWhile Text.isAsciiDigit)

/-- A number: an integer unless it has a fraction or an exponent. -/
def readNumber (text : List Char) : Read Value :=
  let (negative, unsigned) :=
    match text with
    | '-' :: rest => (true, rest)
    | _ => (false, text)
  match readWhole unsigned with
  | none => stop .value text
  | some (whole, rest) =>
      let fraction := readFraction rest
      let behind := (fraction.map (·.2)).getD rest
      let exponent := readExponent behind
      match fraction, exponent with
      | none, none =>
          if Text.digitLimit < whole.length then .error .tooManyDigits
          else
            let number : Int := digitsValue whole
            .ok (.int (if negative then -number else number), rest)
      | _, _ =>
          let places := (fraction.map (·.1)).getD []
          let scale := (exponent.map (·.1)).getD 0
          .ok (.float (Binary64.ofDecimal negative (digitsValue (whole ++ places))
            (scale - places.length)), (exponent.map (·.2)).getD behind)

/-- The words with a value of their own. -/
def words : List (String × Value) := [
  ("null", .null), ("true", .bool true), ("false", .bool false), ("NaN", .float .nan),
  ("Infinity", .float (.infinite false)), ("-Infinity", .float (.infinite true))]

/-- The word that a text begins with. -/
def readWord (text : List Char) : Option (Value × List Char) :=
  match words.find? (fun word => word.1.toList.isPrefixOf text) with
  | some (word, value) => some (value, text.drop word.length)
  | none => none

section

-- Collections inside each other are read as long as there is room for them on the call stack.
variable (room : Nat)

mutual

/--
One value with some others around it; the count bounds how many values and members may still be
begun.
-/
def readValue (depth : Nat) : Nat → List Char → Read Value
  | 0, text => stop .value text
  | count + 1, text =>
      match text with
      | '"' :: rest =>
          match readString text.length rest with
          | .ok (chars, rest) => .ok (.text (String.ofList chars), rest)
          | .error fault => .error fault
      | '\x7b' :: rest =>
          if room ≤ depth then .error .tooDeep
          else
            match skipSpace rest with
            | '\x7d' :: rest => .ok (.map [], rest)
            | others => readMembers (depth + 1) count [] others
      | '[' :: rest =>
          if room ≤ depth then .error .tooDeep
          else
            match skipSpace rest with
            | ']' :: rest => .ok (.list [], rest)
            | others => readItems (depth + 1) count [] others
      | _ =>
          match readWord text with
          | some (value, rest) => .ok (value, rest)
          | none => readNumber text

/-- The members of a mapping from a key on, with the entries read before. -/
def readMembers (depth : Nat) : Nat → Entries → List Char → Read Value
  | 0, _, text => stop .value text
  | count + 1, entries, text =>
      match text with
      | '"' :: rest =>
          match readString text.length rest with
          | .error fault => .error fault
          | .ok (key, rest) =>
              match skipSpace rest with
              | ':' :: rest =>
                  match readValue depth count (skipSpace rest) with
                  | .error fault => .error fault
                  | .ok (value, rest) =>
                      let entries := Entries.insert entries (.text (String.ofList key)) value
                      match skipSpace rest with
                      | '\x7d' :: rest => .ok (.map entries, rest)
                      | ',' :: rest => readMembers depth count entries (skipSpace rest)
                      | others => stop .comma others
              | others => stop .colon others
      | _ => stop .propertyName text

/-- The items of a list from a value on, with the items read before in reverse. -/
def readItems (depth : Nat) : Nat → List Value → List Char → Read Value
  | 0, _, text => stop .value text
  | count + 1, items, text =>
      match readValue depth count text with
      | .error fault => .error fault
      | .ok (value, rest) =>
          match skipSpace rest with
          | ']' :: rest => .ok (.list (value :: items).reverse, rest)
          | ',' :: rest => readItems depth count (value :: items) (skipSpace rest)
          | others => stop .comma others

end

end

/-- A text that is one value with nothing but space around it.  A bracket is taken in two steps, one
for the list and one for its first item, so two steps for each character are enough. -/
def read (room : Nat) (text : List Char) : Except ReadFault Value :=
  match text with
  | '\uFEFF' :: _ => stop .byteOrderMark text
  | _ =>
      match readValue room 0 (2 * text.length + 2) (skipSpace text) with
      | .error fault => .error fault
      | .ok (value, rest) =>
          match skipSpace rest with
          | [] => .ok value
          | others => stop .extraData others

end Json
end ApiAccessors
