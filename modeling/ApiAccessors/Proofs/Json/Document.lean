import ApiAccessors.Json.Reader

namespace ApiAccessors
namespace Json

/-!
# Documents in the interchange notation

The grammar of the notation, and the value that each of its forms stands for.  It says nothing of
how a document is read: a form is put together from its parts, and white space stands around the
parts of collections.

What a document is free to choose is under rules: white space, the spelling of strings and numbers,
and how far a key is from its colon.  So the documents that keep to narrower rules have the same
grammar as all others.
-/

/-- A code unit of a string: a character, one behind a backslash, or a number. -/
inductive IsPiece : List Char → Nat → Prop
  | plain {c : Char} (notQuote : c ≠ '"') (notBackslash : c ≠ '\\') (notControl : 0x20 ≤ c.toNat) :
      IsPiece [c] c.toNat
  | marked {mark c : Char} (isMark : escapedChar? mark = some c) : IsPiece ['\\', mark] c.toNat
  | numbered {a b c d : Char} {unit : Nat} (isUnit : fourHex? a b c d = some unit) :
      IsPiece ['\\', 'u', a, b, c, d] unit

/-- What stands between the quotes of a string, and the code units of the string. -/
inductive IsString : List Char → List Nat → Prop
  | nil : IsString [] []
  | cons {piece raw : List Char} {unit : Nat} {units : List Nat} (isPiece : IsPiece piece unit)
      (isString : IsString raw units) : IsString (piece ++ raw) (unit :: units)

def quoted (raw : List Char) : List Char := '"' :: (raw ++ ['"'])

def unitsText (units : List Nat) : String := String.ofList (joinUnits units)

structure Digits where
  chars : List Char
  notEmpty : chars ≠ []
  areDigits : ∀ c ∈ chars, Text.isAsciiDigit c = true

/-- The exponent behind a number. -/
structure Exponent where
  mark : Char
  isMark : mark = 'e' ∨ mark = 'E'
  sign : List Char
  isSign : sign = [] ∨ sign = ['+'] ∨ sign = ['-']
  digits : Digits

namespace Exponent

def text (exponent : Exponent) : List Char :=
  exponent.mark :: (exponent.sign ++ exponent.digits.chars)

def value (exponent : Exponent) : Int :=
  if exponent.sign = ['-'] then -(digitsValue exponent.digits.chars : Int)
  else digitsValue exponent.digits.chars

end Exponent

/-- A number: no digits stand behind a leading zero. -/
structure Numeral where
  negative : Bool
  whole : Digits
  noLeadingZero : whole.chars.head? = some '0' → whole.chars = ['0']
  places : Option Digits
  exponent : Option Exponent

namespace Numeral

/-- The digits behind the point. -/
def placeChars (numeral : Numeral) : List Char := (numeral.places.map Digits.chars).getD []

/-- The point and the digits behind it. -/
def fractionText (numeral : Numeral) : List Char :=
  (numeral.places.map (fun places => '.' :: places.chars)).getD []

def exponentText (numeral : Numeral) : List Char := (numeral.exponent.map Exponent.text).getD []

/-- A number without its sign. -/
def unsignedText (numeral : Numeral) : List Char :=
  numeral.whole.chars ++ (numeral.fractionText ++ numeral.exponentText)

def text (numeral : Numeral) : List Char :=
  if numeral.negative then '-' :: numeral.unsignedText else numeral.unsignedText

/-- A number is an integer unless it has a fraction or an exponent. -/
def isInteger (numeral : Numeral) : Bool := numeral.places.isNone && numeral.exponent.isNone

/-- A number with a fraction or an exponent, with the given sign. -/
def realValue (numeral : Numeral) (negative : Bool) : Binary64 :=
  Binary64.ofDecimal negative (digitsValue (numeral.whole.chars ++ numeral.placeChars))
    ((numeral.exponent.map Exponent.value).getD 0 - numeral.placeChars.length)

def integerValue (numeral : Numeral) : Int :=
  if numeral.negative then -(digitsValue numeral.whole.chars : Int)
  else digitsValue numeral.whole.chars

def value (numeral : Numeral) : Value :=
  if numeral.isInteger then .int numeral.integerValue
  else .float (numeral.realValue numeral.negative)

/-- An integer has no more digits than are read. -/
def IsShort (numeral : Numeral) : Prop :=
  numeral.isInteger = true → numeral.whole.chars.length ≤ Text.digitLimit

end Numeral

/-- Parts with a mark in front of each. -/
def rowTail {α : Type} (mark : α) (parts : List (List α)) : List α :=
  parts.flatMap (fun part => mark :: part)

/-- Parts with a mark between them. -/
def row {α : Type} (mark : α) : List (List α) → List α
  | [] => []
  | first :: rest => first ++ rowTail mark rest

/-- A value with white space around it. -/
structure Item where
  before : List Char
  text : List Char
  behind : List Char
  value : Value

def Item.spaced (item : Item) : List Char := item.before ++ (item.text ++ item.behind)

/-- A key, the white space around it, and what stands behind its colon. -/
structure Member where
  before : List Char
  raw : List Char
  units : List Nat
  behind : List Char
  item : Item

namespace Member

def spaced (member : Member) : List Char :=
  member.before ++ (quoted member.raw ++ (member.behind ++ ':' :: member.item.spaced))

def name (member : Member) : String := unitsText member.units

def entry (member : Member) : Value × Value := (.text member.name, member.item.value)

end Member

/-- What a document may choose. -/
structure Rules where
  /-- The white space around the parts of collections. -/
  gap : List Char → Prop
  /-- The spelling of a string with these code units. -/
  string : List Char → List Nat → Prop
  /-- The white space between a key, of which the spelling is given, and its colon. -/
  colon : List Char → List Char → Prop
  numeral : Numeral → Prop

structure Item.Follows (rules : Rules) (item : Item) : Prop where
  before : rules.gap item.before
  behind : rules.gap item.behind

structure Member.Follows (rules : Rules) (member : Member) : Prop where
  before : rules.gap member.before
  isString : IsString member.raw member.units
  string : rules.string member.raw member.units
  colon : rules.colon member.raw member.behind
  item : member.item.Follows rules

/-- A text stands for a value, with at most so many collections inside each other.  All keys of a
mapping differ. -/
inductive Denotes (rules : Rules) : Nat → List Char → Value → Prop
  | null (room : Nat) : Denotes rules room "null".toList .null
  | bool (room : Nat) (value : Bool) :
      Denotes rules room (if value then "true" else "false").toList (.bool value)
  | number (room : Nat) {numeral : Numeral} (follows : rules.numeral numeral) :
      Denotes rules room numeral.text numeral.value
  | text (room : Nat) {raw : List Char} {units : List Nat} (isString : IsString raw units)
      (follows : rules.string raw units) :
      Denotes rules room (quoted raw) (.text (unitsText units))
  | list {room : Nat} {gap : List Char} {items : List Item} (isGap : rules.gap gap)
      (follow : ∀ item ∈ items, item.Follows rules)
      (denote : ∀ item ∈ items, Denotes rules room item.text item.value) :
      Denotes rules (room + 1) ('[' :: (gap ++ (row ',' (items.map Item.spaced) ++ [']'])))
        (.list (items.map Item.value))
  | map {room : Nat} {gap : List Char} {members : List Member} (isGap : rules.gap gap)
      (follow : ∀ member ∈ members, member.Follows rules)
      (differ : (members.map Member.name).Nodup)
      (denote : ∀ member ∈ members, Denotes rules room member.item.text member.item.value) :
      Denotes rules (room + 1)
        ('\x7b' :: (gap ++ (row ',' (members.map Member.spaced) ++ ['\x7d'])))
        (.map (members.map Member.entry))

/-- A document: a mapping with white space around it. -/
inductive IsDocument (rules : Rules) (room : Nat) : List Char → Entries → Prop
  | intro {before body behind : List Char} {entries : Entries} (isBefore : rules.gap before)
      (denotes : Denotes rules room body (.map entries)) (isBehind : rules.gap behind) :
      IsDocument rules room (before ++ (body ++ behind)) entries

theorem rowTail_cons {α : Type} (mark : α) (part : List α) (parts : List (List α)) :
    rowTail mark (part :: parts) = mark :: (part ++ rowTail mark parts) := rfl

theorem Numeral.value_ne_map (numeral : Numeral) (entries : Entries) :
    numeral.value ≠ .map entries := by
  unfold Numeral.value
  split
  · exact Value.noConfusion
  · exact Value.noConfusion

/-- The text of a mapping begins with a brace. -/
theorem Denotes.exists_brace {rules : Rules} {room : Nat} {text : List Char} {entries : Entries}
    (denotes : Denotes rules room text (.map entries)) : ∃ rest, text = '\x7b' :: rest := by
  generalize isMap : Value.map entries = value at denotes
  cases denotes with
  | number room follows => exact absurd isMap.symm (Numeral.value_ne_map _ _)
  | map isGap follow differ denote => exact ⟨_, rfl⟩
  | _ => cases isMap

/-- Whatever the one rules allow the others do, too. -/
structure Rules.Within (narrow wide : Rules) : Prop where
  gap : ∀ gap, narrow.gap gap → wide.gap gap
  string : ∀ raw units, narrow.string raw units → wide.string raw units
  colon : ∀ raw gap, narrow.colon raw gap → wide.colon raw gap
  numeral : ∀ numeral, narrow.numeral numeral → wide.numeral numeral

section

variable {narrow wide : Rules}

theorem Item.Follows.widen {item : Item} (within : narrow.Within wide)
    (follows : item.Follows narrow) : item.Follows wide :=
  ⟨within.gap _ follows.before, within.gap _ follows.behind⟩

theorem Member.Follows.widen {member : Member} (within : narrow.Within wide)
    (follows : member.Follows narrow) : member.Follows wide :=
  ⟨within.gap _ follows.before, follows.isString, within.string _ _ follows.string,
    within.colon _ _ follows.colon, follows.item.widen within⟩

theorem Denotes.widen {room more : Nat} {text : List Char} {value : Value}
    (within : narrow.Within wide) (enough : room ≤ more)
    (denotes : Denotes narrow room text value) :
    Denotes wide more text value := by
  induction denotes generalizing more with
  | null room => exact .null more
  | bool room value => exact .bool more value
  | number room follows => exact .number more (within.numeral _ follows)
  | text room isString follows => exact .text more isString (within.string _ _ follows)
  | list isGap follow denote ih =>
      cases more with
      | zero => omega
      | succ more =>
          exact .list (within.gap _ isGap) (fun item member => (follow item member).widen within)
            (fun item member => ih item member (Nat.le_of_succ_le_succ enough))
  | map isGap follow differ denote ih =>
      cases more with
      | zero => omega
      | succ more =>
          exact .map (within.gap _ isGap)
            (fun member isMember => (follow member isMember).widen within) differ
            (fun member isMember => ih member isMember (Nat.le_of_succ_le_succ enough))

theorem IsDocument.widen {room more : Nat} {text : List Char} {entries : Entries}
    (within : narrow.Within wide) (enough : room ≤ more)
    (document : IsDocument narrow room text entries) : IsDocument wide more text entries := by
  cases document with
  | intro isBefore denotes isBehind =>
      exact .intro (within.gap _ isBefore) (denotes.widen within enough) (within.gap _ isBehind)

end

end Json
end ApiAccessors
