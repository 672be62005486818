import ApiAccessors.Proofs.Json.Document
import ApiAccessors.Proofs.Json.WrittenForm
import ApiAccessors.Yaml.ScalarValue
import ApiAccessors.Yaml.Token

namespace ApiAccessors
namespace Yaml

/-!
# Documents between brackets

The part of the notation that stands between brackets: quoted scalars on one line, plain scalars of
one word, rows of items and rows of members.  A text of this form stands for a value whatever reads
it; how the values of plain scalars follow from their form is said by their kinds.  Comments, tags,
anchors, indentation and text over several lines are left out.
-/

open Json (IsGap Item quoted row)

/-- What stands between the quotes of a scalar, on one line, and the characters it stands for. -/
inductive IsQuotedText : List Char → List Char → Prop
  | nil : IsQuotedText [] []
  | plain {c : Char} {raw text : List Char} (notQuote : c ≠ '"') (notBackslash : c ≠ '\\')
      (noBreak : isBreak c = false) (isQuoted : IsQuotedText raw text) :
      IsQuotedText (c :: raw) (c :: text)
  | escaped {mark c : Char} {raw text : List Char} (isEscape : escapedChar? mark = some c)
      (isQuoted : IsQuotedText raw text) : IsQuotedText ('\\' :: mark :: raw) (c :: text)
  | numbered {letter : Char} {width code : Nat} {digits raw text : List Char}
      (isWidth : escapeWidth? letter = some width)
      (isCode : Text.readHex width 0 digits = some (code, [])) (isValid : code.isValidChar)
      (isQuoted : IsQuotedText raw text) :
      IsQuotedText ('\\' :: letter :: (digits ++ raw)) (Char.ofNat code :: text)

/-- A character that a plain scalar goes on with, whatever follows it. -/
def isPlainChar (c : Char) : Bool :=
  !(isBreak c || isSpaceOrTab c || isFlowMark c || c == ':' || c == '?')

/-- A character that begins nothing but plain scalars. -/
def beginsWord (c : Char) : Bool :=
  isPlainChar c && !("-?:,[]\x7b\x7d#&*!|>'\"%@\x60.".toList.contains c)

/-- The text of a plain scalar of one word, which may begin with a minus sign. -/
structure IsPlainText (text : List Char) : Prop where
  chars : ∀ c ∈ text, isPlainChar c = true
  begins : (∃ first rest, text = first :: rest ∧ beginsWord first = true) ∨
    ∃ second rest, text = '-' :: second :: rest ∧ beginsWord second = true

/-- The form of a plain scalar tells its kind, and as one of that kind it has a value. -/
structure IsPlainValue (text : List Char) (value : Value) : Prop where
  isScalar : (Kind.ofText text).isScalar = true
  value : scalarValue (Kind.ofText text) (String.ofList text) = .ok value

/-- A key between quotes, the white space around it, and what stands behind its colon. -/
structure FlowMember where
  before : List Char
  raw : List Char
  text : List Char
  behind : List Char
  item : Item

namespace FlowMember

def spaced (member : FlowMember) : List Char :=
  member.before ++ (quoted member.raw ++ (member.behind ++ ':' :: member.item.spaced))

def name (member : FlowMember) : String := String.ofList member.text

def entry (member : FlowMember) : Value × Value := (.text member.name, member.item.value)

end FlowMember

structure IsSpacedItem (item : Item) : Prop where
  before : IsGap item.before
  behind : IsGap item.behind

/-- The colon stands on the line of its key, and not too far away from where that begins. -/
structure IsSpacedMember (member : FlowMember) : Prop where
  before : IsGap member.before
  isQuoted : IsQuotedText member.raw member.text
  onlySpaces : ∀ c ∈ member.behind, c = ' '
  near : (quoted member.raw).length + member.behind.length ≤ Lexer.keyLimit
  item : IsSpacedItem member.item

/-- A text stands for a value, with at most so many collections inside each other.  All keys of a
mapping differ. -/
inductive Flow : Nat → List Char → Value → Prop
  | plain (room : Nat) {text : List Char} {value : Value} (isText : IsPlainText text)
      (isValue : IsPlainValue text value) : Flow room text value
  | quoted (room : Nat) {raw text : List Char} (isQuoted : IsQuotedText raw text) :
      Flow room (quoted raw) (.text (String.ofList text))
  | list {room : Nat} {gap : List Char} {items : List Item} (isGap : IsGap gap)
      (spaced : ∀ item ∈ items, IsSpacedItem item)
      (flow : ∀ item ∈ items, Flow room item.text item.value) :
      Flow (room + 1) ('[' :: (gap ++ (row ',' (items.map Item.spaced) ++ [']'])))
        (.list (items.map Item.value))
  | map {room : Nat} {gap : List Char} {members : List FlowMember} (isGap : IsGap gap)
      (spaced : ∀ member ∈ members, IsSpacedMember member)
      (differ : (members.map FlowMember.name).Nodup)
      (flow : ∀ member ∈ members, Flow room member.item.text member.item.value) :
      Flow (room + 1)
        ('\x7b' :: (gap ++ (row ',' (members.map FlowMember.spaced) ++ ['\x7d'])))
        (.map (members.map FlowMember.entry))

/-- A document: a mapping between braces with white space around it, all of characters that
documents have. -/
inductive IsFlowDocument (room : Nat) : List Char → Entries → Prop
  | intro {before inner behind : List Char} {entries : Entries} (isBefore : IsGap before)
      (flow : Flow room ('\x7b' :: inner) (.map entries)) (isBehind : IsGap behind)
      (chars : ∀ c ∈ before ++ ('\x7b' :: inner ++ behind), isDocumentChar c = true) :
      IsFlowDocument room (before ++ ('\x7b' :: inner ++ behind)) entries

/-- A reader gives the values of documents between brackets, with room for so many collections
inside each other. -/
def ReadsFlow (room : Nat) (reader : List Char → Except Failure Value) : Prop :=
  ∀ text entries, IsFlowDocument room text entries → reader text = .ok (.map entries)

end Yaml
end ApiAccessors
