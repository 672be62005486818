import ApiAccessors.Fault
import ApiAccessors.Http.LabelChars
import ApiAccessors.Text.Punycode

namespace ApiAccessors
namespace Label

/-!
# Host labels in all scripts

A host name is a row of labels with points between them.  A label is checked in the script it is
meant in: its characters must be parts of labels, each must fit its neighbours, and the directions
of its letters must agree.  A label with other than plain characters is sent in Punycode behind a
mark; a label that comes with the mark must be the sent form of such a label.
-/

/-- Whether hyphens stand where the forms of labels leave room for them. -/
def hyphensFit (label : List Char) : Bool :=
  (label.drop 2).take 2 != ['-', '-'] && label.head? != some '-' && label.getLast? != some '-'

/-- Whether no two characters have a common form, which would have to be written instead. -/
def isComposed : List Char → Bool
  | c :: mark :: rest => !compose c mark && isComposed (mark :: rest)
  | _ => true

/-- Whether a text as a whole may be a label. -/
def hasForm (label : List Char) : Bool :=
  isComposed label && hyphensFit label && (label.head?.map (!isMark ·)).getD false

/-- Whether the letters on both sides of a place are joined across it; marks do not count. -/
def joinsAcross (before after : List Char) : Bool :=
  ((before.dropWhile isMark).head?.map joinedToNext.has).getD false &&
    ((after.dropWhile isMark).head?.map joinedToLast.has).getD false

/-- The digits that do not stand together with the digits of another row. -/
def isEasternDigit (first : Nat) (c : Char) : Bool := first ≤ c.toNat && c.toNat ≤ first + 9

/--
Check a character where it stands.  `before` is what comes before it in the label, the last
character first.
-/
def checkChar (label before : List Char) (c : Char) (after : List Char) : Except LabelFault Unit :=
  let follows (test : Char → Bool) := (before.head?.map test).getD false
  let precedes (test : Char → Bool) := (after.head?.map test).getD false
  let must (fault : LabelFault) (fits : Bool) : Except LabelFault Unit :=
    if fits then .ok () else .error fault
  match c with
  | '\u200C' => must .form (follows joiningMarks.has || joinsAcross before after)
  | '\u200D' => must .form (follows joiningMarks.has)
  | '\u00B7' => must .place (follows (· == 'l') && precedes (· == 'l'))
  | '\u0375' => must .place (precedes greekTable.has)
  | '\u05F3' => must .place (follows hebrewTable.has)
  | '\u05F4' => must .place (follows hebrewTable.has)
  | '\u30FB' => must .place (label.any eastAsianTable.has)
  | _ =>
      if isEasternDigit 0x660 c then must .place (!label.any (isEasternDigit 0x6F0))
      else if isEasternDigit 0x6F0 c then must .place (!label.any (isEasternDigit 0x660))
      else must .character (isPart c)

/-- Check all characters from a place on. -/
def checkChars (label before : List Char) : List Char → Except LabelFault Unit
  | [] => .ok ()
  | c :: after => do
      checkChar label before c after
      checkChars label (c :: before) after

/--
Whether directions agree.  A label with anything from right to left begins with such a letter, has
nothing from left to right but digits of one kind, and ends with a letter or a digit.
-/
def directionsFit (label : List Char) : Bool :=
  let isCommon := commonDigits.has
  let isArabic := arabicDigits.has
  let ends (c : Char) := isRightToLeft c || isCommon c || isArabic c
  let fits (c : Char) := ends c || neutralTable.has c || isMark c
  !label.any (fun c => isRightToLeft c || isArabic c) ||
    ((label.head?.map isRightToLeft).getD false && label.all fits &&
      ((label.reverse.dropWhile isMark).head?.map ends).getD false &&
      !(label.any isCommon && label.any isArabic))

def check (label : List Char) : Except LabelFault Unit := do
  if !hasForm label then throw .form
  checkChars label [] label
  if !directionsFit label then throw .direction

def codedMark : List Char := "xn--".toList

def checkSent (text : List Char) : Except LabelFault Unit :=
  if codedMark.isPrefixOf text then
    let coded := text.drop codedMark.length
    if coded.isEmpty || coded.getLast? == some '-' then .error .form
    else
      match Text.Punycode.decode? coded with
      | some label => check label
      | none => .error .form
  else check text

/-- Longer labels are refused. -/
def lengthLimit : Nat := 63

/-- The sent form of a label. -/
def encode (label : List Char) : Except LabelFault (List Char) := do
  let isPlain := label.all Text.Punycode.isPlain
  if isPlain then checkSent label else check label
  let sent := if isPlain then label else codedMark ++ Text.Punycode.encode label
  if lengthLimit < sent.length then throw .form
  pure sent

def isPoint (c : Char) : Bool := c == '.' || c == '\u3002' || c == '\uFF0E' || c == '\uFF61'

/-- The labels of a name, and whether a point stands behind the last one. -/
def ofName (name : List Char) : List (List Char) × Bool :=
  let labels := Text.splitWhere isPoint name
  if labels.getLast? == some [] then (labels.dropLast, true) else (labels, false)

/-- Longer names are refused; a point behind the last label does not count. -/
def nameLimit : Nat := 253

/-- The sent form of a name in small letters. -/
def encodeName (name : List Char) : Except LabelFault (List Char) := do
  let (labels, isClosed) := ofName name
  let sent ← labels.mapM encode
  let text := ['.'].intercalate sent
  if nameLimit < text.length then throw .form
  pure (if isClosed then text ++ ['.'] else text)

/-- Check the sent form of a name, if its first label is in Punycode. -/
def checkName (name : List Char) : Except LabelFault Unit :=
  if codedMark.isPrefixOf name then (ofName name).1.forM checkSent else .ok ()

end Label
end ApiAccessors
