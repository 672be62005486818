import ApiAccessors.Binary64.Layout
import ApiAccessors.Document.Value
import ApiAccessors.Text.Digits
import ApiAccessors.Text.Quoted

namespace ApiAccessors

/-!
# Displayed values

The text of a value in messages and in generated code.  A text is displayed as it is; inside a
collection, and wherever generated code needs an expression, it is quoted.  A collection inside
itself is not displayed again.
-/

namespace Date

def expression (date : Date) : String :=
  "datetime.date(" ++ toString date.year ++ ", " ++ toString date.month ++ ", " ++
    toString date.day ++ ")"

end Date

namespace Moment

/-- The expression for a distance from universal time. -/
def zoneExpression (seconds : Int) : String :=
  if seconds = 0 then "datetime.timezone.utc"
  else
    let days := seconds / daySeconds
    let rest := seconds % daySeconds
    let parts :=
      (if days = 0 then [] else ["days=" ++ toString days]) ++
        (if rest = 0 then [] else ["seconds=" ++ toString rest])
    "datetime.timezone(datetime.timedelta(" ++ ", ".intercalate parts ++ "))"

/-- The expression that makes a moment: trailing zero seconds are left out. -/
def expression (moment : Moment) : String :=
  let numbers := [moment.date.year, moment.date.month, moment.date.day, moment.hour,
    moment.minute]
  let seconds :=
    if moment.microsecond = 0 then if moment.second = 0 then [] else [moment.second]
    else [moment.second, moment.microsecond]
  let zone :=
    match moment.offset with
    | none => []
    | some offset => ["tzinfo=" ++ zoneExpression offset]
  "datetime.datetime(" ++ ", ".intercalate ((numbers ++ seconds).map toString ++ zone) ++ ")"

end Moment

def quoteText (value : String) : String := String.ofList (Text.Literal.encode value.toList)

namespace Value

/-- What stands in an expression for a collection inside itself. -/
def ellipsis : Value → String
  | .tuple _ => "(...)"
  | .map _ => "\x7b...\x7d"
  | _ => "[...]"

/-- Expressions of items, with the mark that tells one item in parentheses from that item. -/
def tupleText : List String → String
  | [item] => "(" ++ item ++ ",)"
  | items => "(" ++ ", ".intercalate items ++ ")"

/-- Expressions of members; the empty set needs a name, as empty braces are a mapping. -/
def setText : List String → String
  | [] => "set()"
  | members => "\x7b" ++ ", ".intercalate members ++ "\x7d"

/-- The collections around a value by number, each with what stands for it inside itself. -/
abbrev Around := List (Nat × String)

mutual

/-- The expression for a value inside other collections. -/
def quotedIn (around : Around) : Value → String
  | .null => "None"
  | .bool value => if value then "True" else "False"
  | .int value => toString value
  | .float value => value.text Binary64.display
  | .text value => quoteText value
  | .bytes value => String.ofList (Text.Literal.encodeBytes value)
  | .date value => value.expression
  | .moment value => value.expression
  | .list items => "[" ++ ", ".intercalate (quotedItems around items) ++ "]"
  | .tuple items => tupleText (quotedItems around items)
  | .set members => setText (quotedItems around members)
  | .map entries => "\x7b" ++ ", ".intercalate (quotedEntries around entries) ++ "\x7d"
  | .cyclic number body =>
      match around.lookup number with
      | some mark => mark
      | none => quotedIn ((number, body.ellipsis) :: around) body
  | .again number => (around.lookup number).getD ""

def quotedItems (around : Around) : List Value → List String
  | [] => []
  | item :: rest => quotedIn around item :: quotedItems around rest

/-- The entries of a mapping, each as key and value. -/
def quotedEntries (around : Around) : List (Value × Value) → List String
  | [] => []
  | (key, value) :: rest =>
      (quotedIn around key ++ ": " ++ quotedIn around value) :: quotedEntries around rest

end

/-- The expression that generated code writes for a value. -/
def quoted (value : Value) : String := quotedIn [] value

def display : Value → String
  | .text value => value
  | .date value => value.text
  | .moment value => value.text
  | other => other.quoted

/-- Whether an integer has more digits than are written. -/
def isLongInteger (value : Int) : Bool := Text.digitLimit < (toString value.natAbs).length

mutual

/-- Whether there is an integer in a value that is too long to be written. -/
def hasLongInteger : Value → Bool
  | .int value => isLongInteger value
  | .list items => itemsHaveLongInteger items
  | .tuple items => itemsHaveLongInteger items
  | .set members => itemsHaveLongInteger members
  | .map entries => entriesHaveLongInteger entries
  | .cyclic _ body => hasLongInteger body
  | _ => false

def itemsHaveLongInteger : List Value → Bool
  | [] => false
  | item :: rest => hasLongInteger item || itemsHaveLongInteger rest

def entriesHaveLongInteger : List (Value × Value) → Bool
  | [] => false
  | (key, value) :: rest =>
      hasLongInteger key || hasLongInteger value || entriesHaveLongInteger rest

end

/-- The text of a value where it has one. -/
def spell (value : Value) : Except Fault String :=
  if value.hasLongInteger then .error .badValue else .ok value.display

end Value
end ApiAccessors
