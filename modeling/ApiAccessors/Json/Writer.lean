import ApiAccessors.Document.Display
import ApiAccessors.Json.Reader

namespace ApiAccessors
namespace Json

/-!
# Writing interchange text

The written form uses no characters beyond the printable ASCII ones: all others stand as numeric
escapes, in surrogate pairs where they need it.  A tuple is written as a list.  Dates, moments,
byte sequences and sets have no written form, and neither has a collection that contains itself.
A style says what stands between the brackets and the items.
-/

/-- What is written after an opening bracket, between items and before a closing one. -/
structure Style where
  opening : Nat → List Char
  between : Nat → List Char
  closing : Nat → List Char

def indentation (width : Nat) : List Char := '\n' :: List.replicate width ' '

/-- Everything on one line. -/
def compact : Style := ⟨fun _ => [], fun _ => [',', ' '], fun _ => []⟩

/-- Every item on its own line, `width` columns further in than its container. -/
def indented (width : Nat) : Style where
  opening := fun depth => indentation (width * (depth + 1))
  between := fun depth => ',' :: indentation (width * (depth + 1))
  closing := fun depth => indentation (width * depth)

def unitEscape (unit : Nat) : List Char := '\\' :: 'u' :: Text.HexCase.small.write 4 unit

/-- One character inside a string. -/
def writeChar (c : Char) : List Char :=
  let code := c.toNat
  if c = '"' then ['\\', '"']
  else if c = '\\' then ['\\', '\\']
  else if c = '\n' then ['\\', 'n']
  else if c = '\r' then ['\\', 'r']
  else if c = '\t' then ['\\', 't']
  else if c = '\x0C' then ['\\', 'f']
  else if c = '\x08' then ['\\', 'b']
  else if 0x20 ≤ code && code < 0x7F then [c]
  else if code < 0x10000 then unitEscape code
  else
    unitEscape (0xD800 + (code - 0x10000) / 0x400) ++
      unitEscape (0xDC00 + (code - 0x10000) % 0x400)

def writeString (text : String) : List Char :=
  '"' :: (text.toList.flatMap writeChar ++ ['"'])

/-- The text of a scalar without quotes around it; integers that are too long to be read are not
written either. -/
def scalarText : Value → Except Fault String
  | .null => .ok "null"
  | .bool value => .ok (if value then "true" else "false")
  | .int value =>
      if Value.isLongInteger value then .error .badValue else .ok (toString value)
  | .float value => .ok (value.text Binary64.interchange)
  | _ => .error .wrongKind

/-- A key is written as a string, also where it is none. -/
def writeKey (key : Value) : Except Fault (List Char) :=
  match key with
  | .text name => .ok (writeString name)
  | other => (scalarText other).map writeString

/-- What is written for a collection, from its first part and from those behind it. -/
def bracketed (style : Style) (depth : Nat) (opening closing : Char) (head tail : List Char) :
    List Char :=
  opening :: (style.opening depth ++ head ++ tail ++ style.closing depth ++ [closing])

section

-- Collections inside each other are written as long as there is room for them on the call stack.
variable (room : Nat)

mutual

/-- A value at a depth of nesting, inside collections with the given numbers. -/
def writeValue (style : Style) (around : List Nat) (depth : Nat) :
    Value → Except Fault (List Char)
  | .text value => .ok (writeString value)
  | .list items => writeRow style around depth items
  | .tuple items => writeRow style around depth items
  | .map entries =>
      if room ≤ depth then .error .tooDeep
      else
        match entries with
        | [] => .ok ['\x7b', '\x7d']
        | (key, value) :: rest =>
            match writeKey key, writeValue style around (depth + 1) value,
                writeMembers style around depth rest with
            | .ok name, .ok head, .ok tail =>
                .ok (bracketed style depth '\x7b' '\x7d' (name ++ [':', ' '] ++ head) tail)
            | .error fault, _, _ => .error fault
            | _, .error fault, _ => .error fault
            | _, _, .error fault => .error fault
  | .cyclic number body =>
      if around.contains number then .error .badValue
      else writeValue style (number :: around) depth body
  | .again _ => .error .badValue
  | other => (scalarText other).map String.toList

/-- A list or tuple at a depth of nesting. -/
def writeRow (style : Style) (around : List Nat) (depth : Nat) (items : List Value) :
    Except Fault (List Char) :=
  if room ≤ depth then .error .tooDeep
  else
    match items with
    | [] => .ok ['[', ']']
    | first :: rest =>
        match writeValue style around (depth + 1) first, writeItems style around depth rest with
        | .ok head, .ok tail => .ok (bracketed style depth '[' ']' head tail)
        | .error fault, _ => .error fault
        | _, .error fault => .error fault

/-- The items behind the first one, each with what stands before it. -/
def writeItems (style : Style) (around : List Nat) (depth : Nat) :
    List Value → Except Fault (List Char)
  | [] => .ok []
  | item :: rest =>
      match writeValue style around (depth + 1) item, writeItems style around depth rest with
      | .ok head, .ok tail => .ok (style.between depth ++ head ++ tail)
      | .error fault, _ => .error fault
      | _, .error fault => .error fault

/-- The members behind the first one, each with what stands before it. -/
def writeMembers (style : Style) (around : List Nat) (depth : Nat) :
    List (Value × Value) → Except Fault (List Char)
  | [] => .ok []
  | (key, value) :: rest =>
      match writeKey key, writeValue style around (depth + 1) value,
          writeMembers style around depth rest with
      | .ok name, .ok head, .ok tail =>
          .ok (style.between depth ++ name ++ [':', ' '] ++ head ++ tail)
      | .error fault, _, _ => .error fault
      | _, .error fault, _ => .error fault
      | _, _, .error fault => .error fault

end

end

/-- The written form of a value. -/
def write (room : Nat) (style : Style) (value : Value) : Except Fault String :=
  (writeValue room style [] 0 value).map String.ofList

end Json
end ApiAccessors
