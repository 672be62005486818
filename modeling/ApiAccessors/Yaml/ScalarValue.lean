import ApiAccessors.Text.Base64
import ApiAccessors.Text.Case
import ApiAccessors.Text.Numeral
import ApiAccessors.Text.Split
import ApiAccessors.Yaml.Cursor
import ApiAccessors.Yaml.Kind

namespace ApiAccessors
namespace Yaml

/-!
# Values of scalars

The value that a text has as a scalar of a kind.  A tag may ask for a kind that the text does not
have the form of; then the text has no value of that kind, and the cause depends on where reading
it went wrong.
-/

def noValue {α : Type} (cause : Fault) : Except Failure α := .error (.fault cause)

def requireValue {α : Type} : Option α → Except Failure α
  | some value => .ok value
  | none => noValue .badValue

def dropUnderscores (text : List Char) : List Char := text.filter (· != '_')

/-- Parts of which each counts sixty times as much as the next. -/
def sumSixtieths (parts : List Int) : Int := parts.foldl (fun sum part => sum * 60 + part) 0

/-- An integer: the beginning tells its base. -/
def intValue (text : List Char) : Except Failure Int :=
  match dropUnderscores text with
  | [] => noValue .missingPosition
  | first :: rest => do
      let signed := first == '-' || first == '+'
      let digits := if signed then rest else first :: rest
      let number ←
        match digits with
        | [] => noValue .missingPosition
        | ['0'] => pure 0
        | '0' :: 'b' :: bits => requireValue (Text.readInteger? 2 bits)
        | '0' :: 'x' :: places => requireValue (Text.readInteger? 16 places)
        | '0' :: places => requireValue (Text.readInteger? 8 ('0' :: places))
        | places =>
            if places.contains ':' then do
              let parts := Text.splitWhere (· == ':') places
              sumSixtieths <$> requireValue (parts.mapM (Text.readInteger? 10))
            else requireValue (Text.readInteger? 10 places)
      pure (if first == '-' then -number else number)

/-- Sum up parts from the last one on, each of which counts sixty times as much as the next. -/
def sumReals (parts : List Binary64) : Binary64 :=
  (parts.reverse.foldl
    (fun (state : Binary64 × Nat) part =>
      (state.1.add (part.mul (Binary64.ofNat state.2)), state.2 * 60))
    (Binary64.zero false, 1)).1

def notANumber : List Char := ".nan".toList

/-- A number with a point, without its sign. -/
def unsignedFloat (text : List Char) : List Char :=
  match Text.lower (dropUnderscores text) with
  | [] => []
  | first :: rest => if first == '-' || first == '+' then rest else first :: rest

/-- A number with a point. -/
def floatValue (text : List Char) : Except Failure Binary64 :=
  match Text.lower (dropUnderscores text) with
  | [] => noValue .missingPosition
  | first :: _ => do
      let digits := unsignedFloat text
      let number ←
        if digits == ".inf".toList then pure (.infinite false)
        else if digits == notANumber then pure .nan
        else if digits.contains ':' then
          sumReals <$>
            requireValue ((Text.splitWhere (· == ':') digits).mapM Text.readReal?)
        else requireValue (Text.readReal? digits)
      pure (if first == '-' then number.negate else number)

/-- The bytes of a binary scalar; its text must be plain letters. -/
def bytesValue (text : List Char) : Except Failure (List UInt8) :=
  if text.all (fun c => c.toNat < 0x80) then
    match Text.Base64.decode? text with
    | some bytes => .ok bytes
    | none => .error .malformed
  else .error .malformed

def scalarValue (kind : Kind) (text : String) : Except Failure Value :=
  let chars := text.toList
  match kind with
  | .null => .ok .null
  | .bool =>
      match Kind.truthWords.lookup (String.ofList (Text.lower chars)) with
      | some value => .ok (.bool value)
      | none => noValue .missingEntry
  | .int => .int <$> intValue chars
  | .float => .float <$> floatValue chars
  | .binary => .bytes <$> bytesValue chars
  | .timestamp =>
      let form := if chars.getLast? == some '\n' then chars.dropLast else chars
      match Timestamp.written? form with
      | some written => requireValue (Timestamp.value? written)
      | none => noValue .noSuchOperation
  | .text => .ok (.text text)
  | _ => .error .malformed

end Yaml
end ApiAccessors
