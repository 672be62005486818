import ApiAccessors.Text.Hex
import ApiAccessors.Text.Printable

namespace ApiAccessors
namespace Text

/-!
# Quoted literals

The literal of a text in generated code.  It stands in single quotes, unless the text has a single
quote and no double one.  The quote, the backslash and everything unprintable are escaped, so a
literal is one line of printable characters.
-/

namespace Literal

def delimiter (text : List Char) : Char :=
  if text.contains '\'' && !text.contains '"' then '"' else '\''

/-- The escape of a code point by number. -/
def numeric (code : Nat) : List Char :=
  if code < 0x100 then '\\' :: 'x' :: HexCase.small.write 2 code
  else if code < 0x10000 then '\\' :: 'u' :: HexCase.small.write 4 code
  else '\\' :: 'U' :: HexCase.small.write 8 code

/-- One character between the given quotes. -/
def escape (quote c : Char) : List Char :=
  if c = quote || c = '\\' then ['\\', c]
  else if c = '\t' then ['\\', 't']
  else if c = '\n' then ['\\', 'n']
  else if c = '\r' then ['\\', 'r']
  else if isPrintable c then [c]
  else numeric c.toNat

def encode (text : List Char) : List Char :=
  let quote := delimiter text
  quote :: (text.flatMap (escape quote) ++ [quote])

/-- The literal of a byte sequence, where every byte beyond the printable ones is escaped. -/
def encodeBytes (bytes : List UInt8) : List Char :=
  let quote := delimiter (bytes.map (fun byte => Char.ofNat byte.toNat))
  let escapeByte (byte : UInt8) : List Char :=
    let c := Char.ofNat byte.toNat
    if byte.toNat < 0x80 then escape quote c else numeric byte.toNat
  'b' :: quote :: (bytes.flatMap escapeByte ++ [quote])

end Literal
end Text
end ApiAccessors
