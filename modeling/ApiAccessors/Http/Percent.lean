import ApiAccessors.Text.Hex
import ApiAccessors.Text.Utf8

namespace ApiAccessors
namespace Percent

/-!
# Percent encoding

Characters that cannot stand in a part of an address are written as the numbers of their bytes,
each behind a percent sign.  Which characters can stand is different from part to part.
-/

def escapeByte (byte : UInt8) : List Char := '%' :: Text.HexCase.capital.write 2 byte.toNat

/-- Escape the characters that are not safe. -/
def encode (isSafe : Char → Bool) (text : List Char) : List Char :=
  text.flatMap (fun c =>
    if isSafe c then [c] else (Text.Utf8.encodeChar c).flatMap escapeByte)

/-- The bytes of a text, escaped ones included. -/
def decodeBytes : List Char → List UInt8
  | '%' :: a :: b :: rest =>
      match Text.hexValue? a, Text.hexValue? b with
      | some high, some low => (high * 16 + low).toUInt8 :: decodeBytes rest
      | _, _ => 0x25 :: decodeBytes (a :: b :: rest)
  | c :: rest => Text.Utf8.encodeChar c ++ decodeBytes rest
  | [] => []

/-- Undo the escapes of a text. -/
def decode (text : List Char) : List Char := Text.Utf8.decodeLossy (decodeBytes text)

/-- The letters, digits and marks that are never escaped. -/
def isUnreserved (c : Char) : Bool :=
  c.isAlphanum || c == '-' || c == '.' || c == '_' || c == '~'

/-- The visible ASCII characters without the given ones. -/
def visibleBut (others : List Char) (c : Char) : Bool :=
  0x21 ≤ c.toNat && c.toNat ≤ 0x7E && !others.contains c

/-- The characters that no query contains as they are. -/
def queryUnsafe : List Char := ['"', '#', '<', '>']

def pathUnsafe : List Char := queryUnsafe ++ ['?', '\x60', '\x7b', '\x7d']

def userUnsafe : List Char :=
  pathUnsafe ++ ['/', ';', '=', '@', '[', '\\', ']', '^', '|']

def fragmentUnsafe : List Char := ['"', '<', '>', '\x60']

def hostMarks : List Char := "!$&'()*+,;=\"\x60\x7b\x7d%|\\".toList

def isHostSafe (c : Char) : Bool := isUnreserved c || hostMarks.contains c

end Percent
end ApiAccessors
