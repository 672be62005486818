namespace ApiAccessors
namespace Text

/-!
# Six-bit text

Bytes written with 64 characters, six bits to each.  Reading passes over all other characters; it
ends at padding that completes a group of four, and fails if the text ends inside a group.
-/

namespace Base64

/-- The six bits of a character. -/
def bits? (c : Char) : Option Nat :=
  if c.isUpper then some (c.toNat - 'A'.toNat)
  else if c.isLower then some (c.toNat - 'a'.toNat + 26)
  else if c.isDigit then some (c.toNat - '0'.toNat + 52)
  else if c = '+' then some 62
  else if c = '/' then some 63
  else none

/--
Read on with `place` characters of a group read, `left` the bits that make no byte yet, and `pads`
the padding since the last of them.
-/
def decodeFrom (place left pads : Nat) : List Char → Option (List UInt8)
  | [] => if place = 0 then some [] else none
  | c :: rest =>
      if c = '=' then
        if 2 ≤ place then
          if 4 ≤ place + (pads + 1) then some [] else decodeFrom place left (pads + 1) rest
        else decodeFrom place left pads rest
      else
        match bits? c with
        | none => decodeFrom place left pads rest
        | some bits =>
            let sum := left * 64 + bits
            match place with
            | 0 => decodeFrom 1 bits 0 rest
            | 1 => (decodeFrom 2 (sum % 16) 0 rest).map ((sum / 16).toUInt8 :: ·)
            | 2 => (decodeFrom 3 (sum % 4) 0 rest).map ((sum / 4).toUInt8 :: ·)
            | _ => (decodeFrom 0 0 0 rest).map (sum.toUInt8 :: ·)

/-- The character of six bits. -/
def char (bits : Nat) : Char :=
  if bits < 26 then Char.ofNat ('A'.toNat + bits)
  else if bits < 52 then Char.ofNat ('a'.toNat + (bits - 26))
  else if bits < 62 then Char.ofNat ('0'.toNat + (bits - 52))
  else if bits = 62 then '+'
  else '/'

/-- The text of bytes, padded to whole groups. -/
def encode : List UInt8 → List Char
  | [] => []
  | [a] =>
      let sum := a.toNat * 16
      [char (sum / 64), char (sum % 64), '=', '=']
  | [a, b] =>
      let sum := (a.toNat * 256 + b.toNat) * 4
      [char (sum / 4096), char (sum / 64 % 64), char (sum % 64), '=']
  | a :: b :: c :: rest =>
      let sum := (a.toNat * 256 + b.toNat) * 256 + c.toNat
      char (sum / 262144) :: char (sum / 4096 % 64) :: char (sum / 64 % 64) :: char (sum % 64) ::
        encode rest

def decode? (text : List Char) : Option (List UInt8) := decodeFrom 0 0 0 text

end Base64
end Text
end ApiAccessors
