namespace ApiAccessors
namespace Text

/-!
# Byte encoding

The eight-bit encoding of characters.  One step reads a character from the front of a byte
sequence, or tells how many bytes can begin no character; strict reading fails on those, lenient
reading puts one replacement character in their place.
-/

namespace Utf8

/-- What stands at the front of a nonempty byte sequence. -/
inductive Step where
  | char (value : Char) (rest : List UInt8)
  | broken (rest : List UInt8)

/-- The six low bits of a continuation byte. -/
def continuation? (low high : Nat) (byte : UInt8) : Option Nat :=
  if low ≤ byte.toNat ∧ byte.toNat ≤ high then some (byte.toNat - 0x80) else none

/-- Read further continuation bytes, stopping at the first that is none. -/
def more : Nat → Nat → List UInt8 → Step
  | 0, code, rest => .char (Char.ofNat code) rest
  | _ + 1, _, [] => .broken []
  | count + 1, code, byte :: rest =>
      match continuation? 0x80 0xBF byte with
      | some bits => more count (code * 64 + bits) rest
      | none => .broken (byte :: rest)

/-- Read the first continuation byte, whose range depends on the leading byte, and the others. -/
def lead (low high count code : Nat) : List UInt8 → Step
  | [] => .broken []
  | byte :: rest =>
      match continuation? low high byte with
      | some bits => more count (code * 64 + bits) rest
      | none => .broken (byte :: rest)

/-- One character, or the longest sequence that begins like one. -/
def step (byte : UInt8) (rest : List UInt8) : Step :=
  let code := byte.toNat
  if code < 0x80 then .char (Char.ofNat code) rest
  else if code < 0xC2 then .broken rest
  else if code < 0xE0 then lead 0x80 0xBF 0 (code - 0xC0) rest
  else if code = 0xE0 then lead 0xA0 0xBF 1 0 rest
  else if code = 0xED then lead 0x80 0x9F 1 0xD rest
  else if code < 0xF0 then lead 0x80 0xBF 1 (code - 0xE0) rest
  else if code = 0xF0 then lead 0x90 0xBF 2 0 rest
  else if code < 0xF4 then lead 0x80 0xBF 2 (code - 0xF0) rest
  else if code = 0xF4 then lead 0x80 0x8F 2 4 rest
  else .broken rest

/-- What a step leaves over. -/
def Step.rest : Step → List UInt8
  | .char _ rest => rest
  | .broken rest => rest

theorem more_rest_le (count code : Nat) (bytes : List UInt8) :
    (more count code bytes).rest.length ≤ bytes.length := by
  induction count generalizing code bytes with
  | zero => simp [more, Step.rest]
  | succ count ih =>
      cases bytes with
      | nil => simp [more, Step.rest]
      | cons byte rest =>
          simp only [more]
          split
          · exact Nat.le_trans (ih _ _) (by simp)
          · simp [Step.rest]

theorem lead_rest_le (low high count code : Nat) (bytes : List UInt8) :
    (lead low high count code bytes).rest.length ≤ bytes.length := by
  cases bytes with
  | nil => simp [lead, Step.rest]
  | cons byte rest =>
      simp only [lead]
      split
      · exact Nat.le_trans (more_rest_le _ _ _) (by simp)
      · simp [Step.rest]

/-- A step reads at least its leading byte. -/
theorem step_rest_le (byte : UInt8) (rest : List UInt8) :
    (step byte rest).rest.length ≤ rest.length := by
  unfold step
  simp only
  repeat' split
  all_goals first
    | exact lead_rest_le _ _ _ _ _
    | simp [Step.rest]

/-- Strict reading: no text at all if some bytes begin no character. -/
def decode? (bytes : List UInt8) : Option (List Char) :=
  match bytes with
  | [] => some []
  | byte :: rest =>
      match h : step byte rest with
      | .char value others =>
          have : others.length < rest.length + 1 := by
            have shorter := step_rest_le byte rest
            simp only [h, Step.rest] at shorter
            omega
          (decode? others).map (value :: ·)
      | .broken _ => none
termination_by bytes.length

/-- Lenient reading: one replacement character for each sequence that begins no character. -/
def decodeLossy (bytes : List UInt8) : List Char :=
  match bytes with
  | [] => []
  | byte :: rest =>
      match h : step byte rest with
      | .char value others =>
          have : others.length < rest.length + 1 := by
            have shorter := step_rest_le byte rest
            simp only [h, Step.rest] at shorter
            omega
          value :: decodeLossy others
      | .broken others =>
          have : others.length < rest.length + 1 := by
            have shorter := step_rest_le byte rest
            simp only [h, Step.rest] at shorter
            omega
          '\uFFFD' :: decodeLossy others
termination_by bytes.length

/-- The bytes of one character. -/
def encodeChar (c : Char) : List UInt8 :=
  let code := c.toNat
  if code < 0x80 then [code.toUInt8]
  else if code < 0x800 then [(0xC0 + code / 64).toUInt8, (0x80 + code % 64).toUInt8]
  else if code < 0x10000 then
    [(0xE0 + code / 4096).toUInt8, (0x80 + code / 64 % 64).toUInt8, (0x80 + code % 64).toUInt8]
  else
    [(0xF0 + code / 262144).toUInt8, (0x80 + code / 4096 % 64).toUInt8,
      (0x80 + code / 64 % 64).toUInt8, (0x80 + code % 64).toUInt8]

def encode (text : List Char) : List UInt8 := text.flatMap encodeChar

end Utf8
end Text
end ApiAccessors
