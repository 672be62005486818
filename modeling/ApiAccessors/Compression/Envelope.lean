import ApiAccessors.Compression.Checksum
import ApiAccessors.Compression.Inflate

namespace ApiAccessors
namespace Envelope

/-!
# Envelopes of deflated bytes

Deflated bytes travel with a header and a checksum.  The long envelope has a header of ten bytes
that may be followed by a name and comments, and ends with the remainder and the length of what is
inside; the short one has a header of two bytes and ends with the sums.

As for deflated bytes, an end that comes too early is no fault.
-/

/-- What an envelope can do wrong. -/
inductive Fault where
  | header
  | method
  | flags
  | headerChecksum
  | windowSize
  | preset
  | data
  | length
  | inside (fault : Inflate.Fault)
deriving DecidableEq, Repr

namespace Fault

/-- What is said in front of a fault. -/
def opening : Fault → String
  | .preset => "Error 2 while decompressing data"
  | _ => "Error -3 while decompressing data: "

def detail : Fault → String
  | .header => "incorrect header check"
  | .method => "unknown compression method"
  | .flags => "unknown header flags set"
  | .headerChecksum => "header crc mismatch"
  | .windowSize => "invalid window size"
  | .preset => ""
  | .data => "incorrect data check"
  | .length => "incorrect length check"
  | .inside fault => fault.message

def message (fault : Fault) : String := fault.opening ++ fault.detail

end Fault

/-- The method of deflated bytes. -/
def deflated : Nat := 8

/-- A number from bytes, the lowest first. -/
def littleEnd (bytes : List UInt8) : Nat :=
  bytes.foldr (fun byte value => byte.toNat + 256 * value) 0

/-- A number from bytes, the highest first. -/
def bigEnd (bytes : List UInt8) : Nat := littleEnd bytes.reverse

/-- Check a number behind what was inside, if enough bytes have come. -/
def checkNumber (fault : Fault) (read : List UInt8 → Nat) (expected : Nat) (bytes : List UInt8) :
    Except Fault (Option (List UInt8)) :=
  if bytes.length < 4 then .ok none
  else if read (bytes.take 4) = expected then .ok (some (bytes.drop 4))
  else .error fault

/-- The text behind a text that ends with a zero. -/
def dropText? (bytes : List UInt8) : Option (List UInt8) :=
  match bytes.dropWhile (· != 0) with
  | [] => none
  | _ :: rest => some rest

/-- The bytes behind a field that begins with its length. -/
def dropField? (bytes : List UInt8) : Option (List UInt8) :=
  if bytes.length < 2 then none
  else
    let length := littleEnd (bytes.take 2)
    if bytes.length < 2 + length then none else some (bytes.drop (2 + length))

/-- The bytes behind the header, given the bits that say what it holds. -/
def dropFields? (flags : Nat) (bytes : List UInt8) : Option (List UInt8) := do
  let bytes ← if bytes.length < 6 then none else some (bytes.drop 6)
  let bytes ← if flags.testBit 2 then dropField? bytes else some bytes
  let bytes ← if flags.testBit 3 then dropText? bytes else some bytes
  if flags.testBit 4 then dropText? bytes else some bytes

/-- The bytes behind the whole header, if they have come. -/
def longBody (bytes : List UInt8) : Except Fault (Option (List UInt8)) :=
  match bytes with
  | a :: b :: rest =>
      if a != 0x1F || b != 0x8B then .error .header
      else
        match rest with
        | method :: flags :: rest =>
            if method.toNat ≠ deflated then .error .method
            else if 0x20 ≤ flags.toNat then .error .flags
            else
              match dropFields? flags.toNat rest with
              | none => .ok none
              | some body =>
                  if flags.toNat.testBit 1 then
                    if body.length < 2 then .ok none
                    else
                      let head := bytes.take (bytes.length - body.length)
                      let expected := (Checksum.remainder head).toNat % 65536
                      if littleEnd (body.take 2) = expected then .ok (some (body.drop 2))
                      else .error .headerChecksum
                  else .ok (some body)
        | _ => .ok none
  | _ => .ok none

def openLong (bytes : List UInt8) : Except Fault (List UInt8) := do
  match ← longBody bytes with
  | none => pure []
  | some body =>
      let inside ← (Inflate.inflate body).mapError Fault.inside
      match inside.rest with
      | none => pure ()
      | some rest =>
          let expected := (Checksum.remainder inside.output).toNat
          match ← checkNumber .data littleEnd expected rest with
          | none => pure ()
          | some rest =>
              let length := inside.output.length % Nat.pow 2 32
              let _ ← checkNumber .length littleEnd length rest
      pure inside.output

def openShort (bytes : List UInt8) : Except Fault (List UInt8) :=
  match bytes with
  | a :: b :: rest =>
      if (a.toNat * 256 + b.toNat) % 31 ≠ 0 then .error .header
      else if a.toNat % 16 ≠ deflated then .error .method
      else if 7 < a.toNat / 16 then .error .windowSize
      else if b.toNat.testBit 5 then if rest.length < 4 then .ok [] else .error .preset
      else do
        let inside ← (Inflate.inflate rest).mapError Fault.inside
        match inside.rest with
        | none => pure ()
        | some rest =>
            let expected := (Checksum.sums inside.output).toNat
            let _ ← checkNumber .data bigEnd expected rest
        pure inside.output
  | _ => .ok []

/-- Read deflated bytes with or without a short envelope. -/
def openAny (bytes : List UInt8) : Except Fault (List UInt8) :=
  match openShort bytes with
  | .ok output => .ok output
  | .error _ => ((Inflate.inflate bytes).map (·.output)).mapError Fault.inside

end Envelope
end ApiAccessors
