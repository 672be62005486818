import ApiAccessors.Text.Case
import ApiAccessors.Text.CodePage
import ApiAccessors.Text.Split
import ApiAccessors.Text.WideUnits

namespace ApiAccessors
namespace Text

/-!
# Named encodings

The encodings that a text may be said to have.  Every encoding has several names, in which case and
punctuation do not count.  Reading is lenient: what stands for no character is replaced, and only a
mark that is missing where it is needed makes bytes unreadable.
-/

inductive Charset where
  | utf8
  /-- The usual encoding behind a mark, which may be missing. -/
  | markedUtf8
  | ascii
  | latin
  | page (table : CodePage)
  | wide (order : ByteOrder)
  /-- Units of two bytes behind a mark that shows their order, without which there are none. -/
  | markedWide
  | widest (order : ByteOrder)
  /-- Units of four bytes behind a mark that shows their order, without which there are none. -/
  | markedWidest
deriving DecidableEq, Repr

namespace Charset

/-- The names of the encodings other than the usual one and the code pages. -/
def names : List (Charset × List String) := [
  (.ascii, ["ascii", "us_ascii", "us", "646", "iso646_us", "cp367", "ibm367", "csascii",
    "iso_ir_6", "ansi_x3.4_1968", "ansi_x3_4_1968", "ansi_x3.4_1986", "iso_646.irv_1991"]),
  (.latin, ["latin_1", "latin1", "latin", "l1", "iso_8859_1", "iso8859_1", "iso8859", "8859",
    "cp819", "ibm819", "csisolatin1", "iso_ir_100", "iso_8859_1_1987"]),
  (.markedUtf8, ["utf_8_sig"]),
  (.wide .little, ["utf_16_le", "utf_16le", "unicodelittleunmarked"]),
  (.wide .big, ["utf_16_be", "utf_16be", "unicodebigunmarked"]),
  (.markedWide, ["utf_16", "utf16", "u16"]),
  (.widest .little, ["utf_32_le", "utf_32le"]),
  (.widest .big, ["utf_32_be", "utf_32be"]),
  (.markedWidest, ["utf_32", "utf32", "u32"])]

/-- A name in small letters, with underscores for punctuation inside it. -/
def normalizeName (name : List Char) : String :=
  let parts := splitWhere (fun c => !(c.isAlphanum || c == '.')) (lower name)
  String.ofList (['_'].intercalate (parts.filter (fun part => !part.isEmpty)))

/-- The encoding that a name stands for; all others are read like the usual one. -/
def ofName (name : List Char) : Charset :=
  let plain := normalizeName name
  match names.find? (fun entry => entry.2.contains plain), CodePage.ofName? plain with
  | some (charset, _), _ => charset
  | none, some table => .page table
  | none, none => .utf8

def replacement : Char := '\uFFFD'

def asciiChar (byte : UInt8) : Char :=
  if byte.toNat < 0x80 then Char.ofNat byte.toNat else replacement

def latinChar (byte : UInt8) : Char := Char.ofNat byte.toNat

/-- The mark in front of a text in the usual encoding. -/
def utf8Mark : List UInt8 := [0xEF, 0xBB, 0xBF]

/-- Read bytes behind a mark; an unfinished mark stands for nothing. -/
def decodeMarkedUtf8 (bytes : List UInt8) : List Char :=
  if bytes.isPrefixOf utf8Mark then []
  else if utf8Mark.isPrefixOf bytes then Utf8.decodeLossy (bytes.drop utf8Mark.length)
  else Utf8.decodeLossy bytes

/-- Units of two bytes in the order that the mark in front of them shows. -/
def decodeMarked? : List UInt8 → Option (List Char)
  | 0xFE :: 0xFF :: rest => some (decodePairs .big rest)
  | 0xFF :: 0xFE :: rest => some (decodePairs .little rest)
  | bytes => if bytes.length < 2 then some (decodePairs .little bytes) else none

/-- Units of four bytes in the order that the mark in front of them shows. -/
def decodeMarkedQuads? : List UInt8 → Option (List Char)
  | 0x00 :: 0x00 :: 0xFE :: 0xFF :: rest => some (decodeQuads .big rest)
  | 0xFF :: 0xFE :: 0x00 :: 0x00 :: rest => some (decodeQuads .little rest)
  | bytes => if bytes.length < 4 then some (decodeQuads .little bytes) else none

/-- Read bytes in an encoding. -/
def decode? (charset : Charset) (bytes : List UInt8) : Option (List Char) :=
  match charset with
  | .utf8 => some (Utf8.decodeLossy bytes)
  | .markedUtf8 => some (decodeMarkedUtf8 bytes)
  | .ascii => some (bytes.map asciiChar)
  | .latin => some (bytes.map latinChar)
  | .page table => some (table.decode bytes)
  | .wide order => some (decodePairs order bytes)
  | .markedWide => decodeMarked? bytes
  | .widest order => some (decodeQuads order bytes)
  | .markedWidest => decodeMarkedQuads? bytes

end Charset
end Text
end ApiAccessors
