import ApiAccessors.Http.Label
import ApiAccessors.Http.Percent

namespace ApiAccessors
namespace Host

/-!
# Hosts

A host is a name or a numeric address.  Whatever has the form of a numeric address must be one;
names are written in small letters, and those with other than plain characters in coded labels.
-/

/--
Whether a text has the form of four numbers with one character between each two, given how many
such characters are still to come and whether the number at hand has begun.
-/
def isNumbered : Nat → Bool → List Char → Bool
  | marks, begun, [] => marks == 0 && begun
  | marks, begun, c :: rest =>
      (Text.isAsciiDigit c && isNumbered marks true rest) ||
        (match marks with
          | 0 => false
          | others + 1 => begun && isNumbered others false rest)

def isOctet (part : List Char) : Bool :=
  match part with
  | ['0'] => true
  | '0' :: _ => false
  | digits =>
      !digits.isEmpty && digits.length ≤ 3 && digits.all Text.isAsciiDigit &&
        digits.foldl (fun number c => number * 10 + (c.toNat - '0'.toNat)) 0 ≤ 255

/-- Four numbers up to 255 with points between them. -/
def isFourPart (text : List Char) : Bool :=
  let parts := Text.splitWhere (· == '.') text
  parts.length == 4 && parts.all isOctet

def isHexGroup (part : List Char) : Bool :=
  !part.isEmpty && part.length ≤ 4 && part.all (fun c => (Text.hexValue? c).isSome)

/-- How many groups a row of groups counts for; a four part address may end it and counts twice. -/
def groupCount? (parts : List (List Char)) : Option Nat :=
  match parts.reverse with
  | [] => some 0
  | last :: others =>
      if others.all isHexGroup then
        if isHexGroup last then some parts.length
        else if isFourPart last then some (parts.length + 1)
        else none
      else none

/-- The groups of a text, where the empty text has none. -/
def groups (text : List Char) : List (List Char) :=
  if text.isEmpty then [] else Text.splitWhere (· == ':') text

/-- The places where two colons stand together, as the texts around them. -/
def doubleColons : List Char → List Char → List (List Char × List Char)
  | before, ':' :: ':' :: rest =>
      (before.reverse, rest) :: doubleColons (':' :: before) (':' :: rest)
  | before, c :: rest => doubleColons (c :: before) rest
  | _, [] => []

/-- Eight groups with colons between them; two colons once stand for missing groups. -/
def isEightPart (text : List Char) : Bool :=
  let (address, scope) := Text.cutFirst '%' text
  let scopeFits :=
    match scope with
    | none => true
    | some name => !name.isEmpty && !name.contains '%'
  scopeFits &&
    (match doubleColons [] address with
      | [] => groupCount? (groups address) == some 8
      | [(before, after)] =>
          match groupCount? (groups before), groupCount? (groups after) with
          | some left, some right => before.all (· != '.') && left + right ≤ 7
          | _, _ => false
      | _ => false)

/-- What a text that is no host looks like. -/
inductive Form where
  | fourPart
  | eightPart
  | name
deriving DecidableEq, Repr

/-- The host as it is sent, without brackets, if it can be a host. -/
def normalize (host : List Char) : Except Form (List Char) :=
  match host with
  | [] => .ok []
  | first :: rest =>
      if isNumbered 3 false host then if isFourPart host then .ok host else .error .fourPart
      else if first = '[' && host.getLast? == some ']' then
        if isEightPart rest.dropLast then .ok rest.dropLast else .error .eightPart
      else if host.all Text.Punycode.isPlain then
        .ok (Percent.encode Percent.isHostSafe (Text.lower host))
      else (Label.encodeName (Text.lower host)).mapError (fun _ => .name)

end Host
end ApiAccessors
