import ApiAccessors.Document.Timestamp

namespace ApiAccessors
namespace Yaml

/-!
# Kinds of nodes

A tag says what kind of value a node is.  A plain scalar without a tag tells its kind by its form:
each form is a test on the text, and the first form that fits decides.  Everything else is text.
-/

/-- The kinds of values that tags name. -/
inductive Kind where
  | null
  | bool
  | int
  | float
  | binary
  | timestamp
  | orderedMap
  | pairs
  | set
  | text
  | list
  | map
  /-- The key whose value lends its entries to the mapping it stands in. -/
  | merge
  /-- The key whose value stands for the mapping where a scalar is needed. -/
  | standIn
  /-- A kind that documents do not have. -/
  | unknown
deriving DecidableEq, Repr

namespace Kind

def tagStart : String := "tag:yaml.org,2002:"

def names : List (String × Kind) := [
  ("null", .null), ("bool", .bool), ("int", .int), ("float", .float), ("binary", .binary),
  ("timestamp", .timestamp), ("omap", .orderedMap), ("pairs", .pairs), ("set", .set),
  ("str", .text), ("seq", .list), ("map", .map), ("merge", .merge), ("value", .standIn)]

def ofTag (tag : String) : Kind :=
  match names.find? (fun name => tagStart ++ name.1 == tag) with
  | some (_, kind) => kind
  | none => .unknown

def isScalar : Kind → Bool
  | .null => true
  | .bool => true
  | .int => true
  | .float => true
  | .binary => true
  | .timestamp => true
  | .text => true
  | _ => false

/-- Whether a kind is one of collections, whose parts are made later than themselves. -/
def isCollection : Kind → Bool
  | .list => true
  | .map => true
  | .orderedMap => true
  | .pairs => true
  | .set => true
  | _ => false

def truthWords : List (String × Bool) := [
  ("yes", true), ("no", false), ("true", true), ("false", false), ("on", true), ("off", false)]

/-- A word in small letters, in capitals, or with a capital first letter. -/
def wordForms (word : String) : List (List Char) :=
  let letters := word.toList
  [letters, letters.map Char.toUpper, (letters.take 1).map Char.toUpper ++ letters.drop 1]

def isTruthWord (text : List Char) : Bool :=
  truthWords.any (fun word => (wordForms word.1).contains text)

def isDigit (c : Char) : Bool := Text.isAsciiDigit c

/-- A digit or the underscore that may stand between digits. -/
def isSpacedDigit (c : Char) : Bool := isDigit c || c == '_'

def dropSign : List Char → List Char
  | '-' :: rest => rest
  | '+' :: rest => rest
  | unsigned => unsigned

/-- Nothing, or an exponent with a sign. -/
def isExponentOrEmpty : List Char → Bool
  | [] => true
  | mark :: sign :: digits =>
      (mark == 'e' || mark == 'E') && (sign == '-' || sign == '+') &&
        !digits.isEmpty && digits.all isDigit
  | _ => false

/-- A digit and perhaps further ones, and the text behind them. -/
def spacedDigits? : List Char → Option (List Char)
  | [] => none
  | c :: rest => if isDigit c then some (rest.dropWhile isSpacedDigit) else none

/-- One or more counts of sixtieths, each behind a colon, and the text behind them. -/
def sixtieths? : List Char → Option (List Char)
  | [':', c] => if isDigit c then some [] else none
  | ':' :: c :: d :: rest =>
      if isDigit c && c.toNat ≤ '5'.toNat && isDigit d then
        match rest with
        | ':' :: _ => sixtieths? rest
        | _ => some rest
      else if isDigit c then
        match d with
        | ':' => sixtieths? (d :: rest)
        | _ => some (d :: rest)
      else none
  | _ => none

/-- A point, digits, and perhaps an exponent. -/
def isFractionAndExponent : List Char → Bool
  | '.' :: rest => isExponentOrEmpty (rest.dropWhile isSpacedDigit)
  | _ => false

/-- A point and digits up to the end. -/
def isFraction : List Char → Bool
  | '.' :: rest => rest.all isSpacedDigit
  | _ => false

/-- A number with a point, or the name of one that is not finite. -/
def isFloat (text : List Char) : Bool :=
  let unsigned := dropSign text
  (match spacedDigits? unsigned with
    | some rest =>
        isFractionAndExponent rest ||
          (match sixtieths? rest with
            | some behind => isFraction behind
            | none => false)
    | none => false) ||
  (match text with
    | '.' :: rest =>
        match spacedDigits? rest with
        | some behind => isExponentOrEmpty behind
        | none => false
    | _ => false) ||
  (match unsigned with
    | '.' :: name => (wordForms "inf").contains name
    | _ => false) ||
  [".nan", ".NaN", ".NAN"].contains (String.ofList text)

/-- An integer in one of the four bases, or counted in sixtieths. -/
def isInt (text : List Char) : Bool :=
  match dropSign text with
  | ['0'] => true
  | '0' :: 'b' :: rest => !rest.isEmpty && rest.all (fun c => c == '0' || c == '1' || c == '_')
  | '0' :: 'x' :: rest =>
      !rest.isEmpty && rest.all (fun c => (Text.hexValue? c).isSome || c == '_')
  | '0' :: rest => rest.all (fun c => (isDigit c && c.toNat ≤ '7'.toNat) || c == '_')
  | unsigned =>
      match spacedDigits? unsigned with
      | some [] => true
      | some rest => sixtieths? rest == some []
      | none => false

/-- A day with two digits for month and day, or a day with a time. -/
def isTimestamp (text : List Char) : Bool :=
  match Timestamp.written? text with
  | some written => written.time.isSome || text.length == 10
  | none => false

def isNull (text : List Char) : Bool :=
  text.isEmpty || text == ['~'] || (wordForms "null").contains text

/-- One of the marks that begin a property or an alias, which is no value on its own. -/
def isPropertyMark (text : List Char) : Bool :=
  text == ['!'] || text == ['&'] || text == ['*']

/-- The kind of a plain scalar; one line end at the end of its text does not count. -/
def ofText (text : List Char) : Kind :=
  let form := if text.getLast? == some '\n' && text.length != 1 then text.dropLast else text
  if isTruthWord form then .bool
  else if isFloat form then .float
  else if isInt form then .int
  else if form == ['<', '<'] then .merge
  else if isNull form then .null
  else if isTimestamp form then .timestamp
  else if form == ['='] then .standIn
  else if isPropertyMark form then .unknown
  else .text

end Kind
end Yaml
end ApiAccessors
