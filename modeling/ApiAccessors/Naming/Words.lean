import ApiAccessors.Text.Blank
import ApiAccessors.Text.Case
import ApiAccessors.Text.Digits
import ApiAccessors.Text.Split

namespace ApiAccessors
namespace Naming

/-!
# Words in names

Names are made of words.  Words are set apart by dashes, underscores and white space, or by the
step from a small letter or digit to a capital.  From the words of one name others are made: with
capitals, with dashes, or with underscores.
-/

def isSmall (c : Char) : Bool := 'a'.toNat ≤ c.toNat && c.toNat ≤ 'z'.toNat

def isCapital (c : Char) : Bool := 'A'.toNat ≤ c.toNat && c.toNat ≤ 'Z'.toNat

/-- Whether a word ends between two characters. -/
def isBoundary (before after : Char) : Bool :=
  (isSmall before || Text.isAsciiDigit before) && isCapital after

/-- Put a mark between all neighbours that satisfy the test. -/
def markBetween (test : Char → Char → Bool) (mark : Char) : List Char → List Char
  | [] => []
  | [c] => [c]
  | before :: after :: rest =>
      if test before after then before :: mark :: markBetween test mark (after :: rest)
      else before :: markBetween test mark (after :: rest)

/-- Put a dash where a word ends without one. -/
def markBoundaries (name : List Char) : List Char := markBetween isBoundary '-' name

def isDelimiter (c : Char) : Bool := c == '-' || c == '_' || Text.isBlank c

def words (name : List Char) : List (List Char) :=
  (Text.splitWhere isDelimiter (markBoundaries name)).filter (fun word => !word.isEmpty)

/-- A word with a capital first letter and small ones behind it. -/
def capitalize : List Char → List Char
  | [] => []
  | first :: rest => Text.upperOf first ++ Text.lower rest

/-- All words capitalized, with nothing between them. -/
def pascalCase (name : String) : String :=
  String.ofList ((words name.toList).flatMap capitalize)

def smallFirst : List Char → List Char
  | [] => []
  | first :: rest => Text.lower [first] ++ rest

/-- All words but the first capitalized. -/
def camelCase (name : String) : String := String.ofList (smallFirst (pascalCase name).toList)

/-- Small letters, with dashes for white space and between words that nothing sets apart. -/
def kebabCase (name : String) : String :=
  String.ofList (Text.lower (Text.dashBlanks (markBoundaries name.toList)))

/-- Put an underscore in front of a capital that begins a word behind other capitals. -/
def markCapitalRuns : List Char → List Char
  | first :: second :: third :: rest =>
      if isCapital first && isCapital second && isSmall third then
        first :: '_' :: markCapitalRuns (second :: third :: rest)
      else first :: markCapitalRuns (second :: third :: rest)
  | short => short

/-- Whether a small word ends between two characters; digits of all scripts count as small. -/
def isStep (before after : Char) : Bool :=
  (isSmall before || Text.isDecimal before) && isCapital after

/-- Small letters, with underscores between words. -/
def snakeCase (name : String) : String :=
  String.ofList (Text.lower (markBetween isStep '_' (markCapitalRuns name.toList)))

end Naming
end ApiAccessors
