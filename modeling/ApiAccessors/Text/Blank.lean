import ApiAccessors.Text.Intervals

namespace ApiAccessors
namespace Text

/-!
# Blank characters

White space in the wide sense: the separators of every script, the line breaks and four of the
information separators among the controls.  Trimming removes it from both ends of a text.
-/

/-- The separators and the white space controls. -/
def blankTable : Intervals := ⟨[
  (0x9, 0xD), (0x1C, 0x20), (0x85, 0x85), (0xA0, 0xA0), (0x1680, 0x1680), (0x2000, 0x200A),
  (0x2028, 0x2029), (0x202F, 0x202F), (0x205F, 0x205F), (0x3000, 0x3000)]⟩

/-- Whether a character is white space. -/
def isBlank (c : Char) : Bool := blankTable.has c

/-- Drop the last characters as long as they satisfy the test. -/
def dropEndWhile (test : Char → Bool) (text : List Char) : List Char :=
  (text.reverse.dropWhile test).reverse

/-- Remove white space from both ends. -/
def trim (text : List Char) : List Char :=
  dropEndWhile isBlank (text.dropWhile isBlank)

/-- Replace every run of white space by one dash. -/
def dashBlanks : List Char → List Char
  | [] => []
  | c :: rest =>
      if isBlank c then
        match rest with
        | [] => ['-']
        | next :: _ => if isBlank next then dashBlanks rest else '-' :: dashBlanks rest
      else c :: dashBlanks rest

end Text
end ApiAccessors
