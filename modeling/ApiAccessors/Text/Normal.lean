import ApiAccessors.Text.Case
import ApiAccessors.Text.CompositionTable
import ApiAccessors.Text.FormTable

namespace ApiAccessors
namespace Text

/-!
# Normal forms

Texts that only differ in the shape of their characters have one normal form.  To get there every
character is replaced by those that it stands for, the marks behind a letter are put in order, and a
letter is composed again with the marks that can be written in one character with it.
-/

/-- The syllables begin here, in the order of their parts. -/
def firstSyllable : Nat := 0xAC00

def isSyllable (code : Nat) : Bool := firstSyllable ≤ code && code < firstSyllable + 19 * 21 * 28

/-- The code points of the two or three parts of a syllable. -/
def syllableParts (code : Nat) : List Nat :=
  let index := code - firstSyllable
  let opening := [0x1100 + index / (21 * 28), 0x1161 + index / 28 % 21]
  if index % 28 = 0 then opening else opening ++ [0x11A7 + index % 28]

/-- The syllable that a part makes with another one, or with a syllable of two parts. -/
def syllable? (first second : Nat) : Option Nat :=
  if 0x1100 ≤ first && first < 0x1113 && 0x1161 ≤ second && second < 0x1176 then
    some (firstSyllable + ((first - 0x1100) * 21 + (second - 0x1161)) * 28)
  else if isSyllable first && (first - firstSyllable) % 28 = 0 && 0x11A7 < second &&
      second < 0x11C3 then
    some (first + (second - 0x11A7))
  else none

/-- What a code point stands for, in a table ordered by code points. -/
def formIn? : List (Nat × List (List Nat)) → Nat → Option (List Nat)
  | [], _ => none
  | (first, forms) :: rest, code =>
      if code < first then none
      else
        match forms[code - first]? with
        | some form => some form
        | none => formIn? rest code

/-- The characters that a character stands for. -/
def decomposed (c : Char) : List Char :=
  if isSyllable c.toNat then (syllableParts c.toNat).map Char.ofNat
  else
    match CaseRun.find? formRuns c.toNat with
    | some run => [run.apply c.toNat]
    | none => ((formIn? forms c.toNat).map (·.map Char.ofNat)).getD [c]

/-- How far a mark stands from its letter; all other characters have the rank zero. -/
def rank (c : Char) : Nat :=
  ((markRuns.find? (fun run => run.first ≤ c.toNat && c.toNat ≤ run.last)).map (·.rank)).getD 0

/-- The one character that two characters are composed to. -/
def composed? (first second : Char) : Option Char :=
  match syllable? first.toNat second.toNat with
  | some code => some (Char.ofNat code)
  | none =>
      ((compositions.lookup second.toNat).bind (·.lookup first.toNat)).map Char.ofNat

/-- Put a mark before marks in order; those that stand closer to their letter come first. -/
def insertMark (mark : Char) : List Char → List Char
  | [] => [mark]
  | c :: rest =>
      if rank c != 0 && rank c < rank mark then c :: insertMark mark rest else mark :: c :: rest

def orderMarks : List Char → List Char
  | [] => []
  | c :: rest => if rank c = 0 then c :: orderMarks rest else insertMark c (orderMarks rest)

/--
Compose a letter with what follows.  The marks that could not be composed with it so far are kept in
reverse, with the rank of the last one; only what stands farther from the letter can reach it beyond
them.
-/
def composeFrom (letter : Char) (marks : List Char) (last : Nat) : List Char → List Char
  | [] => letter :: marks.reverse
  | c :: rest =>
      match if marks.isEmpty || last < rank c then composed? letter c else none with
      | some whole => composeFrom whole marks last rest
      | none =>
          if rank c = 0 then letter :: marks.reverse ++ composeFrom c [] 0 rest
          else composeFrom letter (c :: marks) (rank c) rest

/-- Compose every letter with its marks; marks without a letter stay. -/
def compose : List Char → List Char
  | [] => []
  | c :: rest => if rank c = 0 then composeFrom c [] 0 rest else c :: compose rest

def normal (text : List Char) : List Char := compose (orderMarks (text.flatMap decomposed))

end Text
end ApiAccessors
