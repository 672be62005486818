import ApiAccessors.Text.CaseTable

namespace ApiAccessors
namespace Text

/-!
# Case mapping

Upper and lower case of a text.  A character may become several ones, and a capital sigma has two
lower case forms: the final one where a cased letter stands before it and none stands after it,
with skipped characters looked through on both sides.
-/

namespace CaseRun

/-- The run that a code point belongs to, for runs in increasing order. -/
def find? : List CaseRun → Nat → Option CaseRun
  | [], _ => none
  | run :: rest, code =>
      if code < run.first then none
      else if code ≤ run.last then
        if (code - run.first) % run.step = 0 then some run else none
      else find? rest code

/-- The counterpart of a code point of the run. -/
def apply (run : CaseRun) (code : Nat) : Char :=
  Char.ofNat (code + run.shift).toNat

end CaseRun

/-- The characters that a code point expands to, for entries in increasing order. -/
def expansion? : List (Nat × List Nat) → Nat → Option (List Char)
  | [], _ => none
  | (first, codes) :: rest, code =>
      if code < first then none
      else if code = first then some (codes.map Char.ofNat)
      else expansion? rest code

/-- One character in the case that the two tables describe. -/
def mapCase (runs : List CaseRun) (expansions : List (Nat × List Nat)) (c : Char) : List Char :=
  match CaseRun.find? runs c.toNat with
  | some run => [run.apply c.toNat]
  | none => (expansion? expansions c.toNat).getD [c]

def upperOf (c : Char) : List Char := mapCase upperRuns upperExpansions c

/-- The lower case form of one character on its own. -/
def lowerOf (c : Char) : List Char := mapCase lowerRuns lowerExpansions c

def upper (text : List Char) : List Char := text.flatMap upperOf

/-- Whether a cased letter comes next once skipped characters are looked through. -/
def casedNext : List Char → Bool
  | [] => false
  | c :: rest => if caseIgnorableTable.has c then casedNext rest else casedTable.has c

/-- Lower case of a text, knowing whether a cased letter stands before it. -/
def lowerAfter (cased : Bool) : List Char → List Char
  | [] => []
  | c :: rest =>
      let seen := if caseIgnorableTable.has c then cased else casedTable.has c
      if c = 'Σ' then
        (if cased && !casedNext rest then 'ς' else 'σ') :: lowerAfter seen rest
      else lowerOf c ++ lowerAfter seen rest

def lower (text : List Char) : List Char := lowerAfter false text

end Text
end ApiAccessors
