import ApiAccessors.Text.Split

namespace ApiAccessors
namespace Text

/-!
# Punycode

Any text, written with letters, digits and hyphens.  The plain characters of the text come first, in
their order, and a hyphen behind them if there are any.  Then follow numbers, one for each other
character, in the order of their codes: how many steps lead to it from the one before.  A step goes
to the next place in the text so far, and from the last place to the first one for the next code.

A number is written with digits to the base 36, the lowest first.  It ends with the first digit
below a threshold; the thresholds are low where the numbers so far were small.
-/

namespace Punycode

/-- Characters with lower codes are plain. -/
def firstCode : Nat := 0x80

def isPlain (c : Char) : Bool := c.toNat < firstCode

/-- The digit with a value below 36. -/
def digit (value : Nat) : Char :=
  if value < 26 then Char.ofNat ('a'.toNat + value) else Char.ofNat ('0'.toNat + (value - 26))

def digitValue? (c : Char) : Option Nat :=
  if c.isLower then some (c.toNat - 'a'.toNat)
  else if c.isUpper then some (c.toNat - 'A'.toNat)
  else if c.isDigit then some (c.toNat - '0'.toNat + 26)
  else none

def firstBias : Nat := 72

/-- The threshold of a digit; `place` is 36 for the lowest digit and grows by 36. -/
def threshold (bias place : Nat) : Nat := min 26 (max 1 (place - bias))

theorem threshold_pos (bias place : Nat) : 1 ≤ threshold bias place := by
  unfold threshold
  omega

/-- Divide a number until it is small, and count the places that this takes off it. -/
def shrink (places number : Nat) : Nat × Nat :=
  if 455 < number then shrink (places + 36) (number / 35) else (places, number)
termination_by number
decreasing_by exact Nat.div_lt_self (by omega) (by omega)

/-- The bias behind a number, when there are `count` characters with the new one. -/
def adapt (isFirst : Bool) (number count : Nat) : Nat :=
  let part := if isFirst then number / 700 else number / 2
  let (places, rest) := shrink 0 (part + part / count)
  places + 36 * rest / (rest + 38)

/-- The digits of a number from a place on. -/
def writeNumber (bias place number : Nat) : List Char :=
  let least := threshold bias place
  if number < least then [digit number]
  else
    digit (least + (number - least) % (36 - least)) ::
      writeNumber bias (place + 36) ((number - least) / (36 - least))
termination_by number
decreasing_by
  have positive := threshold_pos bias place
  exact Nat.lt_of_le_of_lt (Nat.div_le_self _ _) (by omega)

/-- What has been written: the steps since the last number, and the digits of all numbers. -/
structure Written where
  count : Nat
  steps : Nat
  bias : Nat
  digits : List Char

/-- Go past a character on the way to the characters with a code. -/
def pass (plainCount code : Nat) (written : Written) (c : Char) : Written :=
  if c.toNat < code then { written with steps := written.steps + 1 }
  else if c.toNat = code then
    { count := written.count + 1
      steps := 0
      bias := adapt (written.count == plainCount) written.steps (written.count + 1)
      digits := written.digits ++ writeNumber written.bias 36 written.steps }
  else written

/-- Write the characters with the given codes, which increase and are not below `code`. -/
def writeCodes (text : List Char) (plainCount code : Nat) : List Nat → Written → Written
  | [], written => written
  | next :: others, written =>
      let steps := written.steps + (next - code) * (written.count + 1)
      let passed := text.foldl (pass plainCount next) { written with steps }
      writeCodes text plainCount (next + 1) others { passed with steps := passed.steps + 1 }

def encode (text : List Char) : List Char :=
  let plain := text.filter isPlain
  let codes := ((text.filter (!isPlain ·)).map Char.toNat).mergeSort.eraseDups
  let written := writeCodes text plain.length firstCode codes ⟨plain.length, 0, firstBias, []⟩
  plain ++ (if plain.isEmpty then [] else ['-']) ++ written.digits

/-- The number that begins here, from a place on where a digit has a weight, and the rest. -/
def readNumber (bias place weight : Nat) : List Char → Option (Nat × List Char)
  | [] => none
  | c :: rest =>
      match digitValue? c with
      | none => none
      | some value =>
          let least := threshold bias place
          if value < least then some (value * weight, rest)
          else
            (readNumber bias (place + 36) (weight * (36 - least)) rest).map
              (fun (number, rest) => (value * weight + number, rest))

theorem readNumber_length {bias place weight number : Nat} {text rest : List Char}
    (found : readNumber bias place weight text = some (number, rest)) :
    rest.length < text.length := by
  induction text generalizing place weight number rest with
  | nil => simp [readNumber] at found
  | cons c others ih =>
      simp only [readNumber] at found
      split at found
      · simp at found
      · split at found
        · simp only [Option.some.injEq, Prod.mk.injEq] at found
          simp [found.2]
        · obtain ⟨⟨inner, last⟩, read, equal⟩ := Option.map_eq_some_iff.mp found
          simp only [Prod.mk.injEq] at equal
          have shorter := ih read
          rw [equal.2] at shorter
          exact Nat.lt_succ_of_lt shorter

/-- The character with a code, if there is one. -/
def codeChar? (code : Nat) : Option Char :=
  if code.isValidChar then some (Char.ofNat code) else none

/--
Put the characters of the numbers that are still to come into the text so far.  `code` and `place`
say where the next step leads.
-/
def insertAll (isFirst : Bool) (bias code place : Nat) (text digits : List Char) :
    Option (List Char) :=
  if digits.isEmpty then some text
  else
    match _ : readNumber bias 36 1 digits with
    | none => none
    | some (number, rest) =>
        let count := text.length + 1
        let code := code + (place + number) / count
        let place := (place + number) % count
        match codeChar? code with
        | none => none
        | some c =>
            insertAll false (adapt isFirst number count) code (place + 1) (text.insertIdx place c)
              rest
termination_by digits.length
decreasing_by exact readNumber_length (by assumption)

def decode? (written : List Char) : Option (List Char) :=
  let (plain, digits) :=
    if written.contains '-' then
      let digits := afterLast '-' written
      (written.take (written.length - digits.length - 1), digits)
    else ([], written)
  if plain.all isPlain then insertAll true firstBias firstCode 0 plain digits else none

end Punycode
end Text
end ApiAccessors
