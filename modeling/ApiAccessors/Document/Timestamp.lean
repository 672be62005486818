import ApiAccessors.Document.Value
import ApiAccessors.Json.Reader

namespace ApiAccessors

/-!
# Written timestamps

A day as year, month and day with dashes, on its own or followed by a time of day.  Month, day and
hour may have one digit.  The time may have a fraction of a second, of which six digits count, and
a distance from universal time.
-/

namespace Timestamp

/-- A timestamp as it is written; its numbers need not make a day or a time that exists. -/
structure Written where
  date : Date
  /-- Hour, minute, second and millionths of a second, and the distance from universal time. -/
  time : Option (Nat × Nat × Nat × Nat × Option Int)

/-- Between `least` and `most` digits, as many as there are. -/
def digits? (least most : Nat) (text : List Char) : Option (Nat × List Char) :=
  let digits := (text.take most).takeWhile Text.isAsciiDigit
  if digits.length < least then none
  else some (Json.digitsValue digits, text.drop digits.length)

/-- The text behind a mark. -/
def behind? (mark : Char) : List Char → Option (List Char)
  | [] => none
  | c :: rest => if c = mark then some rest else none

def isGap (c : Char) : Bool := c == ' ' || c == '\t'

/-- What separates the time from the day. -/
def separator? : List Char → Option (List Char)
  | [] => none
  | c :: rest =>
      if c = 'T' || c = 't' then some rest
      else if isGap c then some (rest.dropWhile isGap)
      else none

/-- The millionths that the first six digits of a fraction make. -/
def millionths (digits : List Char) : Nat :=
  let taken := digits.take 6
  Json.digitsValue taken * Nat.pow 10 (6 - taken.length)

/-- The distance from universal time, in seconds, up to the end of the text. -/
def offset? (text : List Char) : Option (Option Int) :=
  if text.isEmpty then some none
  else
    match text.dropWhile isGap with
    | ['Z'] => some (some 0)
    | sign :: rest => do
        let () ← if sign = '+' || sign = '-' then some () else none
        let (hours, behind) ← digits? 1 2 rest
        let (minutes, last) ←
          match behind with
          | ':' :: others => digits? 2 2 others
          | others => some (0, others)
        let () ← if last.isEmpty then some () else none
        let seconds : Int := hours * 3600 + minutes * 60
        pure (some (if sign = '-' then -seconds else seconds))
    | [] => none

/-- The time behind its separator. -/
def time? (text : List Char) : Option (Nat × Nat × Nat × Nat × Option Int) := do
  let (hour, text) ← digits? 1 2 text
  let (minute, text) ← digits? 2 2 (← behind? ':' text)
  let (second, text) ← digits? 2 2 (← behind? ':' text)
  let (fraction, last) :=
    match text with
    | '.' :: rest => (rest.takeWhile Text.isAsciiDigit, rest.dropWhile Text.isAsciiDigit)
    | _ => ([], text)
  let offset ← offset? last
  pure (hour, minute, second, millionths fraction, offset)

/-- A timestamp with nothing around it. -/
def written? (text : List Char) : Option Written := do
  let (year, text) ← digits? 4 4 text
  let (month, text) ← digits? 1 2 (← behind? '-' text)
  let (day, text) ← digits? 1 2 (← behind? '-' text)
  if text.isEmpty then pure ⟨⟨year, month, day⟩, none⟩
  else do
    let time ← time? (← separator? text)
    pure ⟨⟨year, month, day⟩, some time⟩

/-- The date or moment that a timestamp stands for, if there is one. -/
def value? (written : Written) : Option Value :=
  match written.time with
  | none => if written.date.isValid then some (.date written.date) else none
  | some (hour, minute, second, microsecond, offset) =>
      let moment : Moment := ⟨written.date, hour, minute, second, microsecond, offset⟩
      if moment.isValid then some (.moment moment) else none

end Timestamp
end ApiAccessors
