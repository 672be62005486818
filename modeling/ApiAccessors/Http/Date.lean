import ApiAccessors.Document.Calendar
import ApiAccessors.Fault
import ApiAccessors.Text.Numeral

namespace ApiAccessors
namespace HttpDate

/-!
# Dates in headers

A moment as headers write it: a weekday, then day, month and year with blanks or hyphens between
them, a time of day, and a zone.  All but the day itself may be missing.  A moment becomes the
seconds from the beginning of 1970 to it.
-/

/-- The months by the beginnings of their names. -/
def months : List String :=
  ["jan", "feb", "mar", "apr", "may", "jun", "jul", "aug", "sep", "oct", "nov", "dec"]

def monthByName? (name : List Char) : Option Nat :=
  (months.idxOf? (String.ofList (name.map Char.toLower))).map (· + 1)

/-- The number of a month by its name or its number. -/
def month? (name : List Char) : Option Nat :=
  match monthByName? name with
  | some month => some month
  | none =>
      match Text.readInteger? 10 name with
      | some number => if 1 ≤ number && number ≤ 12 then some number.toNat else none
      | none => none

/-- A day with a time, which need not exist in the calendar. -/
structure Written where
  year : Nat
  month : Nat
  day : Nat
  hour : Nat
  minute : Nat
  second : Nat

namespace Written

/-- The first day that is counted. -/
def start : Date := ⟨1970, 1, 1⟩

/-- The seconds to a moment of universal time, if its numbers are in their ranges. -/
def seconds? (written : Written) : Option Int :=
  if start.year ≤ written.year && 1 ≤ written.month && written.month ≤ 12 &&
      1 ≤ written.day && written.day ≤ 31 && written.hour ≤ 24 && written.minute ≤ 59 &&
      written.second ≤ 61 then
    let days := Date.daysBefore ⟨written.year, written.month, 1⟩ - start.daysBefore +
      (written.day - 1)
    let clock := written.hour * 3600 + written.minute * 60 + written.second
    some (days * Moment.daySeconds + clock : Nat)
  else none

end Written

def isDigit (c : Char) : Bool := Text.isAsciiDigit c

def number (digits : List Char) : Nat :=
  digits.foldl (fun number c => number * 10 + (c.toNat - '0'.toNat)) 0

/-- Whether a text is a capital among the given ones with two small letters behind it. -/
def isAbbreviation (capitals : List Char) : List Char → Bool
  | [first, second, third] => capitals.contains first && second.isLower && third.isLower
  | _ => false

/--
A date whose parts have fixed widths, as numbers and the name of its month; nothing if the text has
another form.
-/
def fixed? (text : List Char) : Option (List Char × Written) :=
  match text with
  | [w1, w2, w3, ',', ' ', d1, d2, ' ', m1, m2, m3, ' ', y1, y2, y3, y4, ' ',
      h1, h2, ':', n1, n2, ':', s1, s2, ' ', 'G', 'M', 'T'] =>
      if isAbbreviation "SMTWF".toList [w1, w2, w3] &&
          isAbbreviation "JFMASOND".toList [m1, m2, m3] &&
          [d1, d2, y1, y2, y3, y4, h1, h2, n1, n2, s1, s2].all isDigit then
        some ([m1, m2, m3], ⟨number [y1, y2, y3, y4], 0, number [d1, d2], number [h1, h2],
          number [n1, n2], number [s1, s2]⟩)
      else none
  | _ => none

def isSpace (c : Char) : Bool := c == ' ' || ('\t' ≤ c && c ≤ '\r')

def isWordChar (c : Char) : Bool := c.isAlphanum || c == '_'

def weekdays : List String := ["sun", "mon", "tue", "wed", "thu", "fri", "sat"]

/-- A text without the weekday that it begins with. -/
def dropWeekday (text : List Char) : List Char :=
  if weekdays.contains (String.ofList ((text.take 3).map Char.toLower)) then
    let behind := text.dropWhile Char.isAlpha
    let rest :=
      match behind with
      | ',' :: rest => rest
      | _ => behind
    rest.dropWhile isSpace
  else text

/-- A number of at least one and at most so many digits. -/
def digits? (most : Nat) (text : List Char) : Option (Nat × List Char) :=
  let digits := (text.takeWhile isDigit).take most
  if digits.isEmpty then none else some (number digits, text.drop digits.length)

def twoDigits? : List Char → Option (Nat × List Char)
  | c :: d :: rest => if isDigit c && isDigit d then some (number [c, d], rest) else none
  | _ => none

/-- What is behind blanks, or behind a hyphen or a slash. -/
def separated? (text : List Char) : Option (List Char) :=
  match text with
  | '-' :: rest => some rest
  | '/' :: rest => some rest
  | c :: rest => if isSpace c then some (rest.dropWhile isSpace) else none
  | [] => none

/-- A time of day behind blanks or a colon: hours, minutes and perhaps seconds. -/
def clock? (text : List Char) : Option ((Nat × Nat × Nat) × List Char) := do
  let behind ←
    match text with
    | ':' :: rest => some rest
    | c :: rest => if isSpace c then some (rest.dropWhile isSpace) else none
    | [] => none
  let (hour, behind) ← digits? 2 behind
  match behind with
  | ':' :: rest =>
      let (minute, behind) ← twoDigits? rest
      match behind with
      | ':' :: rest =>
          match twoDigits? rest with
          | some (second, last) => some ((hour, minute, second), last)
          | none => some ((hour, minute, 0), behind)
      | _ => some ((hour, minute, 0), behind)
  | _ => none

def beginsHalfDay : List Char → Bool
  | half :: m :: rest =>
      "APap".toList.contains half && "Mm".toList.contains m &&
        !((rest.head?.map isWordChar).getD false)
  | _ => false

/-- A zone, as letters or as a distance in digits. -/
def zone? (text : List Char) : Option (List Char × List Char) :=
  let sign := (text.take 1).filter (fun c => c == '+' || c == '-')
  let unsigned := text.drop sign.length
  let digits := (unsigned.takeWhile isDigit).take 4
  if 2 ≤ digits.length then some (sign ++ digits, unsigned.drop digits.length)
  else
    let letters := text.takeWhile Char.isAlpha
    if letters.isEmpty || beginsHalfDay text then none
    else some (letters, text.drop letters.length)

/-- A text without the words in brackets that it begins with. -/
def dropBrackets (text : List Char) : List Char :=
  match text with
  | '(' :: rest =>
      let word := rest.takeWhile isWordChar
      match rest.drop word.length with
      | ')' :: behind => if word.isEmpty then text else behind.dropWhile isSpace
      | _ => text
  | _ => text

/-- The names of universal time. -/
def universalZones : List String := ["GMT", "UTC", "UT", "Z"]

/-- The distance of a zone from universal time in seconds. -/
def zoneOffset? (zone : List Char) : Option Int :=
  if universalZones.contains (String.ofList (zone.map Char.toUpper)) then some 0
  else
    let negative := zone.head? == some '-'
    let digits := zone.filter isDigit
    let hours := if digits.length ≤ 2 then digits else digits.take (digits.length - 2)
    let minutes := digits.drop hours.length
    if digits.isEmpty then none
    else
      let seconds : Int := number hours * 3600 + number minutes * 60
      some (if negative then -seconds else seconds)

/-- Years with less than four digits are near the present one. -/
def fullYear (present year : Nat) : Nat :=
  if year < 1000 then
    let nearby := year + present - present % 100
    let ahead : Int := (present % 100 : Nat) - (year : Int)
    if ahead.natAbs ≤ 50 then nearby else if 0 < ahead then nearby + 100 else nearby - 100
  else year

def lastYear : Nat := 9999

/-- The seconds to a moment that is written in some other form. -/
def loose? (present : Nat) (text : List Char) : Option Int := do
  let (day, behind) ← digits? 2 (dropWeekday (text.dropWhile isSpace))
  let behind ← separated? behind
  let name := behind.takeWhile isWordChar
  let behind ← separated? (behind.drop name.length)
  let (year, behind) ← digits? behind.length behind
  let ((hour, minute, second), behind) := (clock? behind).getD ((0, 0, 0), behind)
  let behind := behind.dropWhile isSpace
  let (zone, behind) := (zone? behind).getD ("UTC".toList, behind)
  if !(dropBrackets (behind.dropWhile isSpace)).isEmpty then none
  if lastYear < year then none
  let month ← month? name
  let seconds ← Written.seconds? ⟨fullYear present year, month, day, hour, minute, second⟩
  let offset ← zoneOffset? zone
  pure (seconds - offset)

/--
The seconds to a moment, or nothing if the text stands for none.  In the fixed form the month must
be known.
-/
def read (present : Nat) (text : List Char) : Except Fault (Option Int) :=
  match fixed? text with
  | some (name, written) =>
      match monthByName? name with
      | some month => .ok (Written.seconds? { written with month })
      | none => .error .badValue
  | none => .ok (loose? present text)

end HttpDate
end ApiAccessors
