namespace ApiAccessors

/-!
# Calendar values

Dates and moments as they occur in documents.  A date is a day of the proleptic calendar in the
years 1 to 9999; a moment adds a time of day and, if the document gives one, the distance from
universal time.
-/

def isLeapYear (year : Nat) : Bool :=
  year % 4 == 0 && (year % 100 != 0 || year % 400 == 0)

def daysInMonth (year month : Nat) : Nat :=
  if month = 2 then if isLeapYear year then 29 else 28
  else if month = 4 || month = 6 || month = 9 || month = 11 then 30
  else 31

/-- A day. -/
structure Date where
  year : Nat
  month : Nat
  day : Nat
deriving DecidableEq, Repr

namespace Date

def isValid (date : Date) : Bool :=
  1 ≤ date.year && date.year ≤ 9999 && 1 ≤ date.month && date.month ≤ 12 &&
    1 ≤ date.day && date.day ≤ daysInMonth date.year date.month

end Date

/-- A time of day on a date, with the distance from universal time in seconds if it is known. -/
structure Moment where
  date : Date
  hour : Nat
  minute : Nat
  second : Nat
  microsecond : Nat
  offset : Option Int
deriving DecidableEq, Repr

namespace Moment

/-- Seconds in a day, which no distance from universal time reaches. -/
def daySeconds : Nat := 86400

def isValid (moment : Moment) : Bool :=
  moment.date.isValid && moment.hour < 24 && moment.minute < 60 && moment.second < 60 &&
    moment.microsecond < 1000000 &&
    (match moment.offset with
      | none => true
      | some seconds => seconds.natAbs < daySeconds)

end Moment

/-- How many days of the calendar come before a day. -/
def Date.daysBefore (date : Date) : Nat :=
  let years := date.year - 1
  let months := (List.range (date.month - 1)).map (fun month => daysInMonth date.year (month + 1))
  365 * years + years / 4 - years / 100 + years / 400 + months.foldl (· + ·) 0 + (date.day - 1)

namespace Moment

/-- The time of a moment on its own clock, in microseconds. -/
def clock (moment : Moment) : Nat :=
  let seconds := moment.date.daysBefore * daySeconds + moment.hour * 3600 + moment.minute * 60 +
    moment.second
  seconds * 1000000 + moment.microsecond

/-- The time of a moment on a clock that shows universal time, from which its own is so far off. -/
def universal (moment : Moment) (offset : Int) : Int := moment.clock - offset * 1000000

/--
Whether two moments are the same: the same instant, if both say how far they are from universal
time, and the same time of the same day, if neither does.
-/
def isSame (left right : Moment) : Bool :=
  match left.offset, right.offset with
  | some first, some second => left.universal first == right.universal second
  | none, none => left == right
  | _, _ => false

end Moment

/-- A number with leading zeros up to a width. -/
def padded (width number : Nat) : String :=
  let digits := Nat.toDigits 10 number
  String.ofList (List.replicate (width - digits.length) '0' ++ digits)

/-- Year, month and day with dashes. -/
def Date.text (date : Date) : String :=
  padded 4 date.year ++ "-" ++ padded 2 date.month ++ "-" ++ padded 2 date.day

/-- A distance from universal time, in hours and minutes. -/
def offsetText (seconds : Int) : String :=
  let minutes := seconds.natAbs / 60
  (if seconds < 0 then "-" else "+") ++ padded 2 (minutes / 60) ++ ":" ++ padded 2 (minutes % 60)

/-- Date and time with a space between them; a fraction of a second only if there is one. -/
def Moment.text (moment : Moment) : String :=
  moment.date.text ++ " " ++ padded 2 moment.hour ++ ":" ++ padded 2 moment.minute ++ ":" ++
    padded 2 moment.second ++
    (if moment.microsecond = 0 then "" else "." ++ padded 6 moment.microsecond) ++
    (match moment.offset with
      | none => ""
      | some seconds => offsetText seconds)

end ApiAccessors
