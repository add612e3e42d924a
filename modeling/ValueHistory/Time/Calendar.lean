/-! The Gregorian calendar, extended without end in both directions and with a year zero, and
its count of days from the first of January 1970.
-/

namespace ValueHistory

/-- A day of the calendar. -/
structure Date where
  year : Int
  month : Nat
  day : Nat
deriving DecidableEq, Repr

namespace Calendar

/-- Every fourth year is a leap year, of the full centuries only every fourth. -/
def isLeapYear (year : Int) : Bool :=
  year % 4 == 0 && (year % 100 != 0 || year % 400 == 0)

/-- The lengths of the twelve months of a common or a leap year. -/
def monthLengths (leap : Bool) : List Nat :=
  [31, if leap then 29 else 28, 31, 30, 31, 30, 31, 31, 30, 31, 30, 31]

/-- The days from the first day of year one to the first day of the given year. -/
def daysBeforeYear (year : Int) : Int :=
  365 * (year - 1) + (year - 1) / 4 - (year - 1) / 100 + (year - 1) / 400

/-- The days from the first day of year one to the first of January 1970. -/
def epochDay : Int := 719162

/-- The year that holds a day counted from the first day of year one. The mean length of a year
gives it up to one.
-/
def yearOfDay (day : Int) : Int :=
  let guess := 400 * day / 146097 + 1
  if day < daysBeforeYear guess then guess - 1
  else if daysBeforeYear (guess + 1) ≤ day then guess + 1
  else guess

/-- Splits a day of the year, counted from zero, into the month and its day, both counted from
one, given the lengths of the months still to come and the number of the first of them.
-/
def monthAndDay : List Nat → Nat → Nat → Nat × Nat
  | [], month, day => (month, day + 1)
  | length :: later, month, day =>
    if day < length then (month, day + 1) else monthAndDay later (month + 1) (day - length)

end Calendar

namespace Date

open Calendar

/-- The days of months in a row. -/
def daysOf (lengths : List Nat) : Nat :=
  lengths.foldl (· + ·) 0

/-- Whether the calendar has this day. -/
def exists? (date : Date) : Bool :=
  match date.month with
  | 0 => false
  | before + 1 =>
    match (monthLengths (isLeapYear date.year))[before]? with
    | none => false
    | some length => 1 ≤ date.day && date.day ≤ length

/-- The number of the last day of the date's month. -/
def monthLength (date : Date) : Nat :=
  (monthLengths (isLeapYear date.year)).getD (date.month - 1) 0

/-- The number of days from the first of January 1970. -/
def toDayNumber (date : Date) : Int :=
  daysBeforeYear date.year
    + daysOf ((monthLengths (isLeapYear date.year)).take (date.month - 1))
    + date.day - 1 - epochDay

/-- The date of a number of days from the first of January 1970. -/
def ofDayNumber (number : Int) : Date :=
  let day := number + epochDay
  let year := yearOfDay day
  let split := monthAndDay (monthLengths (isLeapYear year)) 1 (day - daysBeforeYear year).toNat
  { year, month := split.1, day := split.2 }

end Date

end ValueHistory
