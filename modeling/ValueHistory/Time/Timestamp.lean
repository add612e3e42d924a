import ValueHistory.Text.Decimal
import ValueHistory.Time.Calendar

/-! Points in time with the offset from universal time in which they are written. The local
calendar time of a timestamp lies in the years -9999 to 9999, and its offset within 26 hours.
-/

namespace ValueHistory

/-- Nanoseconds in one second. -/
def nanosPerSecond : Int := 1000000000

/-- Nanoseconds in one day. -/
def nanosPerDay : Int := 86400 * nanosPerSecond

/-- A point in time, in nanoseconds from the first of January 1970 in universal time, with the
offset of local time in seconds.
-/
structure Timestamp where
  nanos : Int
  offset : Int := 0
  offsetBounded : -93599 ≤ offset ∧ offset ≤ 93599 := by decide
  inRange : -377705116800 * nanosPerSecond ≤ nanos + offset * nanosPerSecond
    ∧ nanos + offset * nanosPerSecond < 253402300800 * nanosPerSecond
deriving DecidableEq

/-- Calendar time: a date and the time of the day. -/
structure CivilTime where
  date : Date
  hour : Nat
  minute : Nat
  second : Nat
  nano : Nat
deriving DecidableEq, Repr

namespace CivilTime

/-- The calendar time of a number of nanoseconds from the first of January 1970. -/
def ofNanos (nanos : Int) : CivilTime :=
  let rest := (nanos % nanosPerDay).toNat
  let seconds := rest / 1000000000
  { date := Date.ofDayNumber (nanos / nanosPerDay)
    hour := seconds / 3600
    minute := seconds / 60 % 60
    second := seconds % 60
    nano := rest % 1000000000 }

/-- The number of nanoseconds from the first of January 1970. -/
def toNanos (time : CivilTime) : Int :=
  time.date.toDayNumber * nanosPerDay
    + (time.hour * 3600 + time.minute * 60 + time.second : Nat) * nanosPerSecond
    + time.nano

end CivilTime

namespace Timestamp

-----------------------------------------------------------------------------------------
-- From the timeline to the calendar and back
-----------------------------------------------------------------------------------------

/-- The timestamp of an instant and an offset, if its local time is in range. -/
def ofNanos? (nanos : Int) (offset : Int) : Option Timestamp :=
  if bounded : -93599 ≤ offset ∧ offset ≤ 93599 then
    if inRange : -377705116800 * nanosPerSecond ≤ nanos + offset * nanosPerSecond
        ∧ nanos + offset * nanosPerSecond < 253402300800 * nanosPerSecond then
      some ⟨nanos, offset, bounded, inRange⟩
    else none
  else none

/-- The first of January 1970 in universal time. -/
def epoch : Timestamp := ⟨0, 0, by decide, by decide⟩

/-- The timestamp in universal time of a number of milliseconds from 1970. -/
def ofMillis? (millis : Int) : Option Timestamp :=
  ofNanos? (millis * 1000000) 0

/-- The milliseconds from 1970, the fraction cut off toward 1970. -/
def millis (time : Timestamp) : Int :=
  time.nanos.tdiv 1000000

/-- The nanoseconds of local time. -/
def localNanos (time : Timestamp) : Int :=
  time.nanos + time.offset * nanosPerSecond

/-- The local calendar time. -/
def civil (time : Timestamp) : CivilTime :=
  CivilTime.ofNanos time.localNanos

/-- The timestamp of a local calendar time. -/
def ofCivil? (time : CivilTime) (offset : Int) : Option Timestamp :=
  ofNanos? (time.toNanos - offset * nanosPerSecond) offset

/-- The first nanosecond of local time. -/
def minLocal : Int := -377705116800 * nanosPerSecond

/-- The last nanosecond of local time. -/
def maxLocal : Int := 253402300800 * nanosPerSecond - 1

/-- The timestamp a number of seconds later, or earlier for a negative number. Where local time
would leave its range the result is the end of the range.
-/
def addSeconds (time : Timestamp) (seconds : Int) : Timestamp :=
  { nanos :=
      max minLocal (min maxLocal (time.localNanos + seconds * nanosPerSecond))
        - time.offset * nanosPerSecond
    offset := time.offset
    offsetBounded := time.offsetBounded
    inRange := by
      simp only [minLocal, maxLocal, nanosPerSecond]
      omega }

-----------------------------------------------------------------------------------------
-- The text for messages
-----------------------------------------------------------------------------------------

/-- A decimal fraction without trailing zeros, of nine digits at most, and at least one. -/
def fractionDigits (nano : Nat) : List Char :=
  let significant := ((Decimal.padded 9 nano).reverse.dropWhile (· == '0')).reverse
  if significant.isEmpty then ['0'] else significant

/-- An offset with its sign, hours, minutes and seconds, as `+01:00:00`. -/
def offsetText (offset : Int) : List Char :=
  let seconds := offset.natAbs
  (if offset < 0 then '-' else '+') :: Decimal.padded 2 (seconds / 3600)
    ++ ':' :: Decimal.padded 2 (seconds / 60 % 60) ++ ':' :: Decimal.padded 2 (seconds % 60)

/-- A timestamp as messages show it: local date and time and the offset, the year padded to four
digits, the hour not padded, and the fraction always there.
-/
def describe (time : Timestamp) : String :=
  let civil := time.civil
  let year := civil.date.year
  String.ofList
    ((if year < 0 then ['-'] else []) ++ Decimal.padded 4 year.natAbs
      ++ '-' :: Decimal.padded 2 civil.date.month ++ '-' :: Decimal.padded 2 civil.date.day
      ++ ' ' :: Decimal.digits civil.hour ++ ':' :: Decimal.padded 2 civil.minute
      ++ ':' :: Decimal.padded 2 civil.second ++ '.' :: fractionDigits civil.nano
      ++ ' ' :: offsetText time.offset)

end Timestamp

end ValueHistory
