import ValueHistory.Time.Timestamp

/-! The notation of timestamps in documents, `2024-03-01T10:00:00.5+01:00`. The reader takes any
single ASCII character between date and time, any number of fraction digits of which nine count,
and the second sixty where a leap second can be. The writer needs a year of four digits.
-/

namespace ValueHistory.Rfc3339

open Decimal

-----------------------------------------------------------------------------------------
-- The parts of the notation, each read with the rest after it
-----------------------------------------------------------------------------------------

/-- Reads one given character. -/
def literal? (c : Char) : List Char → Option (List Char)
  | head :: rest => if head = c then some rest else none
  | [] => none

/-- Reads `YYYY-MM-DD`. -/
def date? (text : List Char) : Option (Date × List Char) := do
  let (year, text) ← fixed? 4 text
  let text ← literal? '-' text
  let (month, text) ← fixed? 2 text
  let text ← literal? '-' text
  let (day, text) ← fixed? 2 text
  let date : Date := ⟨year, month, day⟩
  if date.exists? then some (date, text) else none

/-- Reads an optional point with one or more digits after it, as nanoseconds. -/
def fraction? : List Char → Option (Nat × List Char)
  | '.' :: text =>
    match span text with
    | ([], _) => none
    | (row, rest) => some (value ((row ++ List.replicate 9 '0').take 9), rest)
  | text => some (0, text)

/-- Reads `hh:mm` below twenty-four hours, as seconds. -/
def hoursAndMinutes? (text : List Char) : Option (Int × List Char) := do
  let (hours, text) ← fixed? 2 text
  let text ← literal? ':' text
  let (minutes, text) ← fixed? 2 text
  if hours ≤ 23 && minutes ≤ 59 then
    some (((hours * 3600 + minutes * 60 : Nat) : Int), text)
  else none

/-- Reads `Z` or a signed offset in hours and minutes, as seconds. -/
def offset? : List Char → Option (Int × List Char)
  | [] => none
  | sign :: text =>
    if sign = 'Z' || sign = 'z' then some (0, text)
    else if sign = '+' then hoursAndMinutes? text
    else if sign = '-' then (hoursAndMinutes? text).map fun (seconds, rest) => (-seconds, rest)
    else none

-----------------------------------------------------------------------------------------
-- The whole notation
-----------------------------------------------------------------------------------------

/-- Whether a leap second can follow a timestamp: in universal time it is the last second of a
month that lies within the calendar's range.
-/
def endsMonth (time : Timestamp) : Bool :=
  let universal := CivilTime.ofNanos time.nanos
  decide (universal.date.year.natAbs ≤ 9999)
    && universal.hour == 23 && universal.minute == 59 && universal.second == 59
    && universal.date.day == universal.date.monthLength

/-- Reads a text that is one timestamp. The second sixty becomes the last nanosecond before it. -/
def read? (text : List Char) : Option Timestamp := do
  let (date, text) ← date? text
  let (separator, text) ← match text with
    | c :: rest => some (c, rest)
    | [] => none
  let (hour, text) ← fixed? 2 text
  let text ← literal? ':' text
  let (minute, text) ← fixed? 2 text
  let text ← literal? ':' text
  let (second, text) ← fixed? 2 text
  let (nano, text) ← fraction? text
  let (offset, text) ← offset? text
  if separator.toNat < 128 && hour ≤ 23 && minute ≤ 59 && second ≤ 60 && text.isEmpty then
    if second = 60 then
      let time ← Timestamp.ofCivil? ⟨date, hour, minute, 59, 999999999⟩ offset
      if endsMonth time then some time else none
    else Timestamp.ofCivil? ⟨date, hour, minute, second, nano⟩ offset
  else none

/-- Writes a timestamp, if its local year has four digits and its offset is less than a day and
in whole minutes. A zero fraction is left out and a zero offset is `Z`.
-/
def write? (time : Timestamp) : Option (List Char) :=
  let civil := time.civil
  let year := civil.date.year
  if 0 ≤ year && year ≤ 9999 && time.offset.natAbs < 86400 && time.offset.natAbs % 60 = 0 then
    let minutes := time.offset.natAbs / 60
    some
      (padded 4 year.natAbs ++ '-' :: padded 2 civil.date.month
        ++ '-' :: padded 2 civil.date.day ++ 'T' :: padded 2 civil.hour
        ++ ':' :: padded 2 civil.minute ++ ':' :: padded 2 civil.second
        ++ (if civil.nano = 0 then [] else '.' :: Timestamp.fractionDigits civil.nano)
        ++ (if time.offset = 0 then ['Z']
          else (if time.offset < 0 then '-' else '+') :: padded 2 (minutes / 60)
            ++ ':' :: padded 2 (minutes % 60)))
  else none

end ValueHistory.Rfc3339
