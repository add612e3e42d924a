import ValueHistory.Time.Timestamp

/-! The calendar counts the days without gap. The date of a day is one that the calendar has, and it
is the date of that day only; so is the calendar time of an instant.
-/

namespace ValueHistory

-----------------------------------------------------------------------------------------
-- Years
-----------------------------------------------------------------------------------------

namespace Calendar

theorem daysBeforeYear_le {early late : Int} (order : early ≤ late)
    : daysBeforeYear early ≤ daysBeforeYear late := by
  unfold daysBeforeYear
  omega

/-- Years of the mean length come close to the day. -/
theorem daysBeforeYear_estimate (day : Int)
    : daysBeforeYear (400 * day / 146097) ≤ day
      ∧ day < daysBeforeYear (400 * day / 146097 + 3) := by
  unfold daysBeforeYear
  omega

/-- A day lies in its year. -/
theorem yearOfDay_holds (day : Int)
    : daysBeforeYear (yearOfDay day) ≤ day ∧ day < daysBeforeYear (yearOfDay day + 1) := by
  obtain ⟨low, high⟩ := daysBeforeYear_estimate day
  simp only [yearOfDay]
  generalize 400 * day / 146097 = guess at low high ⊢
  by_cases early : day < daysBeforeYear (guess + 1)
  · simp only [early, if_true, Int.add_sub_cancel]
    exact ⟨low, trivial⟩
  · by_cases late : daysBeforeYear (guess + 1 + 1) ≤ day
    · simp only [early, late, if_true, if_false]
      exact ⟨trivial, by rwa [show guess + 1 + 1 + 1 = guess + 3 by omega]⟩
    · simp only [early, late, if_false]
      exact ⟨Int.not_lt.mp early, Int.not_le.mp late⟩

theorem yearOfDay_mem {day first beyond : Int} (after : daysBeforeYear first ≤ day)
    (before : day < daysBeforeYear beyond)
    : first ≤ yearOfDay day ∧ yearOfDay day < beyond := by
  obtain ⟨low, high⟩ := yearOfDay_holds day
  constructor
  · rcases Int.lt_or_le (yearOfDay day) first with earlier | fine
    · have := daysBeforeYear_le (show yearOfDay day + 1 ≤ first by omega)
      omega
    · exact fine
  · rcases Int.lt_or_le (yearOfDay day) beyond with fine | later
    · exact fine
    · have := daysBeforeYear_le later
      omega

end Calendar

-----------------------------------------------------------------------------------------
-- Months
-----------------------------------------------------------------------------------------

namespace Date

open Calendar

theorem daysOf_cons (length : Nat) (later : List Nat)
    : daysOf (length :: later) = length + daysOf later := by
  have shift (lengths : List Nat) (start : Nat)
      : lengths.foldl (· + ·) start = start + lengths.foldl (· + ·) 0 := by
    induction lengths generalizing start with
    | nil => rfl
    | cons length later ih =>
        rw [List.foldl_cons, List.foldl_cons, ih (start + length), ih (0 + length)]
        omega
  rw [daysOf, List.foldl_cons, shift, Nat.zero_add]
  rfl

/-- The months of a year fill it. -/
theorem daysOf_monthLengths (year : Int)
    : (daysOf (monthLengths (isLeapYear year)) : Int)
      = daysBeforeYear (year + 1) - daysBeforeYear year := by
  have common : daysOf (monthLengths false) = 365 := by decide
  have leap : daysOf (monthLengths true) = 366 := by decide
  cases kind : isLeapYear year with
  | false =>
      simp only [isLeapYear, Bool.and_eq_false_iff, Bool.or_eq_false_iff, beq_eq_false_iff_ne,
        bne_eq_false_iff_eq, ne_eq] at kind
      rw [common]
      unfold daysBeforeYear
      omega
  | true =>
      simp only [isLeapYear, Bool.and_eq_true, Bool.or_eq_true, beq_iff_eq, bne_iff_ne,
        ne_eq] at kind
      rw [leap]
      unfold daysBeforeYear
      omega

end Date

namespace Calendar

open Date (daysOf daysOf_cons)

/-- The month and the day in it of a day of the year, by induction on the months: the months before
are over, and the month holds the day.
-/
theorem monthAndDay_holds {lengths : List Nat} {day : Nat} (inside : day < daysOf lengths)
    (first : Nat)
    : ∃ before length,
        lengths[before]? = some length
        ∧ monthAndDay lengths first day
          = (first + before, day - daysOf (lengths.take before) + 1)
        ∧ daysOf (lengths.take before) ≤ day
        ∧ day < daysOf (lengths.take before) + length := by
  induction lengths generalizing first day with
  | nil => exact absurd inside (Nat.not_lt_zero day)
  | cons length later ih =>
      rw [daysOf_cons] at inside
      unfold monthAndDay
      split
      · next own => exact ⟨0, length, rfl, rfl, Nat.zero_le day, by simpa [daysOf] using own⟩
      · next beyond =>
          obtain ⟨before, own, found, split, low, high⟩ :=
            ih (show day - length < daysOf later by omega) (first + 1)
          refine ⟨before + 1, own, found, ?_, ?_⟩
          · rw [split, List.take_succ_cons, daysOf_cons]
            congr 1 <;> omega
          · rw [List.take_succ_cons, daysOf_cons]
            omega

end Calendar

-----------------------------------------------------------------------------------------
-- Dates
-----------------------------------------------------------------------------------------

namespace Date

open Calendar

/-- The date of a day: the months before it and the days before it in its month add up to the days
of the year before it.
-/
theorem ofDayNumber_holds (number : Int)
    : ∃ before length,
        (monthLengths (isLeapYear (ofDayNumber number).year))[before]? = some length
        ∧ (ofDayNumber number).month = before + 1
        ∧ 1 ≤ (ofDayNumber number).day
        ∧ (ofDayNumber number).day ≤ length
        ∧ (ofDayNumber number).toDayNumber = number := by
  obtain ⟨low, high⟩ := yearOfDay_holds (number + epochDay)
  have fills := daysOf_monthLengths (yearOfDay (number + epochDay))
  obtain ⟨before, length, found, split, after, inside⟩ :=
    monthAndDay_holds
      (show (number + epochDay - daysBeforeYear (yearOfDay (number + epochDay))).toNat
          < daysOf (monthLengths (isLeapYear (yearOfDay (number + epochDay)))) by omega) 1
  refine ⟨before, length, found, ?_, ?_, ?_, ?_⟩
  all_goals simp only [toDayNumber, ofDayNumber, split]
  · omega
  · omega
  · omega
  · rw [Nat.add_sub_cancel_left]
    omega

theorem toDayNumber_ofDayNumber (number : Int) : (ofDayNumber number).toDayNumber = number :=
  let ⟨_, _, _, _, _, _, same⟩ := ofDayNumber_holds number
  same

theorem exists?_ofDayNumber (number : Int) : (ofDayNumber number).exists? = true := by
  obtain ⟨before, length, found, month, first, last, _⟩ := ofDayNumber_holds number
  simp [exists?, month, found, first, last]

theorem length_le_of_mem_monthLengths {leap : Bool} {length : Nat}
    (member : length ∈ monthLengths leap)
    : length ≤ 31 := by
  cases leap with
  | false => revert length; decide
  | true => revert length; decide

/-- The month and the day of a date have two digits. -/
theorem ofDayNumber_le (number : Int)
    : (ofDayNumber number).month ≤ 12 ∧ (ofDayNumber number).day ≤ 31 := by
  obtain ⟨before, length, found, month, _, last, _⟩ := ofDayNumber_holds number
  obtain ⟨inside, same⟩ := List.getElem?_eq_some_iff.mp found
  have short := length_le_of_mem_monthLengths (List.mem_of_getElem? found)
  have months : (monthLengths (isLeapYear (ofDayNumber number).year)).length = 12 := rfl
  exact ⟨by omega, by omega⟩

end Date

-----------------------------------------------------------------------------------------
-- Calendar time
-----------------------------------------------------------------------------------------

namespace CivilTime

/-- The time of the day of a calendar time. -/
theorem ofNanos_le (nanos : Int)
    : (ofNanos nanos).hour ≤ 23
      ∧ (ofNanos nanos).minute ≤ 59
      ∧ (ofNanos nanos).second ≤ 59
      ∧ (ofNanos nanos).nano < 1000000000 := by
  have day : nanos % nanosPerDay < 86400000000000 := by
    unfold nanosPerDay nanosPerSecond
    omega
  simp only [ofNanos]
  omega

theorem toNanos_ofNanos (nanos : Int) : (ofNanos nanos).toNanos = nanos := by
  simp only [toNanos, ofNanos, Date.toDayNumber_ofDayNumber, nanosPerDay, nanosPerSecond]
  omega

end CivilTime

namespace Timestamp

open Calendar

/-- From 1970 on local time has a year of four digits. -/
theorem year_civil_mem {time : Timestamp} (late : 0 ≤ time.localNanos)
    : 1970 ≤ time.civil.date.year ∧ time.civil.date.year ≤ 9999 := by
  have first : daysBeforeYear 1970 = 719162 := by decide
  have beyond : daysBeforeYear 10000 = 3652059 := by decide
  have range : time.localNanos < 253402300800 * nanosPerSecond := time.inRange.2
  unfold nanosPerSecond at range
  have day
      : daysBeforeYear 1970 ≤ time.localNanos / nanosPerDay + epochDay
        ∧ time.localNanos / nanosPerDay + epochDay < daysBeforeYear 10000 := by
    rw [first, beyond]
    unfold epochDay nanosPerDay nanosPerSecond
    omega
  obtain ⟨low, high⟩ := yearOfDay_mem day.1 day.2
  exact ⟨low, Int.le_of_lt_add_one high⟩

end Timestamp

end ValueHistory
