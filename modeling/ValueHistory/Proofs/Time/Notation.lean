import ValueHistory.Proofs.Text.Digits
import ValueHistory.Proofs.Time.Calendar
import ValueHistory.Time.Rfc3339

/-! The notation of a timestamp reads back as the timestamp, with its offset and to the nanosecond.
Every timestamp in universal time from 1970 on has a notation.
-/

namespace ValueHistory

-----------------------------------------------------------------------------------------
-- Fractions
-----------------------------------------------------------------------------------------

namespace Timestamp

/-- The digits of a fraction are those of its nanoseconds without the zeros at the end. -/
theorem exists_padded_eq {nano : Nat} (some : nano ≠ 0)
    : fractionDigits nano ≠ []
      ∧ ∃ zeros,
          Decimal.padded 9 nano = fractionDigits nano ++ List.replicate zeros '0' := by
  let row := (Decimal.padded 9 nano).reverse
  let zeros := row.takeWhile (· == '0')
  have parts
      : Decimal.padded 9 nano
        = (row.dropWhile (· == '0')).reverse ++ List.replicate zeros.length '0' := by
    have all : zeros.reverse = List.replicate zeros.length '0' := by
      refine List.eq_replicate_iff.mpr ⟨List.length_reverse, fun c member => ?_⟩
      exact eq_of_beq (List.all_eq_true.mp List.all_takeWhile c (List.mem_reverse.mp member))
    rw [← all, ← List.reverse_append, List.takeWhile_append_dropWhile, List.reverse_reverse]
  have significant : (row.dropWhile (· == '0')).reverse ≠ [] := by
    intro empty
    rw [empty, List.nil_append] at parts
    have same := Decimal.value_padded 9 nano
    rw [parts, Decimal.value_replicate_zero] at same
    exact some same.symm
  have digits : fractionDigits nano = (row.dropWhile (· == '0')).reverse :=
    if_neg fun empty => significant (List.isEmpty_iff.mp empty)
  rw [digits]
  exact ⟨significant, zeros.length, parts⟩

end Timestamp

namespace Rfc3339

open Decimal

/-- The notation of a fraction, which a zero has not. -/
def fractionNotation (nano : Nat) : List Char :=
  if nano = 0 then [] else '.' :: Timestamp.fractionDigits nano

theorem fraction?_fractionNotation {nano : Nat} (small : nano < 10 ^ 9) {text : List Char}
    (ends : Ends text) (point : text.head? ≠ some '.')
    : fraction? (fractionNotation nano ++ text) = some (nano, text) := by
  unfold fractionNotation
  split
  · next zero =>
      subst zero
      unfold fraction?
      split
      · next equal => exact absurd (congrArg List.head? equal) point
      · rfl
  · next positive =>
      obtain ⟨significant, zeros, parts⟩ := Timestamp.exists_padded_eq positive
      have digits : ∀ c ∈ Timestamp.fractionDigits nano, c.isDigit = true := by
        intro c member
        exact isDigit_of_mem_padded (parts ▸ List.mem_append_left _ member)
      have length : (Timestamp.fractionDigits nano).length + zeros = 9 := by
        simpa using (congrArg List.length parts).symm.trans (length_padded (by decide) small)
      have filled
          : (Timestamp.fractionDigits nano ++ List.replicate 9 '0').take 9 = padded 9 nano := by
        have zeroes : min (9 - (Timestamp.fractionDigits nano).length) 9 = zeros := by omega
        rw [parts, List.take_append, List.take_of_length_le (by omega), List.take_replicate, zeroes]
      simp only [List.cons_append, fraction?, span_append _ ends, span_of_digits digits,
        List.nil_append]
      rw [filled, value_padded]

-----------------------------------------------------------------------------------------
-- Offsets
-----------------------------------------------------------------------------------------

/-- The notation of an offset. -/
def offsetNotation (offset : Int) : List Char :=
  if offset = 0 then ['Z']
  else (if offset < 0 then '-' else '+') :: padded 2 (offset.natAbs / 60 / 60)
    ++ ':' :: padded 2 (offset.natAbs / 60 % 60)

theorem hoursAndMinutes?_padded {minutes : Nat} (small : minutes < 1440)
    : hoursAndMinutes? (padded 2 (minutes / 60) ++ ':' :: padded 2 (minutes % 60))
      = some (((60 * minutes : Nat) : Int), []) := by
  have read := fixed?_padded (show 0 < 2 by decide) (show minutes % 60 < 10 ^ 2 by omega) []
  rw [List.append_nil] at read
  have hours : minutes / 60 ≤ 23 := by omega
  have rest : minutes % 60 ≤ 59 := by omega
  have seconds : minutes / 60 * 3600 + minutes % 60 * 60 = 60 * minutes := by omega
  simp only [hoursAndMinutes?, Option.bind_eq_bind, Option.bind_some, literal?, if_true, read,
    fixed?_padded (show 0 < 2 by decide) (show minutes / 60 < 10 ^ 2 by omega), hours, rest,
    decide_true, Bool.and_self, seconds]

theorem offset?_offsetNotation {offset : Int} (small : offset.natAbs < 86400)
    (whole : offset.natAbs % 60 = 0)
    : offset? (offsetNotation offset) = some (offset, []) := by
  have read := hoursAndMinutes?_padded (show offset.natAbs / 60 < 1440 by omega)
  rw [Nat.mul_div_cancel' (Nat.dvd_of_mod_eq_zero whole)] at read
  unfold offsetNotation
  split
  · next zero =>
      subst zero
      rfl
  · split
    · next negative =>
        have same : -(offset.natAbs : Int) = offset := by omega
        rw [List.cons_append, offset?, if_neg (by decide), if_neg (by decide), if_pos rfl, read,
          Option.map_some]
        exact congrArg (fun seconds => some (seconds, [])) same
    · next positive =>
        have same : (offset.natAbs : Int) = offset := by omega
        rw [List.cons_append, offset?, if_neg (by decide), if_pos rfl, read, same]

-----------------------------------------------------------------------------------------
-- Timestamps
-----------------------------------------------------------------------------------------

/-- The notation of a date in a year of four digits. -/
def dateNotation (date : Date) : List Char :=
  padded 4 date.year.natAbs ++ '-' :: padded 2 date.month ++ '-' :: padded 2 date.day

theorem date?_dateNotation {date : Date} (known : date.exists? = true) (low : 0 ≤ date.year)
    (high : date.year ≤ 9999) (month : date.month ≤ 12) (day : date.day ≤ 31)
    (rest : List Char)
    : date? (dateNotation date ++ rest) = some (date, rest) := by
  have year := fixed?_padded (show 0 < 4 by decide) (show date.year.natAbs < 10 ^ 4 by omega)
  have monthToo := fixed?_padded (show 0 < 2 by decide) (show date.month < 10 ^ 2 by omega)
  have dayToo := fixed?_padded (show 0 < 2 by decide) (show date.day < 10 ^ 2 by omega)
  have same : (⟨date.year.natAbs, date.month, date.day⟩ : Date) = date := by
    rw [Int.natAbs_of_nonneg low]
  simp only [dateNotation, date?, List.append_assoc, List.cons_append, Option.bind_eq_bind,
    year, Option.bind_some, literal?, if_true, monthToo, dayToo, same, known]

/-- A timestamp that has a notation: its local year has four digits, and its offset is less than a
day and in whole minutes.
-/
structure HasNotation (time : Timestamp) : Prop where
  low : 0 ≤ time.civil.date.year
  high : time.civil.date.year ≤ 9999
  small : time.offset.natAbs < 86400
  whole : time.offset.natAbs % 60 = 0

/-- The notation of a timestamp. -/
def fullNotation (time : Timestamp) : List Char :=
  dateNotation time.civil.date ++ 'T' :: padded 2 time.civil.hour
    ++ ':' :: padded 2 time.civil.minute ++ ':' :: padded 2 time.civil.second
    ++ fractionNotation time.civil.nano ++ offsetNotation time.offset

theorem write?_of_hasNotation {time : Timestamp} (has : HasNotation time)
    : write? time = some (fullNotation time) := by
  simp only [write?, has.low, has.high, has.small, has.whole, decide_true, Bool.and_self,
    if_true]
  rfl

theorem hasNotation_of_write? {time : Timestamp} {text : List Char}
    (written : write? time = some text)
    : HasNotation time := by
  obtain ⟨conditions, _⟩ := Option.ite_none_right_eq_some.mp written
  simp only [Bool.and_eq_true, decide_eq_true_eq] at conditions
  obtain ⟨⟨⟨low, high⟩, small⟩, whole⟩ := conditions
  exact ⟨low, high, small, whole⟩

theorem ofCivil?_civil (time : Timestamp)
    : Timestamp.ofCivil? time.civil time.offset = some time := by
  have instant : time.localNanos - time.offset * nanosPerSecond = time.nanos :=
    Int.add_sub_cancel _ _
  rw [Timestamp.ofCivil?, Timestamp.civil, CivilTime.toNanos_ofNanos, instant,
    Timestamp.ofNanos?, dif_pos time.offsetBounded, dif_pos time.inRange]

theorem ends_offsetNotation (offset : Int) : Ends (offsetNotation offset) := by
  unfold offsetNotation
  split
  · exact ends_cons (by decide) _
  · split <;> exact ends_cons (by decide) _

theorem head?_offsetNotation_ne (offset : Int)
    : (offsetNotation offset).head? ≠ some '.' := by
  unfold offsetNotation
  split
  · simp
  · split <;> simp

/-- The notation of a timestamp reads back as the timestamp. -/
theorem read?_of_write? {time : Timestamp} {text : List Char}
    (written : write? time = some text)
    : read? text = some time := by
  have has := hasNotation_of_write? written
  obtain rfl := Option.some.inj (written.symm.trans (write?_of_hasNotation has))
  have known : time.civil.date.exists? = true := Date.exists?_ofDayNumber _
  obtain ⟨month, day⟩
      : time.civil.date.month ≤ 12 ∧ time.civil.date.day ≤ 31 :=
    Date.ofDayNumber_le (time.localNanos / nanosPerDay)
  obtain ⟨hour, minute, second, nano⟩
      : time.civil.hour ≤ 23
        ∧ time.civil.minute ≤ 59
        ∧ time.civil.second ≤ 59
        ∧ time.civil.nano < 1000000000 :=
    CivilTime.ofNanos_le time.localNanos
  have inRange
      : ('T'.toNat < 128 && time.civil.hour ≤ 23 && time.civil.minute ≤ 59
          && time.civil.second ≤ 60 && ([] : List Char).isEmpty) = true := by
    simp only [Bool.and_eq_true, decide_eq_true_eq]
    exact ⟨⟨⟨⟨by decide, hour⟩, minute⟩, by omega⟩, rfl⟩
  simp only [read?, fullNotation, List.append_assoc, List.cons_append, Option.bind_eq_bind,
    Option.bind_some, literal?, if_true, date?_dateNotation known has.low has.high month day,
    fixed?_padded (show 0 < 2 by decide) (show time.civil.hour < 10 ^ 2 by omega),
    fixed?_padded (show 0 < 2 by decide) (show time.civil.minute < 10 ^ 2 by omega),
    fixed?_padded (show 0 < 2 by decide) (show time.civil.second < 10 ^ 2 by omega),
    fraction?_fractionNotation nano (ends_offsetNotation _) (head?_offsetNotation_ne _),
    offset?_offsetNotation has.small has.whole, inRange]
  rw [if_neg (by omega)]
  exact ofCivil?_civil time

/-- A timestamp in universal time from 1970 on has a notation. -/
theorem hasNotation_of_nonneg {time : Timestamp} (present : 0 ≤ time.nanos)
    (universal : time.offset = 0)
    : HasNotation time := by
  have same : time.localNanos = time.nanos := by
    rw [Timestamp.localNanos, universal, Int.zero_mul, Int.add_zero]
  obtain ⟨low, high⟩ := Timestamp.year_civil_mem (same ▸ present)
  exact ⟨by omega, high, by simp [universal], by simp [universal]⟩

end Rfc3339

end ValueHistory
