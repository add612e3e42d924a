import ValueHistory.Entry.Codec
import ValueHistory.Proofs.Text.Decimal

/-! Keys of observations read back as their parts, and they sort by the milliseconds: an earlier
observation has the smaller key whatever its name and sender, and the key of a time lies between
the earlier keys and all others.
-/

namespace ValueHistory

namespace Text

/-- A text without the separator is one part, by induction on the text. -/
theorem split_of_not_mem {separator : Char} {text : List Char} (absent : separator ∉ text)
    : split separator text = [text] := by
  induction text with
  | nil => rfl
  | cons c rest ih =>
      obtain ⟨different, later⟩ := not_or.mp (mt List.mem_cons.mpr absent)
      simp [split, Ne.symm different, ih later]

/-- The first part ends at the first separator, by induction on the part. -/
theorem split_append {separator : Char} {part : List Char} (absent : separator ∉ part)
    (rest : List Char)
    : split separator (part ++ separator :: rest) = part :: split separator rest := by
  induction part with
  | nil => simp [split]
  | cons c part ih =>
      obtain ⟨different, later⟩ := not_or.mp (mt List.mem_cons.mpr absent)
      simp [split, Ne.symm different, ih later]

/-- Parts that hold no separator are found again in the joined text. -/
theorem split_join {separator : Char} {parts : List (List Char)} (present : parts ≠ [])
    (absent : ∀ part ∈ parts, separator ∉ part)
    : split separator (join separator parts) = parts := by
  induction parts with
  | nil => exact absurd rfl present
  | cons part parts ih =>
      have head := absent part List.mem_cons_self
      cases parts with
      | nil => exact split_of_not_mem head
      | cons next parts =>
          rw [join, split_append head,
            ih (by simp) fun later member => absent later (List.mem_cons_of_mem part member)]
          · simp

end Text

namespace Timestamp

/-- The milliseconds under which the observations of a time are kept. -/
def keyMillis (time : Timestamp) : Nat :=
  (max 0 time.millis).toNat

/-- From 1970 on the milliseconds are the whole ones that have passed. -/
theorem millis_of_nonneg {time : Timestamp} (present : 0 ≤ time.nanos)
    : time.millis = time.nanos / 1000000 :=
  Int.tdiv_eq_ediv_of_nonneg present

/-- Before 1970 the milliseconds are not positive. -/
theorem millis_of_neg {time : Timestamp} (past : time.nanos < 0) : time.millis ≤ 0 := by
  have back : 0 ≤ (-time.nanos).tdiv 1000000 := Int.tdiv_nonneg (by omega) (by decide)
  rw [Int.neg_tdiv] at back
  exact Int.neg_nonneg.mp back

/-- A later instant has no fewer milliseconds, since both are cut off the same way. -/
theorem millis_mono {time later : Timestamp} (less : time.nanos ≤ later.nanos)
    : time.millis ≤ later.millis :=
  Int.tdiv_le_tdiv (by decide) less

/-- Every time fits the digits of a key. -/
theorem keyMillis_lt (time : Timestamp) : time.keyMillis < 10 ^ keyDigits := by
  have offset := time.offsetBounded
  have range := time.inRange
  simp only [nanosPerSecond] at range
  simp only [keyMillis, keyDigits]
  rcases Int.lt_or_le time.nanos 0 with past | present
  · have cut := millis_of_neg past
    omega
  · have cut := millis_of_nonneg present
    omega

/-- A time from 1970 on keeps its milliseconds. -/
theorem keyMillis_of_nonneg {time : Timestamp} (present : 0 ≤ time.nanos)
    : (time.keyMillis : Int) = time.millis := by
  have cut := millis_of_nonneg present
  simp only [keyMillis]
  omega

/-- The instant of a number of milliseconds is told in universal time. -/
theorem nanos_of_ofMillis? {millis : Int} {time : Timestamp} (h : ofMillis? millis = some time)
    : time.nanos = millis * 1000000 ∧ time.offset = 0 := by
  simp only [ofMillis?, ofNanos?] at h
  split at h
  · split at h
    · cases h
      exact ⟨rfl, rfl⟩
    · cases h
  · cases h

/-- The instant of a number of milliseconds has these milliseconds. -/
theorem millis_of_ofMillis? {millis : Int} {time : Timestamp} (h : ofMillis? millis = some time)
    : time.millis = millis := by
  rw [Timestamp.millis, (nanos_of_ofMillis? h).1]
  exact Int.mul_tdiv_cancel millis (by decide)

end Timestamp

/-- The key of an observation at a time, as it is stored. -/
def Observation.keyAt (value : Observation) (time : Timestamp) : Bytes :=
  Bytes.ofString (String.ofList (value.keyText time))

/-- A text that may be a part of a key. -/
def IsPart (text : String) : Prop :=
  keySeparator ∉ text.toList

instance (text : String) : Decidable (IsPart text) :=
  inferInstanceAs (Decidable (keySeparator ∉ text.toList))

/-- The tag of an affordance may be a part of a key. -/
theorem Affordance.isPart_tag (affordance : Affordance) : IsPart affordance.tag := by
  cases affordance <;> simp [IsPart, Affordance.tag, keySeparator]

namespace Key

/-- Reading a key finds its four parts and nothing else. -/
theorem parse?_eq_some {bytes : Bytes} {key : Key} (h : parse? bytes = some key)
    : ∃ (text : String) (millis : List Char),
        bytes.toString? = some text
        ∧ Text.split keySeparator text.toList
          = [millis, key.name.toList, key.tag.toList, key.sender.toList]
        ∧ Decimal.integer64? millis = some key.millis := by
  simp only [parse?, Option.bind_eq_bind, Option.bind_eq_some_iff] at h
  obtain ⟨text, readable, h⟩ := h
  split at h
  · next millis name tag sender parts =>
      obtain ⟨number, found, rfl⟩ := Option.map_eq_some_iff.mp h
      exact ⟨text, millis, readable, by simpa using parts, found⟩
  · cases h

theorem integer64?_timeText (time : Timestamp)
    : Decimal.integer64? (timeText time) = some (time.keyMillis : Int) := by
  refine Decimal.integer64?_padded _ _ ?_
  have fits := time.keyMillis_lt
  simp only [keyDigits] at fits
  simp only [Decimal.maxInteger64, Timestamp.keyMillis] at fits ⊢
  omega

theorem timeText_ne_nil (time : Timestamp) : timeText time ≠ [] :=
  Decimal.padded_ne_nil _ _

theorem isDigit_of_mem_timeText {time : Timestamp} {c : Char} (member : c ∈ timeText time)
    : c.isDigit = true :=
  Decimal.isDigit_of_mem_padded member

theorem not_mem_timeText (time : Timestamp) : keySeparator ∉ timeText time :=
  fun slash => absurd (isDigit_of_mem_timeText slash) (by decide)

theorem split_keyText {value : Observation} (time : Timestamp) (name : IsPart value.name)
    (sender : IsPart value.sender)
    : Text.split keySeparator (value.keyText time)
      = [timeText time, value.name.toList, value.affordance.tag.toList, value.sender.toList] := by
  refine Text.split_join (by simp) ?_
  simp only [List.mem_cons, List.not_mem_nil, or_false, forall_eq_or_imp, forall_eq]
  exact ⟨not_mem_timeText time, name, value.affordance.isPart_tag, sender⟩

/-- The parts of an observation's key are its milliseconds, name, tag and sender. -/
theorem parse?_keyAt {value : Observation} (time : Timestamp) (name : IsPart value.name)
    (sender : IsPart value.sender)
    : parse? (value.keyAt time)
      = some
          { millis := time.keyMillis, name := value.name, tag := value.affordance.tag
            sender := value.sender } := by
  simp only [parse?, Observation.keyAt, Bytes.toString?_ofString, Option.bind_eq_bind,
    Option.bind_some, String.toList_ofList, split_keyText time name sender,
    integer64?_timeText, Option.map_some, String.ofList_toList]

end Key

-----------------------------------------------------------------------------------------
-- Keys sort by time
-----------------------------------------------------------------------------------------

namespace Observation

/-- What tells apart the keys of one millisecond: the name, the tag and the sender with separators.
-/
def tieBreak (value : Observation) : Bytes :=
  Bytes.ofString (String.ofList (Text.join keySeparator
    [value.name.toList, value.affordance.tag.toList, value.sender.toList]))

/-- A key begins with the key of its time, which a separator follows. -/
theorem keyAt_eq (value : Observation) (time : Timestamp)
    : value.keyAt time = Key.ofTime time ++ keySeparator.toUInt8 :: value.tieBreak := by
  have parts
      : value.keyText time
        = Key.timeText time
          ++ ([keySeparator]
            ++ Text.join keySeparator
              [value.name.toList, value.affordance.tag.toList, value.sender.toList]) := rfl
  rw [keyAt, parts, Bytes.ofString_ofList_append, Bytes.ofString_ofList_append]
  rfl

theorem keyAt_eq_append (value : Observation) (time : Timestamp)
    : ∃ rest, value.keyAt time = Key.ofTime time ++ rest :=
  ⟨_, value.keyAt_eq time⟩

/-- An observation of an earlier millisecond has the smaller key. -/
theorem before_keyAt {value later : Observation} {time laterTime : Timestamp}
    (less : time.keyMillis < laterTime.keyMillis)
    : KeyOrder.before (value.keyAt time) (later.keyAt laterTime) = true := by
  obtain ⟨rest, equal⟩ := value.keyAt_eq_append time
  obtain ⟨laterRest, laterEqual⟩ := later.keyAt_eq_append laterTime
  rw [equal, laterEqual]
  exact Decimal.before_padded (by decide) laterTime.keyMillis_lt less rest laterRest

/-- The key of a time lies above the keys of earlier milliseconds and of no others. -/
theorem before_ofTime (value : Observation) (time start : Timestamp)
    : KeyOrder.before (value.keyAt time) (Key.ofTime start)
      = decide (time.keyMillis < start.keyMillis) := by
  obtain ⟨rest, equal⟩ := value.keyAt_eq_append time
  rcases Nat.lt_trichotomy time.keyMillis start.keyMillis with less | same | more
  · have front := Decimal.before_padded (by decide) start.keyMillis_lt less rest []
    rw [List.append_nil] at front
    rw [equal, decide_eq_true less]
    exact front
  · have prefixed : Key.ofTime time = Key.ofTime start := by
      simp only [Key.ofTime, Key.timeText]
      exact congrArg (fun n => Bytes.ofString (String.ofList (Decimal.padded keyDigits n))) same
    have back := KeyOrder.lexBefore_append_left (Key.ofTime start) rest []
    rw [List.append_nil] at back
    rw [equal, prefixed, decide_eq_false (by omega)]
    exact back.trans (by cases rest <;> rfl)
  · have front := Decimal.before_padded (by decide) time.keyMillis_lt more [] rest
    rw [List.append_nil] at front
    rw [equal, decide_eq_false (Nat.lt_asymm more)]
    exact KeyOrder.asymm front

end Observation

end ValueHistory
