import ValueHistory.Proofs.Entry.Slot
import ValueHistory.Store.Position

/-! The order of keys is the order of times. The first part of a key has as many digits at every
time, so that a separator never meets a digit of another key there. A move to a time goes by this
order: it passes over nothing from its millisecond on, and lands on nothing from before.
-/

namespace ValueHistory

open KeyOrder

variable {value later : Observation} {entry laterEntry : Entry}

-----------------------------------------------------------------------------------------
-- Keys of times and of accepted observations
-----------------------------------------------------------------------------------------

/-- The milliseconds in a key are those of the time, or of 1970 for a time before it. -/
theorem Timestamp.natCast_keyMillis (time : Timestamp)
    : (time.keyMillis : Int) = max 0 time.millis := by
  rw [keyMillis]
  omega

/-- The key of a later instant does not come before that of an earlier one. -/
theorem Key.before_ofTime_of_le {time later : Timestamp} (less : time.nanos ≤ later.nanos)
    : before (ofTime later) (ofTime time) = false := by
  have order := Timestamp.millis_mono less
  have grown : time.keyMillis ≤ later.keyMillis := by
    have first := time.natCast_keyMillis
    have second := later.natCast_keyMillis
    omega
  rcases Nat.lt_or_eq_of_le grown with smaller | same
  · have front := Decimal.before_padded (by decide) later.keyMillis_lt smaller [] []
    rw [List.append_nil, List.append_nil] at front
    exact asymm front
  · have equal : ofTime time = ofTime later :=
      congrArg (fun millis => Bytes.ofString (String.ofList (Decimal.padded keyDigits millis))) same
    rw [equal]
    exact irrefl _

namespace Observation.IsAccepted

/-- An accepted observation has a time that is not before 1970, and an entry under its key at this
time, with the milliseconds of the time.
-/
theorem exists_keyAt (accepted : value.IsAccepted)
    : ∃ time,
        value.time = some time
        ∧ 0 ≤ time.nanos
        ∧ value.encode = .ok (value.keyAt time, value.data.toBytes)
        ∧ (time.keyMillis : Int) = value.millis := by
  obtain ⟨now, original, checked⟩ := accepted
  obtain ⟨rfl, _, _, _, present⟩ := check_eq_ok checked
  exact ⟨_, rfl, present, rfl, Timestamp.keyMillis_of_nonneg present⟩

/-- Of two accepted observations the one of the earlier millisecond has the smaller key. -/
theorem before_of_millis_lt (accepted : value.IsAccepted) (laterAccepted : later.IsAccepted)
    (encoded : value.encode = .ok entry) (laterEncoded : later.encode = .ok laterEntry)
    (less : value.millis < later.millis)
    : before entry.1 laterEntry.1 = true := by
  obtain ⟨time, _, _, own, cut⟩ := accepted.exists_keyAt
  obtain ⟨laterTime, _, _, laterOwn, laterCut⟩ := laterAccepted.exists_keyAt
  cases own.symm.trans encoded
  cases laterOwn.symm.trans laterEncoded
  exact before_keyAt (by omega)

/-- The key of a time lies above the keys of the accepted observations from before its millisecond,
and above no others.
-/
theorem before_ofTime_iff (accepted : value.IsAccepted) (encoded : value.encode = .ok entry)
    (start : Timestamp)
    : before entry.1 (Key.ofTime start) = false ↔ max 0 start.millis ≤ value.millis := by
  obtain ⟨time, _, _, own, cut⟩ := accepted.exists_keyAt
  cases own.symm.trans encoded
  rw [before_ofTime, decide_eq_false_iff_not, Nat.not_lt, ← start.natCast_keyMillis, ← cut,
    Int.ofNat_le]

/-- An observation that was made at a time or later is not of an earlier millisecond. -/
theorem millis_le_of_nanos_le (accepted : value.IsAccepted) {start time : Timestamp}
    (known : value.time = some time) (less : start.nanos ≤ time.nanos)
    : max 0 start.millis ≤ value.millis := by
  obtain ⟨own, ownKnown, _, _, cut⟩ := accepted.exists_keyAt
  cases known.symm.trans ownKnown
  have order := Timestamp.millis_mono less
  have whole := time.natCast_keyMillis
  omega

end Observation.IsAccepted

-----------------------------------------------------------------------------------------
-- Moves to a time
-----------------------------------------------------------------------------------------

namespace Position

/-- A move to a key lands on the first entry from this key on. -/
theorem move_seek_fst (bucket : Bucket) (position : Position) (key : Bytes)
    : (position.move (.ofBucket bucket) (.seek key)).1 = bucket.ceiling (.including key) := by
  show (land (bucket.ceiling (.including key)) .afterLast).1 = _
  cases bucket.ceiling (.including key) <;> rfl

/-- A move to a key passes over no entry from this key on. -/
theorem exists_landed {bucket : Bucket} (position : Position) {key : Bytes}
    (stored : entry ∈ bucket.entries) (fromKey : before entry.1 key = false)
    : ∃ landed,
        (position.move (.ofBucket bucket) (.seek key)).1 = some landed
        ∧ before entry.1 landed.1 = false := by
  have inside : (Bound.including key).liesBelow entry.1 = true := by simp [Bound.liesBelow, fromKey]
  obtain ⟨landed, first⟩ := OrderedMap.exists_ceiling stored inside
  rw [move_seek_fst]
  exact ⟨landed, first, (OrderedMap.ceiling_eq_some first).2 entry stored inside⟩

/-- A move to a key lands on no entry from before this key. -/
theorem before_of_landed {bucket : Bucket} {position : Position} {key : Bytes}
    (landed : (position.move (.ofBucket bucket) (.seek key)).1 = some entry)
    : before entry.1 key = false := by
  rw [move_seek_fst] at landed
  simpa [Bound.liesBelow] using (OrderedMap.ceiling_eq_some landed).1

end Position

/-- Accepted observations have entries, and of two of them the one of the earlier millisecond has
the smaller key, whatever their names and senders. Of two instants the earlier one has no more
milliseconds and no larger key. The key of a time lies above the keys of the observations from
before its millisecond, a time before 1970 counting as 1970, and above no others. So a move to a
time passes over no observation that was made at this time or later, and lands on none from before
its millisecond, whatever else is stored. Witness: padded milliseconds stand in the order of their
texts, and keys begin with them.
-/
theorem Key.order_follows_time
    : (∀ {value later : Observation}, value.IsAccepted → later.IsAccepted
        → ∃ entry laterEntry,
            value.encode = .ok entry
            ∧ later.encode = .ok laterEntry
            ∧ (value.millis < later.millis → before entry.1 laterEntry.1 = true))
      ∧ (∀ {time later : Timestamp}, time.nanos ≤ later.nanos
          → time.millis ≤ later.millis ∧ before (ofTime later) (ofTime time) = false)
      ∧ ∀ {value : Observation} (start : Timestamp), value.IsAccepted
          → ∃ entry,
              value.encode = .ok entry
              ∧ (before entry.1 (ofTime start) = false ↔ max 0 start.millis ≤ value.millis)
              ∧ (∀ time, value.time = some time → start.nanos ≤ time.nanos
                  → max 0 start.millis ≤ value.millis)
              ∧ ∀ (bucket : Bucket) (position : Position), entry ∈ bucket.entries
                  → (max 0 start.millis ≤ value.millis
                      → ∃ landed,
                          (position.move (.ofBucket bucket) (.seek (ofTime start))).1 = some landed
                          ∧ before entry.1 landed.1 = false)
                    ∧ ((position.move (.ofBucket bucket) (.seek (ofTime start))).1 = some entry
                        → max 0 start.millis ≤ value.millis) := by
  refine ⟨?_, fun less => ⟨Timestamp.millis_mono less, before_ofTime_of_le less⟩, ?_⟩
  · intro value later accepted laterAccepted
    obtain ⟨_, encoded⟩ := accepted.exists_encode
    obtain ⟨_, laterEncoded⟩ := laterAccepted.exists_encode
    refine ⟨_, _, encoded, laterEncoded, fun less => ?_⟩
    exact accepted.before_of_millis_lt laterAccepted encoded laterEncoded less
  · intro value start accepted
    obtain ⟨_, encoded⟩ := accepted.exists_encode
    have above := accepted.before_ofTime_iff encoded start
    refine ⟨_, encoded, above, fun _ => accepted.millis_le_of_nanos_le, ?_⟩
    intro bucket position stored
    constructor
    · intro reached
      exact position.exists_landed stored (above.mpr reached)
    · intro landed
      exact above.mp (Position.before_of_landed landed)

/-- The key of the lamp comes before that of its brightness a second later, and a move to a second
before 1970 does not pass over the lamp.
-/
theorem Key.order_of_lamp
    : (Observation.ofLamp "on" .epoch).IsAccepted
      ∧ (Observation.ofLamp "bright" (Timestamp.epoch.addSeconds 1)).IsAccepted
      ∧ before ((Observation.ofLamp "on" .epoch).keyAt .epoch)
          ((Observation.ofLamp "bright" (Timestamp.epoch.addSeconds 1)).keyAt
            (Timestamp.epoch.addSeconds 1))
        = true
      ∧ ∃ landed,
          (Position.unplaced.move (.ofBucket Bucket.ofLamp)
              (.seek (ofTime (Timestamp.epoch.addSeconds (-1))))).1
            = some landed
          ∧ before ((Observation.ofLamp "on" .epoch).keyAt .epoch) landed.1 = false := by
  have on : (Observation.ofLamp "on" .epoch).IsAccepted := ⟨.epoch, .ofLamp "on" .epoch, rfl⟩
  have bright : (Observation.ofLamp "bright" (Timestamp.epoch.addSeconds 1)).IsAccepted :=
    ⟨.epoch, .ofLamp "bright" (Timestamp.epoch.addSeconds 1), rfl⟩
  obtain ⟨sorted, _, moves⟩ := Key.order_follows_time
  obtain ⟨entry, laterEntry, encoded, laterEncoded, order⟩ := sorted on bright
  obtain ⟨own, ownEncoded, _, _, met⟩ := moves (Timestamp.epoch.addSeconds (-1)) on
  cases encoded
  cases laterEncoded
  cases ownEncoded
  refine ⟨on, bright, order (by decide), ?_⟩
  exact (met Bucket.ofLamp .unplaced (by decide)).1 (by decide)

end ValueHistory
