import ValueHistory.Proofs.Entry.Recorded

/-! Observations read back from their entries. All of an observation comes back, its time in
universal time and cut to whole milliseconds; but nothing is read back of a time that lies beyond
the year 9999 in universal time.
-/

namespace ValueHistory

namespace Timestamp

/-- An instant of milliseconds can be told up to the end of the year 9999 in universal time. -/
theorem nanos_le_of_ofMillis? {millis : Int} {time : Timestamp} (h : ofMillis? millis = some time)
    : time.nanos ≤ maxLocal := by
  simp only [ofMillis?, ofNanos?] at h
  split at h
  · split at h
    · next range =>
        cases h
        simp only [maxLocal, nanosPerSecond] at range ⊢
        omega
    · cases h
  · cases h

/-- From 1970 to the year 9999 an instant can be told from its milliseconds but for their fraction.
-/
theorem exists_ofMillis?_millis {time : Timestamp} (present : 0 ≤ time.nanos)
    (inYears : time.nanos ≤ maxLocal)
    : ∃ cut,
        ofMillis? time.millis = some cut ∧ cut.nanos = time.nanos - time.nanos % 1000000 := by
  have whole := millis_of_nonneg present
  have range
      : -377705116800 * nanosPerSecond ≤ time.millis * 1000000 + 0 * nanosPerSecond
        ∧ time.millis * 1000000 + 0 * nanosPerSecond < 253402300800 * nanosPerSecond := by
    simp only [maxLocal, nanosPerSecond] at inYears ⊢
    omega
  refine ⟨⟨time.millis * 1000000, 0, by decide, range⟩, ?_, ?_⟩
  · rw [ofMillis?, ofNanos?, dif_pos (by decide), dif_pos range]
  · show time.millis * 1000000 = _
    omega

end Timestamp

/-- An observation is another one with the time cut to whole milliseconds, in whatever offset. -/
def Observation.IsCutOf (shown value : Observation) (time : Timestamp) : Prop :=
  ∃ cut : Timestamp,
    cut.nanos = time.nanos - time.nanos % 1000000 ∧ shown = { value with time := some cut }

/-- The entry of an observation from 1970 on reads back as the observation, if its milliseconds are
those of a time in universal time, and else as nothing.
-/
theorem Entry.decode_keyAt {value : Observation} {time : Timestamp} (name : IsPart value.name)
    (sender : IsPart value.sender) (present : 0 ≤ time.nanos) {payload : Bytes} {data : Json}
    (reads : payloadData? payload = some data) (thing : String)
    : decode thing (value.keyAt time, payload)
      = .ok ((Timestamp.ofMillis? time.millis).map fun cut =>
          { value with thing, time := some cut, data }) := by
  simp only [decode, Observation.keyAt, Bytes.toString?_ofString, String.toList_ofList,
    Key.split_keyText time name sender, Key.integer64?_timeText, Option.bind_some,
    Timestamp.keyMillis_of_nonneg present]
  cases Timestamp.ofMillis? time.millis with
  | none => rfl
  | some cut =>
      simp only [affordance?, List.getElem?_cons_succ, List.getElem?_cons_zero,
        String.ofList_toList, Affordance.ofTag?_tag, reads, List.getD_cons_succ,
        List.getD_cons_zero, Option.map_some]

namespace Selection

/-- The selection of its name accepts an observation as it reads back. -/
theorem accept?_keyAt {value : Observation} {time : Timestamp} (name : IsPart value.name)
    (sender : IsPart value.sender) (present : 0 ≤ time.nanos) {payload : Bytes}
    (reads : Entry.payloadData? payload = some value.data)
    : (Selection.of value.thing (some value.name)).accept? (value.keyAt time, payload)
      = (Timestamp.ofMillis? time.millis).map fun cut => { value with time := some cut } := by
  have selected : (Selection.of value.thing (some value.name)).selects value.name = true := by
    simp only [of, Option.filter]
    split <;> simp [selects]
  have decoded := Entry.decode_keyAt name sender present reads value.thing
  have whole : Entry.decode (Selection.of value.thing (some value.name)).thing _ = _ := decoded
  simp only [accept?, Key.parse?_keyAt time name sender, selected, if_true, whole]

/-- No value is accepted of a time beyond the year 9999 in universal time. -/
theorem nanos_le_of_accept? {selection : Selection} {entry : Entry} {value : Observation}
    {time : Timestamp} (accepted : selection.accept? entry = some value)
    (known : value.time = some time)
    : time.nanos ≤ Timestamp.maxLocal := by
  obtain ⟨key, parsed, _, decoded⟩ := accept?_eq_some accepted
  obtain ⟨_, _, _, _, cut, told, inRange⟩ := Entry.decode_of_parse? parsed decoded
  rw [known] at told
  cases told
  exact Timestamp.nanos_le_of_ofMillis? inRange

end Selection

end ValueHistory
