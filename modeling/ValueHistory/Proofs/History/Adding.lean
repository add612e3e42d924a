import ValueHistory.History.Basic
import ValueHistory.Proofs.Entry.Recorded
import ValueHistory.Proofs.Store.Contents

/-! Adding values to a history. A value that is not valid changes nothing; any other one is put into
the bucket of its Thing, so that every bucket holds recorded entries only.
-/

namespace ValueHistory.History

/-- A value that is added to a working store is either rejected, and the history is left as it was,
or accepted, and its entry is put into the bucket of its Thing and into no other.
-/
theorem add_of_works {history : History} (works : history.store.Works) (moment : Moment)
    (value : Observation)
    : (∃ rejection,
        value.check moment.now = .error rejection
        ∧ history.add moment value = (.error (.invalid rejection), history))
      ∨ ∃ accepted entry stored,
          value.check moment.now = .ok accepted
          ∧ accepted.encode = .ok entry
          ∧ history.add moment value = (.ok (), { history with store := stored })
          ∧ stored.Works
          ∧ ∀ other,
              stored.bucket other
              = if other = accepted.thing then
                  (history.store.bucket accepted.thing).insert entry.1 entry.2
                else history.store.bucket other := by
  cases checked : value.check moment.now with
  | error rejection => exact .inl ⟨rejection, rfl, by rw [add, checked]⟩
  | ok accepted =>
      obtain ⟨same, _⟩ := Observation.check_eq_ok checked
      have encoded
          : accepted.encode
            = .ok (accepted.keyAt (value.time.getD moment.now), accepted.data.toBytes) := by
        rw [same]
        rfl
      obtain ⟨opened, stored, opens, sets, storedWorks, contents⟩ :=
        Store.set_of_works works accepted.thing
          (accepted.keyAt (value.time.getD moment.now)) accepted.data.toBytes
      refine .inr ⟨accepted, _, stored, rfl, encoded, ?_, storedWorks, contents⟩
      simp only [add, checked, encoded, put, opening, opens, sets]

/-- Adding a value keeps a store working. -/
theorem works_add {history : History} (works : history.store.Works) (moment : Moment)
    (value : Observation)
    : (history.add moment value).2.store.Works := by
  rcases add_of_works works moment value with
    ⟨_, _, same⟩ | ⟨_, _, stored, _, _, same, storedWorks, _⟩
  · rw [same]
    exact works
  · rw [same]
    exact storedWorks

/-- Adding a value leaves a bucket with recorded entries only. -/
theorem recorded_add {history : History} (works : history.store.Works) {thing : String}
    (recorded : (history.store.bucket thing).Recorded thing) (moment : Moment)
    (value : Observation)
    : ((history.add moment value).2.store.bucket thing).Recorded thing := by
  rcases add_of_works works moment value with
    ⟨_, _, same⟩ | ⟨accepted, entry, stored, checked, encoded, same, _, contents⟩
  · rw [same]
    exact recorded
  · rw [same]
    simp only [contents]
    split
    · next own =>
        subst own
        exact recorded.insert ⟨_, _, _, checked, rfl, encoded⟩
    · exact recorded

end ValueHistory.History
