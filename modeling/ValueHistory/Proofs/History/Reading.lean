import ValueHistory.Proofs.History.Range

/-! What a reading of a Thing's values in one go answers, to the value: the one found at its start
and the first ones of those that follow, as many as fit. A reading changes nothing.
-/

namespace ValueHistory

/-- The number of values that a reading may hold beside the one at its start: the limit if it is
positive, else the default one of the history.
-/
def History.room (history : History) (limit : Int) : Nat :=
  effectiveLimit limit
    (if history.defaultLimit = 0 then defaultPageLimit else history.defaultLimit)

theorem History.room_eq (history : History) (bound : Timestamp) (limit : Int)
    : (Window.mk bound (effectiveLimit limit history.defaultLimit)).room
      = history.room limit := by
  simp only [Window.room, room, effectiveLimit]
  split
  · rfl
  · exact if_neg (by omega)

namespace Bucket

variable {thing : String} {bucket : Bucket}

/-- A page of what follows a start holds the first ones of the values up to its bound. -/
theorem page_following (bucket : Bucket) (now start : Timestamp) (window : Window)
    (selection : Selection) (direction : Direction)
    : window.page direction (bucket.afterHit now start selection direction)
      = { values :=
            (bucket.following now start window.bound.millis selection direction).take window.room
          remaining :=
            window.room
              < (bucket.following now start window.bound.millis selection direction).length } :=
  rfl

theorem length_hit_le (bucket : Bucket) (now start : Timestamp) (selection : Selection)
    : (bucket.hit now start selection).toList.length ≤ 1 := by
  cases bucket.hit now start selection <;> simp

end Bucket

namespace History

/-- A reading of a bucket of recorded entries answers with the value found at its start, if there is
one, and after it with the first values on the way up to its bound, tells whether more of them are
left, and holds no value twice. It leaves the registry and all buckets as they were. Witness: a
range of recorded entries is the value that is sought and a page of what follows it.
-/
theorem reading_shows {history : History} (works : history.store.Works) {thing : String}
    (recorded : (history.store.bucket thing).Recorded thing) (name : Option String)
    (moment : Moment) (start : Timestamp) (seconds limit : Int)
    : ∃ page after,
        history.read moment thing name start seconds limit = (.ok page, after)
        ∧ page.values
          = ((history.store.bucket thing).hit moment.now start (.of thing name)).toList
            ++ ((history.store.bucket thing).following moment.now start
                  (start.addSeconds seconds).millis (.of thing name)
                  (if 0 < seconds then .forward else .backward)).take (history.room limit)
        ∧ (page.remaining = true
          ↔ history.room limit
            < ((history.store.bucket thing).following moment.now start
                (start.addSeconds seconds).millis (.of thing name)
                (if 0 < seconds then .forward else .backward)).length)
        ∧ page.values.length ≤ history.room limit + 1
        ∧ page.values.Nodup
        ∧ after.registry = history.registry
        ∧ ∀ other, after.store.bucket other = history.store.bucket other := by
  obtain ⟨opened, answer, _, contents⟩ := exists_read works moment thing name start seconds limit
  generalize (if 0 < seconds then Direction.forward else .backward) = direction at answer ⊢
  rw [Cursor.readRange_reads recorded, Bucket.page_following, room_eq] at answer
  refine ⟨_, _, answer, rfl, decide_eq_true_iff, ?_, ?_, rfl, contents⟩
  · have one := (history.store.bucket thing).length_hit_le moment.now start (.of thing name)
    simp only [List.length_append, List.length_take]
    omega
  · have once := Bucket.nodup_range recorded moment.now start (start.addSeconds seconds).millis
      (.of thing name) direction
    exact once.sublist ((List.Sublist.refl _).append (List.take_sublist ..))

/-- Both properties of the lamp are read from the first millisecond of 1970 on, though there is room
for one beside the first, and a reading back in time ends with the first.
-/
theorem reading_shows_lamp
    : (∃ page after,
        ofLamp.read ⟨.epoch, 0⟩ "lamp" none .epoch 1 1 = (.ok page, after)
        ∧ page.values = [.ofLamp "bright" .epoch, .ofLamp "on" .epoch]
        ∧ page.remaining = false
        ∧ after.registry = ofLamp.registry)
      ∧ ∃ page after,
          ofLamp.read ⟨.epoch, 0⟩ "lamp" none .epoch (-1) 1 = (.ok page, after)
          ∧ page.values = [.ofLamp "bright" .epoch]
          ∧ page.remaining = false
          ∧ after.registry = ofLamp.registry := by
  have works : ofLamp.store.Works := trivial
  have recorded : (ofLamp.store.bucket "lamp").Recorded "lamp" := Bucket.recorded_ofLamp
  have more (seconds limit : Int) :=
    reading_shows works recorded none ⟨.epoch, 0⟩ .epoch seconds limit
  constructor
  · obtain ⟨page, after, answer, values, remaining, _, _, same, _⟩ := more 1 1
    refine ⟨page, after, answer, values, ?_, same⟩
    exact Bool.eq_false_iff.mpr fun left => absurd (remaining.mp left) (by decide)
  · obtain ⟨page, after, answer, values, remaining, _, _, same, _⟩ := more (-1) 1
    refine ⟨page, after, answer, values, ?_, same⟩
    exact Bool.eq_false_iff.mpr fun left => absurd (remaining.mp left) (by decide)

end History

end ValueHistory
