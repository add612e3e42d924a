import ValueHistory.Proofs.Cursor.Seeking
import ValueHistory.Proofs.History.Adding

/-! Reading the values of a range of time in one go. Forward nothing of the range is lost. Backward
the values that share the millisecond from which the reading starts are lost, all but the first.
-/

namespace ValueHistory

namespace Timestamp

/-- A number of seconds that is not negative does not lead back in time. -/
theorem millis_le_addSeconds (time : Timestamp) {seconds : Int} (onward : 0 ≤ seconds)
    : time.millis ≤ (time.addSeconds seconds).millis := by
  have range := time.inRange
  refine millis_mono ?_
  simp only [addSeconds, minLocal, maxLocal, localNanos, nanosPerSecond] at range ⊢
  omega

/-- A number of seconds that is not positive does not lead on in time. -/
theorem addSeconds_millis_le (time : Timestamp) {seconds : Int} (back : seconds ≤ 0)
    : (time.addSeconds seconds).millis ≤ time.millis := by
  have range := time.inRange
  refine millis_mono ?_
  simp only [addSeconds, minLocal, maxLocal, localNanos, nanosPerSecond] at range ⊢
  omega

end Timestamp

variable {thing : String} {bucket : Bucket}

/-- The value that a reading from a time begins with: the first one from the time on, unless the
reading has to pass over an entry to reach it and the value is later than the present.
-/
def Bucket.hit (now start : Timestamp) (selection : Selection) (bucket : Bucket)
    : Option Observation :=
  (bucket.matchingFrom start selection).head?.filter fun value =>
    (bucket.landing start selection).isSome || value.millis ≤ now.millis

/-- The values that a reading from a time goes on with. -/
def Bucket.afterHit (now start : Timestamp) (selection : Selection) (bucket : Bucket)
    : Direction → List Observation
  | .forward =>
    (bucket.matchingFrom start selection).drop (bucket.hit now start selection).toList.length
  | .backward => (bucket.matchingBefore start selection).reverse

/-- A range is the value found at its start and a page of those that come after it on the way. -/
theorem Cursor.readRange_reads (recorded : bucket.Recorded thing) (name : Option String)
    (now start bound : Timestamp) (direction : Direction) (limit : Nat)
    : (opened thing name).readRange (.ofBucket bucket) now start bound direction limit
      = { Window.page direction { bound, limit }
            (bucket.afterHit now start (.of thing name) direction) with
          values :=
            (bucket.hit now start (.of thing name)).toList
              ++ (Window.page direction { bound, limit }
                    (bucket.afterHit now start (.of thing name) direction)).values } := by
  cases sought : (opened thing name).seek (.ofBucket bucket) now start with
  | mk hit cursor =>
      obtain ⟨found, selection, forward, backward⟩ := Cursor.seek_reads recorded sought
      cases answer : cursor.page (.ofBucket bucket) direction bound limit with
      | mk page after =>
          obtain ⟨shown, _⟩ :=
            @Cursor.page_shows thing bucket direction recorded cursor after ⟨bound, limit⟩ page
              answer
          have rest
              : cursor.rest direction bucket
                = bucket.afterHit now start (.of thing name) direction := by
            cases direction with
            | forward => rw [forward, found]; rfl
            | backward => rw [backward]; rfl
          rw [rest] at shown
          simp only [readRange, sought, answer]
          rw [← shown, found]
          rfl

namespace History

/-- Reading from a working store answers with a range of the bucket of the Thing, and leaves behind
a history that differs in its store only, where no bucket has changed.
-/
theorem exists_read {history : History} (works : history.store.Works) (moment : Moment)
    (thing : String) (name : Option String) (start : Timestamp) (seconds limit : Int)
    : ∃ opened,
        history.read moment thing name start seconds limit
          = (.ok
              ((Cursor.opened thing name).readRange (.ofBucket (history.store.bucket thing))
                moment.now start (start.addSeconds seconds)
                (if 0 < seconds then .forward else .backward)
                (effectiveLimit limit history.defaultLimit)),
            { history with store := opened })
        ∧ opened.Works
        ∧ ∀ other, opened.bucket other = history.store.bucket other := by
  obtain ⟨opened, opens, openedWorks, contents⟩ := Store.openBucket_of_works works thing
  refine ⟨opened, ?_, openedWorks, contents⟩
  simp only [read, opening, opens, Store.lookup_of_works openedWorks, contents, View.first_still,
    View.second_still]

theorem read_of_works {history : History} (works : history.store.Works) (moment : Moment)
    (thing : String) (name : Option String) (start : Timestamp) (seconds limit : Int)
    : (history.read moment thing name start seconds limit).1
      = .ok
          ((Cursor.opened thing name).readRange (.ofBucket (history.store.bucket thing))
            moment.now start (start.addSeconds seconds)
            (if 0 < seconds then .forward else .backward)
            (effectiveLimit limit history.defaultLimit)) := by
  obtain ⟨opened, answer, _⟩ := exists_read works moment thing name start seconds limit
  rw [answer]

end History

/-- A limit that is no smaller than the bucket leaves room for all its values. -/
theorem room_of_size_le {size default : Nat} {limit : Int} (enough : (size : Int) ≤ limit)
    (bound : Timestamp)
    : size ≤ (Window.mk bound (effectiveLimit limit default)).room := by
  simp only [Window.room, effectiveLimit]
  split
  · omega
  · split <;> omega

namespace Bucket

theorem length_matching_le (recorded : bucket.Recorded thing) (selection : Selection)
    : (bucket.matching selection).length ≤ bucket.size := by
  rw [matching_eq_filterMap recorded]
  exact List.length_filterMap_le ..

theorem length_afterHit_le (recorded : bucket.Recorded thing) (now start : Timestamp)
    (selection : Selection) (direction : Direction)
    : (bucket.afterHit now start selection direction).length ≤ bucket.size := by
  refine Nat.le_trans ?_ (length_matching_le recorded selection)
  cases direction with
  | forward =>
      rw [afterHit, List.length_drop]
      exact Nat.le_trans (Nat.sub_le ..) (List.length_filter_le ..)
  | backward =>
      rw [afterHit, List.length_reverse]
      exact List.length_filter_le ..

theorem exists_entry_of_mem_matching (recorded : bucket.Recorded thing) {selection : Selection}
    {value : Observation} (member : value ∈ bucket.matching selection)
    : ∃ entry ∈ bucket.entries, value.millis = Entry.millis entry := by
  rw [matching_eq_filterMap recorded] at member
  obtain ⟨entry, present, read⟩ := List.mem_filterMap.mp member
  exact ⟨entry, present, Selection.millis_of_accept? read⟩

theorem millis_nonneg_of_mem_matching (recorded : bucket.Recorded thing) {selection : Selection}
    {value : Observation} (member : value ∈ bucket.matching selection)
    : 0 ≤ value.millis := by
  obtain ⟨entry, present, same⟩ := exists_entry_of_mem_matching recorded member
  rw [same]
  exact (recorded entry present).millis_nonneg

/-- Where no entry is later than the present, a reading begins with the first value from its start
on.
-/
theorem hit_eq_head? (recorded : bucket.Recorded thing) {now : Timestamp}
    (known : ∀ entry ∈ bucket.entries, Entry.millis entry ≤ now.millis) (start : Timestamp)
    (selection : Selection)
    : bucket.hit now start selection = (bucket.matchingFrom start selection).head? := by
  cases first : (bucket.matchingFrom start selection).head? with
  | none => rw [hit, first]; rfl
  | some value =>
      have member := (List.mem_filter.mp (List.mem_of_head? first)).1
      obtain ⟨entry, present, same⟩ := exists_entry_of_mem_matching recorded member
      have present := known entry present
      rw [hit, first, Option.filter_eq_some_iff.mpr ⟨rfl, by simp [same, present]⟩]

/-- The first value with the milliseconds of a start is the first value from the start on, if there
is one with these milliseconds at all.
-/
theorem find?_millis_eq (recorded : bucket.Recorded thing) {selection : Selection}
    {start : Timestamp} {value : Observation} (member : value ∈ bucket.matching selection)
    (same : value.millis = start.millis)
    : (bucket.matching selection).find? (fun other => other.millis = start.millis)
      = (bucket.matchingFrom start selection).head? := by
  have positive := millis_nonneg_of_mem_matching recorded member
  have reached : ∀ millis, start.isReached millis = decide (start.millis ≤ millis) := by
    intro millis
    unfold Timestamp.isReached Timestamp.keyMillis
    rw [decide_eq_decide]
    omega
  have ordered := chronological_matching recorded selection
  rw [matchingFrom, List.head?_filter]
  cases found
      : (bucket.matching selection).find? fun other => start.isReached other.millis with
  | none =>
      have missed := List.find?_eq_none.mp found value member
      simp [reached, same] at missed
  | some first =>
      obtain ⟨holds, front, later, split, before⟩ := List.find?_eq_some_iff_append.mp found
      simp only [reached, decide_eq_true_eq, Bool.not_eq_true', decide_eq_false_iff_not]
        at holds before
      rw [split] at member ordered
      have notLater : first.millis ≤ value.millis := by
        obtain ⟨_, tail, _⟩ := List.pairwise_append.mp ordered
        rcases List.mem_append.mp member with passed | member
        · exact absurd (Int.le_of_eq same.symm) (before value passed)
        · rcases List.mem_cons.mp member with rfl | member
          · exact Int.le_refl _
          · exact (List.pairwise_cons.mp tail).1 value member
      refine List.find?_eq_some_iff_append.mpr ⟨?_, front, later, split, fun other passed => ?_⟩
      · simp only [decide_eq_true_eq]
        omega
      · have earlier := before other passed
        simp only [Bool.not_eq_true', decide_eq_false_iff_not]
        omega

/-- The values that follow the one found at the start of a reading, up to a bound in milliseconds.
-/
def following (now start : Timestamp) (bound : Int) (selection : Selection)
    (direction : Direction) (bucket : Bucket) : List Observation :=
  (bucket.afterHit now start selection direction).filter fun value =>
    !direction.crosses bound value.millis

/-- The values of a range up to a bound in milliseconds, where all of them fit. -/
def range (now start : Timestamp) (bound : Int) (selection : Selection) (direction : Direction)
    (bucket : Bucket) : List Observation :=
  (bucket.hit now start selection).toList
    ++ (bucket.afterHit now start selection direction).filter fun value =>
        !direction.crosses bound value.millis

/-- The values from a start on are the one found there, if there is one, and those that follow it.
-/
theorem hit_append_afterHit (bucket : Bucket) (now start : Timestamp) (selection : Selection)
    : (bucket.hit now start selection).toList ++ bucket.afterHit now start selection .forward
      = bucket.matchingFrom start selection := by
  rw [afterHit, hit]
  cases bucket.matchingFrom start selection with
  | nil => rfl
  | cons value later =>
      rw [List.head?_cons, Option.filter_some]
      split <;> rfl

/-- The value found at a start is from the start on. -/
theorem isReached_of_hit {now start : Timestamp} {selection : Selection} {value : Observation}
    (found : bucket.hit now start selection = some value)
    : start.isReached value.millis = true := by
  obtain ⟨first, _⟩ := Option.filter_eq_some_iff.mp found
  exact (List.mem_filter.mp (List.mem_of_head? first)).2

/-- A range holds no value twice: forward it is a part of the values from its start on, backward the
value at its start is none of those before.
-/
theorem nodup_range (recorded : bucket.Recorded thing) (now start : Timestamp) (bound : Int)
    (selection : Selection) (direction : Direction)
    : (bucket.range now start bound selection direction).Nodup := by
  have all := nodup_matching recorded selection
  cases direction with
  | forward =>
      refine List.Nodup.sublist ?_ (all.filter fun value => start.isReached value.millis)
      have split := hit_append_afterHit bucket now start selection
      rw [matchingFrom] at split
      rw [← split]
      exact (List.Sublist.refl _).append List.filter_sublist
  | backward =>
      refine List.nodup_append.mpr ⟨?_, ?_, ?_⟩
      · cases bucket.hit now start selection <;> simp
      · refine List.Nodup.sublist List.filter_sublist ?_
        exact List.pairwise_reverse.mpr ((all.filter _).imp Ne.symm)
      · rintro value found other passed rfl
        have reached := isReached_of_hit (Option.mem_toList.mp found)
        have before := List.mem_reverse.mp (List.mem_filter.mp passed).1
        have missed := (List.mem_filter.mp before).2
        simp [reached] at missed

/-- A range that is read forward holds all values within it. -/
theorem mem_range_forward (recorded : bucket.Recorded thing) {now start : Timestamp}
    {bound : Int} {selection : Selection} {value : Observation}
    (member : value ∈ bucket.matching selection)
    (begun : start.millis ≤ value.millis) (inside : value.millis ≤ bound)
    : value ∈ bucket.range now start bound selection .forward := by
  have positive := millis_nonneg_of_mem_matching recorded member
  have reached : value ∈ bucket.matchingFrom start selection := by
    refine List.mem_filter.mpr ⟨member, ?_⟩
    rw [start.isReached_of_nonneg positive]
    exact decide_eq_true begun
  rw [← hit_append_afterHit bucket now] at reached
  refine List.mem_append.mpr ((List.mem_append.mp reached).imp_right fun following => ?_)
  exact List.mem_filter.mpr ⟨following, by simpa [Direction.crosses] using inside⟩

/-- A range that is read backward holds the values within it that are before its start, and the
first one with the milliseconds of its start.
-/
theorem mem_range_backward (recorded : bucket.Recorded thing) {now : Timestamp}
    (known : ∀ entry ∈ bucket.entries, Entry.millis entry ≤ now.millis) {start : Timestamp}
    {bound : Int} {selection : Selection} {value : Observation}
    (member : value ∈ bucket.matching selection)
    (begun : value.millis ≤ start.millis) (inside : bound ≤ value.millis)
    : value ∈ bucket.range now start bound selection .backward
      ↔ value.millis ≠ start.millis
        ∨ (bucket.matching selection).find? (fun other => other.millis = start.millis)
          = some value := by
  have positive := millis_nonneg_of_mem_matching recorded member
  have reached : start.isReached value.millis = decide (value.millis = start.millis) := by
    rw [start.isReached_of_nonneg positive, decide_eq_decide]
    omega
  rw [range, hit_eq_head? recorded known, List.mem_append, Option.mem_toList, List.mem_filter,
    afterHit, List.mem_reverse, matchingBefore, List.mem_filter, reached]
  by_cases tied : value.millis = start.millis
  · rw [← find?_millis_eq recorded member tied]
    simp [tied]
  · simp [tied, member, Direction.crosses, inside]

end Bucket

-----------------------------------------------------------------------------------------
-- What a range holds
-----------------------------------------------------------------------------------------

namespace History

/-- A range read from a history whose entries are all known holds every value once that lies within
it, the ends included, when it is read forward. Read backward it lacks the values that share the
millisecond of its start with another one before them, and no others. Witness: the range is the
value that is sought and what follows it on the way, taken as far as the bound.
-/
theorem read_range_lacks_ties {history : History} (works : history.store.Works) {thing : String}
    (recorded : (history.store.bucket thing).Recorded thing) (name : Option String)
    {moment : Moment}
    (known
      : ∀ entry ∈ (history.store.bucket thing).entries,
          Entry.millis entry ≤ moment.now.millis)
    (start : Timestamp) (seconds : Int) {limit : Int}
    (enough : ((history.store.bucket thing).size : Int) ≤ limit)
    : ∃ page,
        (history.read moment thing name start seconds limit).1 = .ok page
        ∧ page.values.Nodup
        ∧ ∀ value ∈ (history.store.bucket thing).matching (.of thing name),
            min start.millis (start.addSeconds seconds).millis ≤ value.millis
            → value.millis ≤ max start.millis (start.addSeconds seconds).millis
            → (value ∈ page.values
              ↔ 0 < seconds
                ∨ value.millis ≠ start.millis
                ∨ ((history.store.bucket thing).matching (.of thing name)).find?
                    (fun other => other.millis = start.millis)
                  = some value) := by
  refine ⟨_, read_of_works works moment thing name start seconds limit, ?_⟩
  have room
      : (history.store.bucket thing).size
        ≤ (Window.mk (start.addSeconds seconds)
            (effectiveLimit limit history.defaultLimit)).room :=
    room_of_size_le enough _
  rw [Cursor.readRange_reads recorded,
    Window.values_of_room (Nat.le_trans (Bucket.length_afterHit_le recorded _ _ _ _) room)]
  refine ⟨Bucket.nodup_range recorded _ start _ _ _, fun value member low high => ?_⟩
  by_cases onward : 0 < seconds
  · have later := start.millis_le_addSeconds (Int.le_of_lt onward)
    simp only [onward, if_true, true_or, iff_true]
    exact Bucket.mem_range_forward recorded member (by omega) (by omega)
  · have earlier := start.addSeconds_millis_le (Int.not_lt.mp onward)
    simp only [onward, if_false, false_or]
    exact Bucket.mem_range_backward recorded known member (by omega) (by omega)

/-- A history in memory that holds what was seen of a lamp. -/
def ofLamp : History :=
  { store := .inMemory ⟨OrderedMap.empty.insert "lamp" Bucket.ofLamp⟩, keys := toString }

/-- Of the two properties of the lamp that were set in the first millisecond of 1970 a reading of
that moment holds the first and lacks the other.
-/
theorem read_range_lacks_lamp
    : ∃ page,
        (ofLamp.read ⟨.epoch, 0⟩ "lamp" none .epoch 0 10).1 = .ok page
        ∧ page.values.Nodup
        ∧ Observation.ofLamp "bright" .epoch ∈ page.values
        ∧ Observation.ofLamp "on" .epoch ∉ page.values := by
  have works : ofLamp.store.Works := trivial
  have recorded : (ofLamp.store.bucket "lamp").Recorded "lamp" := Bucket.recorded_ofLamp
  have stored
      : (ofLamp.store.bucket "lamp").matching (.of "lamp" none)
        = [.ofLamp "bright" .epoch, .ofLamp "on" .epoch] := rfl
  have known
      : ∀ entry ∈ (ofLamp.store.bucket "lamp").entries,
          Entry.millis entry ≤ (Moment.mk .epoch 0).now.millis := by
    decide
  have enough : ((ofLamp.store.bucket "lamp").size : Int) ≤ 10 := by decide
  obtain ⟨page, answer, once, held⟩ :=
    read_range_lacks_ties works recorded none known .epoch 0 enough
  rw [stored] at held
  refine ⟨page, answer, once, ?_, fun member => ?_⟩
  · exact (held _ (by simp) (by decide) (by decide)).mpr (.inr (.inr rfl))
  · rcases (held _ (by simp) (by decide) (by decide)).mp member with onward | other | first
    · exact absurd onward (by decide)
    · exact absurd rfl other
    · have names := congrArg (Option.map Observation.name) first
      exact absurd names (by decide)

end History

end ValueHistory
