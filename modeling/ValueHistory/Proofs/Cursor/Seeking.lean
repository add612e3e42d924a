import ValueHistory.Proofs.Cursor.Windows

/-! Moves to a time. A cursor that is moved to a time finds the first selected value from that time
on; the values before the time lie behind it and the values after the one found ahead, also where it
has passed over entries that are not selected.
-/

namespace ValueHistory

open KeyOrder

variable {thing : String} {selection : Selection} {bucket : Bucket}

namespace Timestamp

/-- Whether milliseconds are reached by a move to a time. -/
def isReached (start : Timestamp) (millis : Int) : Bool :=
  (start.keyMillis : Int) ≤ millis

theorem isReached_of_nonneg (start : Timestamp) {millis : Int} (positive : 0 ≤ millis)
    : start.isReached millis = decide (start.millis ≤ millis) := by
  unfold isReached keyMillis
  rw [decide_eq_decide]
  omega

end Timestamp

/-- The recorded entries that do not lie below the key of a time are those from the time on. -/
theorem Entry.IsRecorded.not_before_ofTime {entry : Entry} (recorded : entry.IsRecorded thing)
    (start : Timestamp)
    : (!before entry.1 (Key.ofTime start)) = start.isReached entry.millis := by
  rw [recorded.before_ofTime, Timestamp.isReached, ← decide_not, decide_eq_decide, Int.not_lt]

namespace Bucket

/-- The selected values of a bucket from a time on. -/
def matchingFrom (start : Timestamp) (selection : Selection) (bucket : Bucket)
    : List Observation :=
  (bucket.matching selection).filter fun value => start.isReached value.millis

/-- The selected values of a bucket before a time. -/
def matchingBefore (start : Timestamp) (selection : Selection) (bucket : Bucket)
    : List Observation :=
  (bucket.matching selection).filter fun value => !start.isReached value.millis

/-- The recorded entries before a time come before those from the time on. -/
theorem entries_eq_append (recorded : bucket.Recorded thing) (start : Timestamp)
    : bucket.entries.filter (fun entry => !start.isReached (Entry.millis entry))
        ++ bucket.entries.filter (fun entry => start.isReached (Entry.millis entry))
      = bucket.entries := by
  refine Staged.filter_append_filter ((chronological recorded).imp fun {a b} less reached => ?_)
  simp only [Timestamp.isReached, decide_eq_true_eq] at reached ⊢
  omega

theorem matchingFrom_eq (recorded : bucket.Recorded thing) (start : Timestamp)
    (selection : Selection)
    : bucket.matchingFrom start selection
      = (bucket.entries.filter fun entry => start.isReached (Entry.millis entry)).filterMap
          selection.accept? :=
  filter_matching recorded selection start.isReached

theorem matchingBefore_eq (recorded : bucket.Recorded thing) (start : Timestamp)
    (selection : Selection)
    : bucket.matchingBefore start selection
      = (bucket.entries.filter fun entry => !start.isReached (Entry.millis entry)).filterMap
          selection.accept? :=
  filter_matching recorded selection fun millis => !start.isReached millis

/-- The value of the entry on which a move to a time lands, if it is selected. -/
def landing (start : Timestamp) (selection : Selection) (bucket : Bucket) : Option Observation :=
  (bucket.entries.filter fun entry => start.isReached (Entry.millis entry)).head?.bind
    selection.accept?

/-- A move to a time lands on the first entry from the time on. -/
theorem move_seek (recorded : bucket.Recorded thing) (position : Position) (start : Timestamp)
    : position.move (.ofBucket bucket) (.seek (Key.ofTime start))
      = Position.land
          (bucket.entries.filter fun entry => start.isReached (Entry.millis entry)).head?
          .afterLast := by
  have nearest
      : bucket.ceiling (.including (Key.ofTime start))
        = (bucket.entries.filter fun entry => start.isReached (Entry.millis entry)).head? := by
    rw [OrderedMap.ceiling, ← List.head?_filter]
    exact congrArg List.head?
      (List.filter_congr fun entry member => (recorded entry member).not_before_ofTime start)
  rw [← nearest]
  rfl

end Bucket

namespace Scan

variable {direction : Direction} {bound : Int} {position : Position}

/-- A scan from an entry that is not accepted leaves behind it what lies in front of that entry,
wherever it ends.
-/
theorem run_leaves_behind {front : List Entry} {entry : Entry} {found : Option Observation}
    {after : Position}
    (along
      : direction.along bucket.entries
        = front ++ entry :: position.ahead direction bucket)
    (refused : selection.accept? entry = none)
    (h : run selection (.ofBucket bucket) direction bound position = (found, after))
    : after.rest selection direction.flip bucket
      = (front.filterMap selection.accept?).reverse := by
  have ending := run_ending h
  generalize position.ahead direction bucket = entries at ending along
  have refusedAll {skipped : List Entry}
      (passed : ∀ other ∈ skipped, selection.accept? other = none)
      : ∀ other ∈ entry :: skipped, selection.accept? other = none :=
    List.forall_mem_cons.mpr ⟨refused, passed⟩
  have behind {skipped : List Entry}
      (passed : ∀ other ∈ skipped, selection.accept? other = none)
      : (front ++ entry :: skipped).reverse.filterMap selection.accept?
        = (front.filterMap selection.accept?).reverse := by
    rw [List.filterMap_reverse, List.filterMap_append,
      List.filterMap_eq_nil_iff.mpr (refusedAll passed), List.append_nil]
  have way {skipped later : List Entry} {reached : Entry}
      (split : entries = skipped ++ reached :: later)
      : direction.along bucket.entries = (front ++ entry :: skipped) ++ reached :: later := by
    rw [along, split, List.append_assoc]
    rfl
  cases ending with
  | exhausted passed inside =>
      have everything := Position.ahead_nearEnd direction.flip bucket
      rw [Direction.flip_flip] at everything
      rw [Position.rest, everything, Direction.along_flip, along]
      exact behind passed
  | stopped split passed inside beyond =>
      next skipped later reached =>
        -- the step back ends at an entry that was passed over, so that no value is lost there
        obtain ⟨earlier, nearest, last⟩ :=
          (List.eq_nil_or_concat (entry :: skipped)).resolve_left (by simp)
        rw [List.concat_eq_append] at last
        have nearestRefused : selection.accept? nearest = none :=
          refusedAll passed nearest (last ▸ List.mem_append_right _ (List.mem_singleton_self _))
        have values := behind passed
        have along := way split
        rw [last, ← List.append_assoc] at values along
        rw [List.reverse_concat, List.filterMap_cons_none nearestRefused] at values
        rw [← values, Position.move_unstep along, List.getLast?_concat, Position.land,
          Position.rest]
        rw [List.append_assoc (front ++ earlier)] at along
        rw [Position.behind_standing along]
  | found split passed inside last accepted =>
      rw [Position.rest, Position.behind_standing (way split)]
      exact behind passed

/-- From the first one of entries on, a scan settles on the first value that they have. Only where it
has to pass over the entry on which it lands, a value beyond the bound is not found. What is left to
read on the way are the values after the one found, and on the way back those in front of the
entries.
-/
theorem settle_reads (recorded : bucket.Recorded thing) {front entries : List Entry}
    (along : direction.along bucket.entries = front ++ entries) {hit : Option Observation}
    {after : Position}
    (h
      : settle selection (.ofBucket bucket) direction bound
          (Position.land entries.head? direction.farEnd)
        = (hit, after))
    : hit
        = ((entries.filterMap selection.accept?).head?.filter fun value =>
            (entries.head?.bind selection.accept?).isSome
            || !direction.crosses bound value.millis)
      ∧ after.rest selection direction bucket
        = (entries.filterMap selection.accept?).drop hit.toList.length
      ∧ after.rest selection direction.flip bucket
        = (front.filterMap selection.accept?).reverse := by
  cases entries with
  | nil =>
      cases h
      have everything := Position.ahead_nearEnd direction.flip bucket
      rw [Direction.flip_flip, Direction.along_flip, along, List.append_nil] at everything
      rw [Position.rest, Position.rest, Position.ahead_farEnd, everything, List.filterMap_reverse]
      exact ⟨rfl, rfl, rfl⟩
  | cons entry later =>
      have following := Position.ahead_standing front along
      rw [List.head?_cons, Position.land, settle] at h
      rw [List.head?_cons, Option.bind_some]
      cases accepted : selection.accept? entry with
      | some value =>
          rw [accepted] at h
          cases h
          rw [Position.rest, Position.rest, following, Position.behind_standing along,
            List.filterMap_cons_some accepted, List.filterMap_reverse]
          exact ⟨by simp [Option.filter], rfl, rfl⟩
      | none =>
          rw [accepted] at h
          subst following
          obtain ⟨found, left⟩ := run_reads recorded h
          rw [Direction.due, List.head?_takeWhile] at found
          rw [List.filterMap_cons_none accepted]
          exact ⟨found, left, run_leaves_behind along accepted h⟩

end Scan

/-- A move to a time finds the first value from that time on. Only where it has to pass over the
entry on which it lands, a value later than the present is not found. What is left to read forward
are the values after the one found, and backward those before the time.
-/
theorem Scan.settle_seek_reads (recorded : bucket.Recorded thing) {position after : Position}
    {now : Int} {start : Timestamp} {hit : Option Observation}
    (h
      : settle selection (.ofBucket bucket) .forward now
          (position.move (.ofBucket bucket) (.seek (Key.ofTime start)))
        = (hit, after))
    : hit
        = ((bucket.matchingFrom start selection).head?.filter fun value =>
            (bucket.landing start selection).isSome || value.millis ≤ now)
      ∧ after.rest selection .forward bucket
        = (bucket.matchingFrom start selection).drop hit.toList.length
      ∧ after.rest selection .backward bucket
        = (bucket.matchingBefore start selection).reverse := by
  rw [Bucket.move_seek recorded] at h
  have forward : Direction.forward.along bucket.entries = _ :=
    (Bucket.entries_eq_append recorded start).symm
  obtain ⟨found, left, behind⟩ := settle_reads recorded forward h
  rw [Bucket.matchingFrom_eq recorded, Bucket.matchingBefore_eq recorded, Bucket.landing]
  simp only [Direction.not_crosses_forward] at found
  exact ⟨found, left, behind⟩

/-- What a cursor finds and leaves when it is moved to a time. -/
theorem Cursor.seek_reads (recorded : bucket.Recorded thing) {cursor after : Cursor}
    {now start : Timestamp} {hit : Option Observation}
    (h : cursor.seek (.ofBucket bucket) now start = (hit, after))
    : hit
        = ((bucket.matchingFrom start cursor.selection).head?.filter fun value =>
            (bucket.landing start cursor.selection).isSome || value.millis ≤ now.millis)
      ∧ after.selection = cursor.selection
      ∧ after.rest .forward bucket
        = (bucket.matchingFrom start cursor.selection).drop hit.toList.length
      ∧ after.rest .backward bucket = (bucket.matchingBefore start cursor.selection).reverse := by
  cases h
  obtain ⟨found, forward, backward⟩ :=
    Scan.settle_seek_reads recorded (Prod.eta _).symm
  exact ⟨found, rfl, forward, backward⟩

end ValueHistory
