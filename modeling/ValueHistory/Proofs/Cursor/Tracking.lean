import ValueHistory.Proofs.Cursor.Windows
import ValueHistory.Proofs.History.Adding

/-! Positions that track a time: they have the entries after it ahead and no others, and keep doing
so when entries after it are added. A window moves such a position on to its own bound, unless it
runs beyond the last entry.
-/

namespace ValueHistory

open KeyOrder

namespace Window

/-- Whether milliseconds lie above the bound of the last window, if there was one. -/
def isAfter (bound : Option Int) (millis : Int) : Bool :=
  bound.all fun bound => bound < millis

/-- Whether a bucket holds an entry beyond a window, so that the window does not drain it. -/
def endsWithin (window : Window) (bucket : Bucket) : Bool :=
  bucket.entries.any fun entry => window.bound.millis < Entry.millis entry

end Window

namespace Position

/-- A position that has the entries after a bound ahead and no others, and will have those to come
ahead that are after the bound as well.
-/
structure Tracks (bucket : Bucket) (bound : Option Int) (position : Position) : Prop where
  ahead : ∀ entry ∈ bucket.entries,
    position.isAhead .forward entry.1 = Window.isAfter bound (Entry.millis entry)
  rests : position.RestsIn bucket
  inside : position ≠ .afterLast

variable {thing : String} {bucket : Bucket} {bound : Option Int} {position : Position}

/-- A position that has not moved has everything ahead. -/
theorem tracks_unplaced (bucket : Bucket) : unplaced.Tracks bucket none :=
  ⟨fun _ _ => rfl, fun _ at_key => (nomatch at_key), fun same => (nomatch same)⟩

/-- A key at which such a position stands is that of an entry up to the bound. -/
theorem Tracks.exists_place {key : Bytes} (tracks : (standing key).Tracks bucket bound)
    : ∃ place ∈ bucket.entries,
        place.1 = key ∧ Window.isAfter bound (Entry.millis place) = false := by
  obtain ⟨place, member, rfl⟩ := tracks.rests key rfl
  refine ⟨place, member, rfl, ?_⟩
  rw [← tracks.ahead place member]
  exact Direction.leads_irrefl .forward place.1

/-- An entry that is added after the bound lies ahead, and what was ahead stays there. -/
theorem Tracks.insert (tracks : position.Tracks bucket bound) (recorded : bucket.Recorded thing)
    {entry : Entry} (added : entry.IsRecorded thing)
    (later : Window.isAfter bound entry.millis = true)
    : position.Tracks (bucket.insert entry.1 entry.2) bound := by
  have following {key : Bytes} (same : position = standing key)
      : ∃ place ∈ bucket.entries, place.1 = key ∧ before key entry.1 = true := by
    subst same
    obtain ⟨place, member, rfl, behind⟩ := tracks.exists_place
    refine ⟨place, member, rfl, (recorded place member).before_of_millis_lt added ?_⟩
    cases bound with
    | none => exact absurd behind (by simp [Window.isAfter])
    | some bound =>
        simp only [Window.isAfter, Option.all_some, decide_eq_true_eq,
          decide_eq_false_iff_not] at later behind
        omega
  refine ⟨fun other member => ?_, fun key same => ?_, tracks.inside⟩
  · rcases OrderedMap.mem_insert_iff.mp member with rfl | ⟨kept, _⟩
    · refine Eq.trans ?_ later.symm
      cases position with
      | unplaced | beforeFirst => rfl
      | afterLast => exact absurd rfl tracks.inside
      | standing key =>
          obtain ⟨_, _, _, front⟩ := following rfl
          exact front
    · exact tracks.ahead other kept
  · obtain ⟨place, member, rfl, front⟩ := following same
    exact ⟨place, OrderedMap.mem_insert_iff.mpr (.inr ⟨member, ne front⟩), rfl⟩

/-- A window that leaves nothing remaining ends in front of the entries after its bound, or beyond
the last entry where there is none.
-/
theorem Tracks.page (tracks : position.Tracks bucket bound) (recorded : bucket.Recorded thing)
    {window : Window} (onward : ∀ earlier ∈ bound, earlier ≤ window.bound.millis)
    {selection : Selection} {limit : Nat} {page : Page} {after : Position}
    (h
      : Scan.page selection (.ofBucket bucket) .forward window.bound.millis limit position
        = (page, after))
    (complete : page.remaining = false)
    : if Window.endsWithin window bucket then after.Tracks bucket (some window.bound.millis)
      else after = .afterLast := by
  obtain ⟨kept, drained, rests⟩ := Scan.ahead_of_complete h complete
  have left
      : ∀ entry,
          entry ∈ after.ahead .forward bucket
          ↔ entry ∈ bucket.entries ∧ window.bound.millis < Entry.millis entry := by
    intro entry
    rw [kept, Scan.mem_beyond_iff recorded, mem_ahead_iff, and_assoc]
    refine and_congr_right fun member => ?_
    rw [tracks.ahead entry member]
    cases bound with
    | none => simp [Window.isAfter, Direction.crosses]
    | some bound =>
        have earlier := onward bound rfl
        simp only [Window.isAfter, Option.all_some, Direction.crosses, decide_eq_true_eq]
        omega
  split
  · next more =>
      obtain ⟨entry, member, later⟩ := List.any_eq_true.mp more
      refine ⟨fun other otherMember => ?_, rests, ?_⟩
      · rw [Bool.eq_iff_iff, Window.isAfter, Option.all_some, decide_eq_true_eq]
        have same := (@mem_ahead_iff .forward bucket after other).symm.trans (left other)
        simpa [otherMember] using same
      · rintro rfl
        have nothing := (left entry).mpr ⟨member, by simpa using later⟩
        exact absurd nothing (by simp [Position.ahead, isAhead])
  · next none =>
      refine drained (kept ▸ List.eq_nil_iff_forall_not_mem.mpr fun entry member => none ?_)
      obtain ⟨present, later⟩ := (left entry).mp member
      exact List.any_eq_true.mpr ⟨entry, present, by simpa using later⟩

/-- What such a position has left to read are the values after the bound. -/
theorem Tracks.rest_eq (tracks : position.Tracks bucket bound) (recorded : bucket.Recorded thing)
    (selection : Selection)
    : position.rest selection .forward bucket
      = (bucket.matching selection).filter fun value => Window.isAfter bound value.millis := by
  rw [Bucket.filter_matching recorded selection (Window.isAfter bound), rest, Position.ahead]
  exact congrArg _ (List.filter_congr tracks.ahead)

end Position

/-- The values of a bucket that a selection selects up to a bound; none without a bound. -/
def Bucket.matchingUpTo (bound : Option Int) (selection : Selection) (bucket : Bucket)
    : List Observation :=
  (bucket.matching selection).filter fun value => !Window.isAfter bound value.millis

namespace Bucket

variable {thing : String} {bucket : Bucket} {bound : Option Int}

/-- An entry that is added after the bound changes nothing up to the bound. -/
theorem matchingUpTo_insert (recorded : bucket.Recorded thing) {entry : Entry}
    (added : entry.IsRecorded thing) (later : Window.isAfter bound entry.millis = true)
    (selection : Selection)
    : Bucket.matchingUpTo bound selection (bucket.insert entry.1 entry.2)
      = bucket.matchingUpTo bound selection := by
  let early (millis : Int) : Bool := !Window.isAfter bound millis
  have same
      : (bucket.insert entry.1 entry.2).entries.filter (fun other => early (Entry.millis other))
        = bucket.entries.filter fun other => early (Entry.millis other) := by
    refine OrderedMap.entries_eq_of_mem_iff ((bucket.insert entry.1 entry.2).ascending.filter _)
      (bucket.ascending.filter _) fun other => ?_
    rw [List.mem_filter, List.mem_filter, OrderedMap.mem_insert_iff]
    refine and_congr_left fun before => ?_
    have different : other.1 ≠ entry.1 := by
      intro sameKey
      have sameMillis : Entry.millis other = entry.millis := by
        rw [Entry.millis, Entry.millis, sameKey]
      rw [sameMillis] at before
      simp [early, later] at before
    constructor
    · rintro (rfl | ⟨member, _⟩)
      · exact absurd rfl different
      · exact member
    · exact fun member => .inr ⟨member, different⟩
  rw [matchingUpTo, matchingUpTo, filter_matching (recorded.insert added) selection early,
    filter_matching recorded selection early, same]

/-- A bucket that a window drains has no entry after its bound. -/
theorem millis_le_of_not_endsWithin {window : Window}
    (drains : ¬Window.endsWithin window bucket = true)
    : ∀ entry ∈ bucket.entries, Entry.millis entry ≤ window.bound.millis :=
  fun entry member => Int.not_lt.mp fun later =>
    drains (List.any_eq_true.mpr ⟨entry, member, decide_eq_true later⟩)

/-- Where no entry lies after a bound, the values up to it are all values. -/
theorem matchingUpTo_eq_matching (recorded : bucket.Recorded thing) {bound : Int}
    (all : ∀ entry ∈ bucket.entries, Entry.millis entry ≤ bound) (selection : Selection)
    : bucket.matchingUpTo (some bound) selection = bucket.matching selection := by
  refine List.filter_eq_self.mpr fun value member => ?_
  rw [matching_eq_filterMap recorded] at member
  obtain ⟨entry, present, read⟩ := List.mem_filterMap.mp member
  have less := all entry present
  rw [Window.isAfter, Option.all_some, Selection.millis_of_accept? read]
  simpa using less

/-- The values up to a bound, and those from there up to a later one, are the values up to the later
bound.
-/
theorem matchingUpTo_append (recorded : bucket.Recorded thing) (selection : Selection)
    {later : Int} (onward : ∀ earlier ∈ bound, earlier ≤ later)
    : bucket.matchingUpTo bound selection
        ++ ((bucket.matching selection).filter fun value =>
            Window.isAfter bound value.millis).filter (fun value => !decide (later < value.millis))
      = bucket.matchingUpTo (some later) selection := by
  have staged
      : (bucket.matching selection).Pairwise fun a b =>
          Window.isAfter bound a.millis = true → Window.isAfter bound b.millis = true := by
    refine (chronological_matching recorded selection).imp fun {a b} less crossed => ?_
    cases bound with
    | none => rfl
    | some bound =>
        simp only [Window.isAfter, Option.all_some, decide_eq_true_eq] at crossed ⊢
        omega
  have early
      : bucket.matchingUpTo bound selection
        = (bucket.matchingUpTo bound selection).filter fun value =>
            !decide (later < value.millis) := by
    refine (List.filter_eq_self.mpr fun value member => ?_).symm
    have before := (List.mem_filter.mp member).2
    cases bound with
    | none => simp [Window.isAfter] at before
    | some bound =>
        have less := onward bound rfl
        simp only [Window.isAfter, Option.all_some, Bool.not_eq_true',
          decide_eq_false_iff_not] at before ⊢
        omega
  rw [early, ← List.filter_append, matchingUpTo, Staged.filter_append_filter staged]
  rfl

end Bucket

-----------------------------------------------------------------------------------------
-- Additions and windows
-----------------------------------------------------------------------------------------

namespace History

variable {thing : String} {bound : Option Int}

/-- What is added in the next turn leaves the bucket of a Thing alone, or puts a recorded entry
after the bound into it.
-/
theorem bucket_add_of_after {history : History} (works : history.store.Works) {moment : Moment}
    {value : Observation}
    (later : value.thing = thing → Window.isAfter bound (value.time.getD moment.now).millis = true)
    : (history.add moment value).2.store.bucket thing = history.store.bucket thing
      ∨ ∃ entry,
          Entry.IsRecorded thing entry
          ∧ Window.isAfter bound entry.millis = true
          ∧ (history.add moment value).2.store.bucket thing
            = (history.store.bucket thing).insert entry.1 entry.2 := by
  rcases History.add_of_works works moment value with
    ⟨_, _, same⟩ | ⟨accepted, entry, stored, checked, encoded, same, _, contents⟩
  · exact .inl (by rw [same])
  · simp only [same, contents]
    split
    · next own =>
        obtain ⟨unchanged, _⟩ := Observation.check_eq_ok checked
        refine .inr ⟨entry, ⟨_, _, _, checked, own.symm, encoded⟩, ?_, by rw [own]⟩
        rw [Observation.millis_of_encode checked encoded]
        exact later (by rw [own, unchanged])
    · exact .inl rfl

/-- A value that is added after the bound changes nothing up to it. -/
theorem matchingUpTo_add {history : History} (works : history.store.Works)
    (recorded : (history.store.bucket thing).Recorded thing) {moment : Moment}
    {value : Observation}
    (later : value.thing = thing → Window.isAfter bound (value.time.getD moment.now).millis = true)
    (selection : Selection)
    : ((history.add moment value).2.store.bucket thing).matchingUpTo bound selection
      = (history.store.bucket thing).matchingUpTo bound selection := by
  rcases History.bucket_add_of_after works later with same | ⟨entry, added, after, same⟩
  · rw [same]
  · rw [same]
    exact Bucket.matchingUpTo_insert recorded added after selection

end History

namespace Position

variable {thing : String} {bound : Option Int} {position : Position}

/-- A value that is added after the bound lies ahead. -/
theorem Tracks.add {history : History} (works : history.store.Works)
    (recorded : (history.store.bucket thing).Recorded thing)
    (tracks : position.Tracks (history.store.bucket thing) bound) {moment : Moment}
    {value : Observation}
    (later : value.thing = thing → Window.isAfter bound (value.time.getD moment.now).millis = true)
    : position.Tracks ((history.add moment value).2.store.bucket thing) bound := by
  rcases History.bucket_add_of_after works later with same | ⟨entry, added, after, same⟩
  · rw [same]
    exact tracks
  · rw [same]
    exact tracks.insert recorded added after

/-- A window that leaves nothing remaining shows the values from the bound up to its own. -/
theorem Tracks.concat_page {bucket : Bucket} (recorded : bucket.Recorded thing)
    {cursor after : Cursor} (tracks : cursor.position.Tracks bucket bound) {window : Window}
    (onward : ∀ earlier ∈ bound, earlier ≤ window.bound.millis) {page : Page}
    (h : cursor.page (.ofBucket bucket) .forward window.bound window.limit = (page, after))
    (complete : page.remaining = false)
    : bucket.matchingUpTo bound cursor.selection ++ page.values
      = bucket.matchingUpTo (some window.bound.millis) cursor.selection := by
  obtain ⟨shown, _⟩ := Cursor.page_shows recorded h
  rw [Cursor.rest, tracks.rest_eq recorded] at shown
  rw [shown] at complete ⊢
  rw [← Bucket.matchingUpTo_append recorded cursor.selection onward]
  refine congrArg _ (List.take_of_length_le ?_)
  exact Nat.not_lt.mp (of_decide_eq_false complete)

end Position

/-- A window beyond the last entry is empty, and the cursor stays there. -/
theorem Cursor.page_afterLast {thing : String} {bucket : Bucket}
    (recorded : bucket.Recorded thing) {cursor after : Cursor} {window : Window} {page : Page}
    (drained : cursor.position = .afterLast)
    (h : cursor.page (.ofBucket bucket) .forward window.bound window.limit = (page, after))
    : page = ⟨[], false⟩
      ∧ after.selection = cursor.selection
      ∧ after.position = .afterLast := by
  have nothing : cursor.position.ahead .forward bucket = [] := by
    rw [drained]
    exact Position.ahead_farEnd .forward bucket
  have empty : page = ⟨[], false⟩ := by
    rw [(page_shows recorded h).1, Cursor.rest, Position.rest, nothing]
    simp [Window.page]
  obtain ⟨position, answer, rfl⟩ := page_cases h
  obtain ⟨_, still, _⟩ := Scan.ahead_of_complete answer (by rw [empty])
  exact ⟨empty, rfl, still (by rw [Scan.beyond, nothing]; rfl)⟩

end ValueHistory
