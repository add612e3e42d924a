import ValueHistory.Proofs.Cursor.Scanning

/-! Pages of values. A scan reaches the values in front of the first entry beyond its bound; a page
takes them from the front of what is left to read, tells whether there are more, and leaves the
rest. Where no entry lies beyond a value that comes after it, as among recorded entries, the values
within reach are those within the bound.
-/

namespace ValueHistory

open KeyOrder

variable {thing : String} {selection : Selection} {direction : Direction} {bound : Int}
  {bucket : Bucket} {position : Position}

/-- The values within the reach of scans: those in front of the first entry beyond their bound. -/
def Position.reach (selection : Selection) (direction : Direction) (bound : Int) (bucket : Bucket)
    (position : Position) : List Observation :=
  ((position.ahead direction bucket).takeWhile fun entry =>
    !Scan.isBeyond direction bound entry).filterMap selection.accept?

/-- Entries that are not accepted add nothing to the values. -/
theorem Selection.filterMap_append {skipped : List Entry}
    (passed : ∀ entry ∈ skipped, selection.accept? entry = none) (later : List Entry)
    : (skipped ++ later).filterMap selection.accept? = later.filterMap selection.accept? := by
  rw [List.filterMap_append, List.filterMap_eq_nil_iff.mpr passed, List.nil_append]

/-- Entries that a scan passes over add nothing to the values within its reach. -/
theorem Position.reach_of_split {skipped later : List Entry}
    (split : position.ahead direction bucket = skipped ++ later)
    (passed : ∀ entry ∈ skipped, selection.accept? entry = none)
    (inside : ∀ entry ∈ skipped, Scan.isBeyond direction bound entry = false)
    : position.reach selection direction bound bucket
      = (later.takeWhile fun entry =>
          !Scan.isBeyond direction bound entry).filterMap selection.accept? := by
  rw [reach, split, List.takeWhile_append_of_pos fun entry member => by simp [inside entry member],
    Selection.filterMap_append passed]

-----------------------------------------------------------------------------------------
-- What scans and pages reach
-----------------------------------------------------------------------------------------

namespace Scan

/-- A scan finds the first value within its reach, if there is one, and leaves the others. -/
theorem run_reaches {found : Option Observation} {after : Position}
    (h : run selection (.ofBucket bucket) direction bound position = (found, after))
    : found = (position.reach selection direction bound bucket).head?
      ∧ after.reach selection direction bound bucket
        = (position.reach selection direction bound bucket).drop found.toList.length
      ∧ after.rest selection direction bucket
        = (position.rest selection direction bucket).drop found.toList.length := by
  cases run_ending h with
  | exhausted passed inside =>
      rw [Position.reach_of_split (List.append_nil _).symm passed inside, Position.reach,
        Position.rest, Position.rest, List.filterMap_eq_nil_iff.mpr passed, Position.ahead_farEnd]
      exact ⟨rfl, rfl, rfl⟩
  | stopped split passed inside beyond =>
      obtain ⟨_, again⟩ := Position.ahead_of_split split
      rw [Position.reach_of_split split passed inside, Position.reach, Position.rest,
        Position.rest, again, split, Selection.filterMap_append passed,
        List.takeWhile_cons_of_neg (by simp [beyond])]
      exact ⟨rfl, rfl, rfl⟩
  | found split passed inside last accepted =>
      obtain ⟨following, _⟩ := Position.ahead_of_split split
      rw [Position.reach_of_split split passed inside, Position.reach, Position.rest,
        Position.rest, following, split, Selection.filterMap_append passed,
        List.takeWhile_cons_of_pos (by simp [last]), List.filterMap_cons_some accepted,
        List.filterMap_cons_some accepted]
      exact ⟨rfl, rfl, rfl⟩

/-- A step back after a scan that has found a value leaves what was left before. -/
theorem run_undone {value : Observation} {after : Position}
    (h : run selection (.ofBucket bucket) direction bound position = (some value, after))
    : (after.move (.ofBucket bucket) direction.unstep).2.rest selection direction bucket
      = position.rest selection direction bucket := by
  rw [Position.rest, Position.rest]
  cases run_ending h with
  | found split passed inside last accepted =>
      rw [(Position.ahead_of_split split).2, split, Selection.filterMap_append passed]

/-- A number of scans takes the first values within their reach, by induction on the scans. -/
theorem Taking.reaches {limit : Nat} {after : Position} {values : List Observation} {full : Bool}
    (taking : Taking selection (.ofBucket bucket) direction bound limit position values full after)
    : values = (position.reach selection direction bound bucket).take limit
      ∧ full = decide (limit ≤ (position.reach selection direction bound bucket).length)
      ∧ after.reach selection direction bound bucket
        = (position.reach selection direction bound bucket).drop values.length
      ∧ after.rest selection direction bucket
        = (position.rest selection direction bucket).drop values.length := by
  induction taking with
  | full position => simp
  | short missed =>
      obtain ⟨first, reached, left⟩ := run_reaches missed
      have nothing := List.head?_eq_none_iff.mp first.symm
      simp [nothing, reached, left]
  | more found _ ih =>
      obtain ⟨first, reached, left⟩ := run_reaches found
      obtain ⟨later, split⟩ := List.head?_eq_some_iff.mp first.symm
      obtain ⟨taken, enough, reachedLast, leftLast⟩ := ih
      rw [reached, split] at taken enough reachedLast
      rw [left] at leftLast
      refine ⟨?_, ?_, ?_, ?_⟩
      · rw [split, List.take_succ_cons, taken]
        rfl
      · rw [split, enough]
        simp
      · rw [reachedLast, split]
        simp
      · rw [leftLast, List.drop_drop]
        simp [Nat.add_comm]

/-- A page holds the first values within reach, tells whether there are more than fit, and leaves
all values that it does not hold.
-/
theorem page_reaches {limit : Nat} {page : Page} {after : Position}
    (h : Scan.page selection (.ofBucket bucket) direction bound limit position = (page, after))
    : page.values = (position.reach selection direction bound bucket).take limit
      ∧ page.remaining = decide (limit < (position.reach selection direction bound bucket).length)
      ∧ after.rest selection direction bucket
        = (position.rest selection direction bucket).drop page.values.length := by
  obtain ⟨full, next, taking, ending⟩ := page_ending h
  obtain ⟨taken, enough, reached, left⟩ := taking.reaches
  refine ⟨taken, ?_⟩
  -- the scan ahead reaches what was within reach and does not stand on the page
  have ahead (filled : full = true)
      : next.reach selection direction bound bucket
        = (position.reach selection direction bound bucket).drop limit := by
    have long := of_decide_eq_true (enough.symm.trans filled)
    rw [reached, taken, List.length_take, Nat.min_eq_left long]
  generalize page.remaining = remaining at ending ⊢
  cases ending with
  | short =>
      have short := of_decide_eq_false enough.symm
      exact ⟨(decide_eq_false (by omega)).symm, left⟩
  | complete missed =>
      obtain ⟨first, _, rest⟩ := run_reaches missed
      rw [ahead rfl, List.head?_drop] at first
      have short := List.getElem?_eq_none_iff.mp first.symm
      exact ⟨(decide_eq_false (by omega)).symm, rest.trans left⟩
  | remaining found =>
      obtain ⟨first, _⟩ := run_reaches found
      rw [ahead rfl, List.head?_drop] at first
      obtain ⟨more, _⟩ := List.getElem?_eq_some_iff.mp first.symm
      exact ⟨(decide_eq_true more).symm, (run_undone found).trans left⟩

end Scan

-----------------------------------------------------------------------------------------
-- Ways without obstructions
-----------------------------------------------------------------------------------------

/-- On the way no entry lies beyond the time of a selected value that comes after it. -/
def Bucket.Unobstructed (selection : Selection) (direction : Direction) (bucket : Bucket) : Prop :=
  (direction.along bucket.entries).Pairwise fun entry later =>
    ∀ value,
      selection.accept? later = some value
      → Scan.isBeyond direction value.millis entry = false

theorem Direction.not_crosses_forward (bound millis : Int)
    : (!forward.crosses bound millis) = decide (millis ≤ bound) :=
  decide_not.symm.trans (decide_eq_decide.mpr Int.not_lt)

/-- The values up to the first one beyond a bound. -/
def Direction.due (direction : Direction) (bound : Int) (values : List Observation)
    : List Observation :=
  values.takeWhile fun value => !direction.crosses bound value.millis

theorem Direction.due_eq_nil {values : List Observation}
    (beyond : ∀ value ∈ values, direction.crosses bound value.millis = true)
    : direction.due bound values = [] := by
  cases values with
  | nil => rfl
  | cons value later =>
      exact List.takeWhile_cons_of_neg (by simp [beyond value List.mem_cons_self])

/-- Where an entry is beyond a bound, a time that the entry is not beyond is beyond the bound too.
-/
theorem Scan.crosses_of_isBeyond {entry : Entry} {millis : Int}
    (beyond : isBeyond direction bound entry = true)
    (inside : isBeyond direction millis entry = false)
    : direction.crosses bound millis = true := by
  cases parsed : Key.parse? entry.1 with
  | none => simp [isBeyond, parsed] at beyond
  | some key =>
      simp only [isBeyond, parsed, Option.any_some] at beyond inside
      cases direction <;> simp only [Direction.crosses, decide_eq_true_eq, decide_eq_false_iff_not]
        at beyond inside ⊢ <;> omega

namespace Bucket.Unobstructed

/-- An obstruction may only lie ahead of a position where there is one on the way. -/
theorem ahead (clear : bucket.Unobstructed selection direction) (position : Position)
    : (position.ahead direction bucket).Pairwise fun entry later =>
        ∀ value,
          selection.accept? later = some value
          → Scan.isBeyond direction value.millis entry = false :=
  clear.filter _

/-- Without obstructions scans reach the values that are due, by induction on the entries ahead. -/
theorem reach_eq_due (clear : bucket.Unobstructed selection direction) (bound : Int)
    (position : Position)
    : position.reach selection direction bound bucket
      = direction.due bound (position.rest selection direction bucket) := by
  have ordered := clear.ahead position
  rw [Position.reach, Position.rest]
  generalize position.ahead direction bucket = entries at ordered ⊢
  induction entries with
  | nil => rfl
  | cons entry later ih =>
      obtain ⟨first, ordered⟩ := List.pairwise_cons.mp ordered
      cases beyond : Scan.isBeyond direction bound entry with
      | true =>
          rw [List.takeWhile_cons_of_neg (by simp [beyond]), List.filterMap_nil,
            Direction.due_eq_nil]
          intro value read
          obtain ⟨origin, member, accepted⟩ := List.mem_filterMap.mp read
          rcases List.mem_cons.mp member with rfl | following
          · rw [← Scan.isBeyond_of_accept? accepted]
            exact beyond
          · exact Scan.crosses_of_isBeyond beyond (first origin following value accepted)
      | false =>
          rw [List.takeWhile_cons_of_pos (by simp [beyond])]
          cases accepted : selection.accept? entry with
          | none =>
              rw [List.filterMap_cons_none accepted, List.filterMap_cons_none accepted]
              exact ih ordered
          | some value =>
              rw [Scan.isBeyond_of_accept? accepted] at beyond
              rw [List.filterMap_cons_some accepted, List.filterMap_cons_some accepted,
                Direction.due, List.takeWhile_cons_of_pos (by simp [beyond])]
              exact congrArg (value :: ·) (ih ordered)

/-- Without obstructions the values due are those within the bound. -/
theorem due_rest (clear : bucket.Unobstructed selection direction) (bound : Int)
    (position : Position)
    : direction.due bound (position.rest selection direction bucket)
      = (position.rest selection direction bucket).filter fun value =>
          !direction.crosses bound value.millis := by
  refine Staged.takeWhile_eq_filter (List.pairwise_filterMap.mpr ((clear.ahead position).imp ?_))
  intro entry later crossing value read other otherRead beyond
  rw [← Scan.isBeyond_of_accept? read] at beyond
  exact Scan.crosses_of_isBeyond beyond (crossing other otherRead)

end Bucket.Unobstructed

-----------------------------------------------------------------------------------------
-- Recorded entries
-----------------------------------------------------------------------------------------

namespace Entry.IsRecorded

theorem isBeyond_eq {entry : Entry} (recorded : entry.IsRecorded thing) (direction : Direction)
    (bound : Int)
    : Scan.isBeyond direction bound entry = direction.crosses bound entry.millis := by
  obtain ⟨_, _, _, parsed, _⟩ := recorded.exists_millis
  simp [Scan.isBeyond, Entry.millis, parsed]

end Entry.IsRecorded

namespace Bucket.Recorded

/-- On either way recorded entries stand in the order of their times. -/
theorem chronological_along (recorded : bucket.Recorded thing) (direction : Direction)
    : (direction.along bucket.entries).Pairwise fun entry later =>
        direction.crosses (Entry.millis later) (Entry.millis entry) = false := by
  have times := chronological recorded
  cases direction with
  | forward => exact times.imp fun less => decide_eq_false (Int.not_lt.mpr less)
  | backward =>
      exact List.pairwise_reverse.mpr (times.imp fun less => decide_eq_false (Int.not_lt.mpr less))

/-- Recorded entries obstruct nothing. -/
theorem unobstructed (recorded : bucket.Recorded thing) (selection : Selection)
    (direction : Direction)
    : bucket.Unobstructed selection direction := by
  refine (recorded.chronological_along direction).imp_of_mem ?_
  intro entry later member _ ordered value accepted
  rw [(recorded entry (Direction.mem_along.mp member)).isBeyond_eq,
    Selection.millis_of_accept? accepted]
  exact ordered

end Bucket.Recorded

/-- Once a recorded entry on the way lies beyond a bound, all after it do. -/
theorem Position.staged_ahead (recorded : bucket.Recorded thing) (direction : Direction)
    (bound : Int) (position : Position)
    : (position.ahead direction bucket).Pairwise fun a b =>
        Scan.isBeyond direction bound a = true → Scan.isBeyond direction bound b = true := by
  refine ((recorded.chronological_along direction).filter _).imp_of_mem ?_
  intro a b aMember bMember ordered beyond
  have aRecorded := recorded a (mem_ahead_iff.mp aMember).1
  have bRecorded := recorded b (mem_ahead_iff.mp bMember).1
  rw [bRecorded.isBeyond_eq]
  exact Scan.crosses_of_isBeyond beyond ((aRecorded.isBeyond_eq ..).trans ordered)

namespace Scan

/-- Among recorded entries a scan finds the first value that is due, if there is one, and leaves the
others.
-/
theorem run_reads (recorded : bucket.Recorded thing) {found : Option Observation}
    {after : Position}
    (h : run selection (.ofBucket bucket) direction bound position = (found, after))
    : found = (direction.due bound (position.rest selection direction bucket)).head?
      ∧ after.rest selection direction bucket
        = (position.rest selection direction bucket).drop found.toList.length := by
  obtain ⟨first, _, left⟩ := run_reaches h
  rw [(recorded.unobstructed selection direction).reach_eq_due] at first
  exact ⟨first, left⟩

-----------------------------------------------------------------------------------------
-- Where a complete page ends
-----------------------------------------------------------------------------------------

/-- The entries ahead of a position from the first one beyond a bound on. -/
def beyond (direction : Direction) (bound : Int) (bucket : Bucket) (position : Position)
    : List Entry :=
  (position.ahead direction bucket).dropWhile fun entry => !isBeyond direction bound entry

theorem mem_beyond_iff (recorded : bucket.Recorded thing) {entry : Entry}
    : entry ∈ beyond direction bound bucket position
      ↔ entry ∈ position.ahead direction bucket
        ∧ direction.crosses bound (Entry.millis entry) = true := by
  rw [beyond, Staged.dropWhile_eq_filter (position.staged_ahead recorded direction bound),
    List.mem_filter]
  refine and_congr_right fun member => ?_
  rw [(recorded entry (Position.mem_ahead_iff.mp member).1).isBeyond_eq]

/-- Entries that a scan passes over are not beyond the bound. -/
theorem beyond_of_split {skipped later : List Entry}
    (split : position.ahead direction bucket = skipped ++ later)
    (inside : ∀ entry ∈ skipped, isBeyond direction bound entry = false)
    : beyond direction bound bucket position
      = later.dropWhile fun entry => !isBeyond direction bound entry := by
  rw [beyond, split, List.dropWhile_append_of_pos fun entry member => by simp [inside entry member]]

/-- A scan that finds something leaves all entries beyond the bound where they were. -/
theorem beyond_of_found {value : Observation} {after : Position}
    (h : run selection (.ofBucket bucket) direction bound position = (some value, after))
    : beyond direction bound bucket after = beyond direction bound bucket position := by
  cases run_ending h with
  | found split passed inside last accepted =>
      rw [beyond_of_split split inside, List.dropWhile_cons_of_pos (by simp [last]), beyond,
        (Position.ahead_of_split split).1]

/-- A scan that finds nothing ends in front of the first entry beyond the bound, or beyond the far
end where there is no such entry.
-/
theorem ahead_of_not_found {after : Position}
    (h : run selection (.ofBucket bucket) direction bound position = (none, after))
    : after.ahead direction bucket = beyond direction bound bucket position
      ∧ (beyond direction bound bucket position = [] → after = direction.farEnd)
      ∧ after.RestsIn bucket := by
  cases run_ending h with
  | exhausted passed inside =>
      rw [beyond_of_split (List.append_nil _).symm inside, Position.ahead_farEnd]
      exact ⟨rfl, fun _ => rfl, Position.restsIn_farEnd direction bucket⟩
  | stopped split passed inside reached =>
      rw [beyond_of_split split inside, List.dropWhile_cons_of_neg (by simp [reached]),
        (Position.ahead_of_split split).2]
      refine ⟨rfl, fun nothing => absurd nothing (by simp), ?_⟩
      rw [Direction.unstep_eq]
      exact Position.restsIn_move_step direction.flip bucket _

/-- A number of scans leaves the entries beyond the bound where they were, and the last scan finds
nothing where the number is not reached. By induction on the scans.
-/
theorem Taking.stops {limit : Nat} {after : Position} {values : List Observation} {full : Bool}
    (taking : Taking selection (.ofBucket bucket) direction bound limit position values full after)
    : ∃ last,
        beyond direction bound bucket last = beyond direction bound bucket position
        ∧ (full = true → after = last)
        ∧ (full = false
            → run selection (.ofBucket bucket) direction bound last = (none, after)) := by
  induction taking with
  | full position => exact ⟨position, rfl, fun _ => rfl, fun less => (nomatch less)⟩
  | short missed => exact ⟨_, rfl, fun more => (nomatch more), fun _ => missed⟩
  | more found _ ih =>
      obtain ⟨last, same, reached, stopped⟩ := ih
      exact ⟨last, same.trans (beyond_of_found found), reached, stopped⟩

/-- A page with no values remaining ends in front of the first entry beyond the bound, or beyond
the far end where there is no such entry.
-/
theorem ahead_of_complete {limit : Nat} {page : Page} {after : Position}
    (h : Scan.page selection (.ofBucket bucket) direction bound limit position = (page, after))
    (complete : page.remaining = false)
    : after.ahead direction bucket = beyond direction bound bucket position
      ∧ (beyond direction bound bucket position = [] → after = direction.farEnd)
      ∧ after.RestsIn bucket := by
  obtain ⟨full, next, taking, ending⟩ := page_ending h
  obtain ⟨last, same, reached, stopped⟩ := taking.stops
  rw [complete] at ending
  rw [← same]
  cases ending with
  | short => exact ahead_of_not_found (stopped rfl)
  | complete missed => exact ahead_of_not_found (reached rfl ▸ missed)

end Scan

end ValueHistory
