import Mathlib.Data.List.TakeWhile
import ValueHistory.Proofs.Cursor.Returning

/-! Where a page leaves its cursor, and what a step back shows from there. A page that does not run
off the end stops at an entry behind its final value and takes one step back. That puts the cursor
on the final value only if nothing was passed over in between; otherwise it stands behind the value,
and a step the other way shows the value again.
-/

namespace ValueHistory

open KeyOrder

variable {thing : String} {selection : Selection} {direction : Direction} {bucket : Bucket}

-----------------------------------------------------------------------------------------
-- Where a page stops
-----------------------------------------------------------------------------------------

/-- The entry on which a page is to leave a cursor: that of its final value, or the one at which the
page began if it is empty.
-/
def Entry.IsMark (selection : Selection) (place : Entry) (values : List Observation)
    (mark : Entry) : Prop :=
  match values.getLast? with
  | none => mark = place
  | some value => selection.accept? mark = some value

namespace Scan

variable {bound : Int} {place mark : Entry} {after : Position}

/-- A scan that goes on from an entry passes over the next one, which is neither selected nor beyond
the bound.
-/
def PassesFrom (selection : Selection) (direction : Direction) (bound : Int) (bucket : Bucket)
    (mark : Entry) : Prop :=
  ∃ entry,
    ((Position.standing mark.1).ahead direction bucket).head? = some entry
    ∧ selection.accept? entry = none
    ∧ isBeyond direction bound entry = false

/-- Scans in turn from an entry bring the cursor to the mark of their values, by induction on the
scans. The last one goes on from the mark and finds nothing, where the number is not reached.
-/
theorem Taking.exists_mark {limit : Nat} {position : Position} {values : List Observation}
    {full : Bool}
    (taking : Taking selection (.ofBucket bucket) direction bound limit position values full after)
    (stored : place ∈ bucket.entries) (standing : position = .standing place.1)
    : ∃ mark ∈ bucket.entries,
        Entry.IsMark selection place values mark
        ∧ (full = true → after = .standing mark.1)
        ∧ (full = false
            → run selection (.ofBucket bucket) direction bound (.standing mark.1)
              = (none, after)) := by
  induction taking generalizing place with
  | full position => exact ⟨place, stored, rfl, fun _ => standing, fun less => (nomatch less)⟩
  | short missed =>
      subst standing
      exact ⟨place, stored, rfl, fun more => (nomatch more), fun _ => missed⟩
  | @more limit position next after value values full found _ ih =>
      cases run_ending found with
      | @found skipped later entry value split passed inside last accepted =>
          have ahead : entry ∈ position.ahead direction bucket :=
            split ▸ List.mem_append_right _ List.mem_cons_self
          obtain ⟨mark, member, own, reached⟩ := ih (Position.mem_ahead_iff.mp ahead).1 rfl
          refine ⟨mark, member, ?_, reached⟩
          rw [Entry.IsMark, List.getLast?_cons]
          rw [Entry.IsMark] at own
          cases final : values.getLast? with
          | none =>
              rw [final] at own
              subst own
              exact accepted
          | some other =>
              rw [final] at own
              exact own

/-- How a page stops that does not run off the end: from its mark on, a scan passes over entries and
meets one that is selected or beyond the bound, from which it takes one step back.
-/
inductive Stop (selection : Selection) (direction : Direction) (bound : Int) (bucket : Bucket)
    (mark : Entry) (after : Position) : Prop where
  | undone {skipped later : List Entry} {entry : Entry}
      (split
        : (Position.standing mark.1).ahead direction bucket = skipped ++ entry :: later)
      (passed : ∀ other ∈ skipped, selection.accept? other = none)
      (inside : ∀ other ∈ skipped, isBeyond direction bound other = false)
      (met : selection.accept? entry = none → isBeyond direction bound entry = true)
      (back
        : after = ((Position.standing entry.1).move (.ofBucket bucket) direction.unstep).2)
    : Stop selection direction bound bucket mark after

/-- A page that begins at an entry stops after its mark, unless it runs off the end. -/
theorem page_ends {limit : Nat} {page : Page}
    (h
      : Scan.page selection (.ofBucket bucket) direction bound limit (.standing place.1)
        = (page, after))
    (stored : place ∈ bucket.entries)
    : ∃ mark ∈ bucket.entries,
        Entry.IsMark selection place page.values mark
        ∧ (Stop selection direction bound bucket mark after
          ∨ page.remaining = false ∧ after = direction.farEnd) := by
  obtain ⟨full, next, taking, ending⟩ := page_ending h
  obtain ⟨mark, member, own, reached, stopped⟩ := taking.exists_mark stored rfl
  refine ⟨mark, member, own, ?_⟩
  have missing
      (missed
        : run selection (.ofBucket bucket) direction bound (.standing mark.1) = (none, after))
      : Stop selection direction bound bucket mark after ∨ after = direction.farEnd := by
    cases run_ending missed with
    | exhausted => exact .inr rfl
    | stopped split passed inside beyond =>
        exact .inl (.undone split passed inside (fun _ => beyond) rfl)
  generalize page.remaining = remaining at ending
  cases ending with
  | short => exact (missing (stopped rfl)).imp_right fun ended => ⟨rfl, ended⟩
  | complete missed =>
      rw [reached rfl] at missed
      exact (missing missed).imp_right fun ended => ⟨rfl, ended⟩
  | remaining found =>
      rw [reached rfl] at found
      cases run_ending found with
      | found split passed inside last accepted =>
          refine .inl (.undone split passed inside (fun refused => ?_) rfl)
          cases refused.symm.trans accepted

/-- Where more values remain or an entry ahead lies beyond the bound, a page does not run off the
end.
-/
theorem page_stops {limit : Nat} {page : Page}
    (h
      : Scan.page selection (.ofBucket bucket) direction bound limit (.standing place.1)
        = (page, after))
    (stored : place ∈ bucket.entries)
    (within
      : page.remaining = true
        ∨ ∃ entry ∈ (Position.standing place.1).ahead direction bucket,
            isBeyond direction bound entry = true)
    : ∃ mark ∈ bucket.entries,
        Entry.IsMark selection place page.values mark
        ∧ Stop selection direction bound bucket mark after := by
  obtain ⟨mark, member, own, stop | ⟨complete, ended⟩⟩ := page_ends h stored
  · exact ⟨mark, member, own, stop⟩
  · rcases within with more | ⟨entry, ahead, reached⟩
    · cases complete.symm.trans more
    · obtain ⟨left, _⟩ := ahead_of_complete h complete
      rw [ended, Position.ahead_farEnd, eq_comm, beyond, List.dropWhile_eq_nil_iff] at left
      exact absurd (left entry ahead) (by simp [reached])

/-- On the way back from an entry the value of another one comes first, if what lies between the two
is not accepted, and then the values in front of that one.
-/
theorem rest_behind {front between later : List Entry} {nearest : Entry}
    (along
      : direction.along bucket.entries = (front ++ mark :: between) ++ nearest :: later)
    (passed : ∀ other ∈ between, selection.accept? other = none)
    : (Position.standing nearest.1).rest selection direction.flip bucket
      = (selection.accept? mark).toList
        ++ (Position.standing mark.1).rest selection direction.flip bucket := by
  have behind := Position.behind_standing along
  rw [List.append_assoc, List.cons_append] at along
  rw [Position.rest, Position.rest, behind, Position.behind_standing along, List.reverse_append,
    List.reverse_cons, List.append_assoc, List.singleton_append, Selection.filterMap_append,
    selection.filterMap_cons]
  intro other member
  exact passed other (List.mem_reverse.mp member)

/-- A page that stops after its mark leaves the cursor on the mark if the scan passes over nothing
from there. Otherwise it leaves the cursor behind the mark, with the value of the mark nearest on
the way back.
-/
theorem Stop.leaves (stop : Stop selection direction bound bucket mark after)
    (stored : mark ∈ bucket.entries)
    : ¬PassesFrom selection direction bound bucket mark ∧ after = .standing mark.1
      ∨ PassesFrom selection direction bound bucket mark
        ∧ after ≠ .standing mark.1
        ∧ after.rest selection direction.flip bucket
          = (selection.accept? mark).toList
            ++ (Position.standing mark.1).rest selection direction.flip bucket := by
  have member : mark ∈ direction.along bucket.entries := Direction.mem_along.mpr stored
  obtain ⟨front, rest, along⟩ := List.append_of_mem member
  cases stop with
  | @undone skipped later entry split passed inside met back =>
      have ahead := Position.ahead_standing front along
      rw [split] at ahead
      subst ahead
      -- the step back ends at the last entry that was passed over, or else at the mark
      rcases List.eq_nil_or_concat skipped with rfl | ⟨between, nearest, rfl⟩
      · rw [List.nil_append] at split along
        rw [List.append_cons] at along
        rw [Position.move_unstep along, List.getLast?_concat, Position.land] at back
        refine .inl ⟨?_, back⟩
        rintro ⟨next, first, refused, inside⟩
        rw [split] at first
        cases first
        exact Bool.false_ne_true (inside.symm.trans (met refused))
      · rw [List.concat_eq_append] at split passed inside along
        have last : nearest ∈ between ++ [nearest] :=
          List.mem_append_right _ (List.mem_singleton_self _)
        have way
            : direction.along bucket.entries
              = (front ++ mark :: between) ++ nearest :: (entry :: later) := by
          rw [along]
          simp
        have further := way
        rw [List.append_cons] at further
        rw [Position.move_unstep further, List.getLast?_concat, Position.land] at back
        refine .inr ⟨?_, fun same => ?_, ?_⟩
        · obtain ⟨first, others, front⟩ := List.exists_cons_of_ne_nil (List.ne_nil_of_mem last)
          have own : first ∈ between ++ [nearest] := front ▸ List.mem_cons_self
          rw [front] at split
          exact ⟨first, congrArg List.head? split, passed first own, inside first own⟩
        · have ahead := split ▸ List.mem_append_left (entry :: later) last
          have leads : direction.leads mark.1 nearest.1 = true :=
            (Position.mem_ahead_iff.mp ahead).2
          rw [Position.standing.inj (back.symm.trans same), Direction.leads_irrefl] at leads
          exact Bool.false_ne_true leads
        · rw [back]
          exact rest_behind way fun other member => passed other (List.mem_append_left _ member)

end Scan

-----------------------------------------------------------------------------------------
-- What a step shows
-----------------------------------------------------------------------------------------

/-- Whether a step shows a value: one forward does not show those later than the present. -/
def Direction.shows (now : Timestamp) (value : Observation) : Direction → Bool
  | forward => value.millis ≤ now.millis
  | backward => true

/-- On every way there is a walk. -/
theorem Direction.exists_start (direction : Direction)
    : ∃ start : Start, start.direction = direction := by
  cases direction with
  | forward => exact ⟨.first, rfl⟩
  | backward => exact ⟨.last, rfl⟩

/-- A step shows the values of recorded entries that do not lie beyond its bound. -/
theorem Bucket.Recorded.shows_eq (recorded : bucket.Recorded thing) (start : Start)
    (now : Timestamp) {position : Position} {value : Observation}
    (read : value ∈ position.rest selection start.direction bucket)
    : start.direction.shows now value
      = !start.direction.crosses (start.bound now).millis value.millis := by
  obtain ⟨entry, member, accepted⟩ := List.mem_filterMap.mp read
  have inside := (recorded entry (Position.mem_ahead_iff.mp member).1).millis_nonneg
  rw [← Selection.millis_of_accept? accepted] at inside
  cases start with
  | first | since => exact (Direction.not_crosses_forward ..).symm
  | last => exact (congrArg not (decide_eq_false (Int.not_lt.mpr inside))).symm

/-- Of the values on its way a step shows the first one that it may show. -/
theorem Cursor.advance_shows (recorded : bucket.Recorded thing) (direction : Direction)
    (cursor : Cursor) (now : Timestamp)
    : (cursor.advance direction (.ofBucket bucket) now).1
      = ((cursor.rest direction bucket).filter fun value => direction.shows now value).head? := by
  obtain ⟨start, rfl⟩ := direction.exists_start
  rw [← start.advance_eq_cursor, start.advance_eq, Cursor.rest]
  rcases scanned
    : Scan.run cursor.selection (.ofBucket bucket) start.direction (start.bound now).millis
        cursor.position
    with ⟨found, after⟩
  obtain ⟨first, _⟩ := Scan.run_reads recorded scanned
  rw [(recorded.unobstructed ..).due_rest] at first
  rw [List.filter_congr fun value read => recorded.shows_eq start now read]
  exact first

/-- The values that a step may show come before the others. -/
theorem Position.head?_filter_shows (recorded : bucket.Recorded thing) (selection : Selection)
    (direction : Direction) (position : Position) (now : Timestamp)
    : ((position.rest selection direction bucket).filter fun value =>
          direction.shows now value).head?
      = (position.rest selection direction bucket).head?.filter fun value =>
          direction.shows now value := by
  obtain ⟨start, rfl⟩ := direction.exists_start
  rw [List.filter_congr fun value read => recorded.shows_eq start now read,
    ← (recorded.unobstructed ..).due_rest, Direction.due, List.head?_takeWhile]
  cases first : (position.rest selection start.direction bucket).head? with
  | none => rfl
  | some value =>
      rw [Option.filter_some, Option.filter_some,
        recorded.shows_eq start now (List.mem_of_head? first)]

namespace Cursor

variable {cursor after : Cursor} {place mark : Entry} {window : Window} {page : Page}

/-- The value that a step from an entry shows: the next one on the way, if the step may show it. -/
def following (selection : Selection) (direction : Direction) (now : Timestamp) (bucket : Bucket)
    (mark : Entry) : Option Observation :=
  ((Position.standing mark.1).rest selection direction bucket).head?.filter fun value =>
    direction.shows now value

theorem advance_of_standing (recorded : bucket.Recorded thing)
    (standing : cursor.position = .standing mark.1) (direction : Direction) (now : Timestamp)
    : (cursor.advance direction (.ofBucket bucket) now).1
      = following cursor.selection direction now bucket mark := by
  rw [advance_shows recorded, rest, Position.head?_filter_shows recorded, standing, following]

/-- The value of a recorded entry is not the next one on the way from it. -/
theorem following_ne (recorded : bucket.Recorded thing) (stored : mark ∈ bucket.entries)
    {value : Observation} (accepted : selection.accept? mark = some value) (direction : Direction)
    (now : Timestamp)
    : following selection direction now bucket mark ≠ some value := by
  intro next
  have first := (Option.filter_eq_some_iff.mp next).1
  obtain ⟨other, ahead, again⟩ := List.mem_filterMap.mp (List.mem_of_head? first)
  obtain ⟨member, leads⟩ := Position.mem_ahead_iff.mp ahead
  obtain ⟨time, known, key⟩ := (recorded mark stored).key_of_accept? accepted
  obtain ⟨otherTime, otherKnown, otherKey⟩ := (recorded other member).key_of_accept? again
  cases known.symm.trans otherKnown
  rw [otherKey, ← key] at leads
  exact absurd leads (by simp [Position.isAhead, Direction.leads_irrefl])

section

-- the cursor stands behind the mark, and nothing that is accepted lies between them
variable (recorded : bucket.Recorded thing)
  (behind
    : cursor.rest direction bucket
      = (cursor.selection.accept? mark).toList
        ++ (Position.standing mark.1).rest cursor.selection direction bucket)

include recorded behind

/-- A step from behind an entry shows its value, if it may, and otherwise what a step from it shows.
-/
theorem advance_past (now : Timestamp)
    : (cursor.advance direction (.ofBucket bucket) now).1
      = ((cursor.selection.accept? mark).filter fun value => direction.shows now value).or
          (following cursor.selection direction now bucket mark) := by
  rw [advance_shows recorded, behind, List.filter_append, List.head?_append,
    Position.head?_filter_shows recorded, following]
  cases cursor.selection.accept? mark with
  | none => rfl
  | some value => cases shown : direction.shows now value <;> simp [shown, Option.filter]

theorem advance_past_of_shows {now : Timestamp} {value : Observation}
    (accepted : cursor.selection.accept? mark = some value)
    (shown : direction.shows now value = true)
    : (cursor.advance direction (.ofBucket bucket) now).1 = some value := by
  rw [advance_past recorded behind, accepted, Option.filter_some, if_pos shown, Option.some_or]

/-- A step from behind a recorded entry shows what a step from it shows exactly if it may not show a
value of the entry.
-/
theorem advance_past_iff (stored : mark ∈ bucket.entries) (now : Timestamp)
    : (cursor.advance direction (.ofBucket bucket) now).1
        = following cursor.selection direction now bucket mark
      ↔ ¬∃ value,
          cursor.selection.accept? mark = some value ∧ direction.shows now value = true := by
  constructor
  · intro same ⟨value, accepted, shown⟩
    rw [advance_past_of_shows recorded behind accepted shown] at same
    exact following_ne recorded stored accepted direction now same.symm
  · intro hidden
    have none
        : ((cursor.selection.accept? mark).filter fun value => direction.shows now value)
          = none := by
      refine Option.filter_eq_none_iff.mpr fun value accepted shown => ?_
      exact hidden ⟨value, accepted, shown⟩
    rw [advance_past recorded behind, none, Option.none_or]

end

/-- A page that begins at a recorded entry and does not run off the end of the history has a mark:
the entry of its final value, or the one at which it began if it is empty. It leaves the cursor on
the mark exactly if the scan passes over nothing from there. A step back shows the next value in
front of the mark, unless the scan passes over something and the step may show the value of the
mark: then it shows this value again. Witness: the page stops at its last value or one step behind
it, by the way its last scan ends.
-/
theorem page_turned_back (recorded : bucket.Recorded thing) (stored : place ∈ bucket.entries)
    (standing : cursor.position = .standing place.1)
    (h : cursor.page (.ofBucket bucket) direction window.bound window.limit = (page, after))
    (within
      : page.remaining = true
        ∨ ∃ entry ∈ cursor.position.ahead direction bucket,
            Scan.isBeyond direction window.bound.millis entry = true)
    : ∃ mark ∈ bucket.entries,
        Entry.IsMark cursor.selection place page.values mark
        ∧ (after.position = .standing mark.1
          ↔ ¬Scan.PassesFrom cursor.selection direction window.bound.millis bucket mark)
        ∧ ∀ now,
            ((after.advance direction.flip (.ofBucket bucket) now).1
                = following cursor.selection direction.flip now bucket mark
              ↔ ¬(Scan.PassesFrom cursor.selection direction window.bound.millis bucket mark
                  ∧ ∃ value,
                      cursor.selection.accept? mark = some value
                      ∧ direction.flip.shows now value = true))
            ∧ ∀ value,
                cursor.selection.accept? mark = some value
                → direction.flip.shows now value = true
                → ((after.advance direction.flip (.ofBucket bucket) now).1 = some value
                  ↔ Scan.PassesFrom cursor.selection direction window.bound.millis bucket mark) := by
  obtain ⟨position, scanned, rfl⟩ := page_cases h
  rw [standing] at scanned within
  obtain ⟨mark, member, own, stop⟩ := Scan.page_stops scanned stored within
  refine ⟨mark, member, own, ?_⟩
  rcases stop.leaves member with ⟨none, reached⟩ | ⟨passes, missed, behind⟩
  · have answer (now : Timestamp) :=
      @advance_of_standing _ _ { cursor with position } _ recorded reached direction.flip now
    refine ⟨iff_of_true reached none, fun now => ⟨?_, fun value accepted _ => ?_⟩⟩
    · exact iff_of_true (answer now) fun both => none both.1
    · rw [answer now]
      exact iff_of_false (following_ne recorded member accepted _ now) none
  · refine ⟨iff_of_false missed (not_not_intro passes), fun now => ⟨?_, ?_⟩⟩
    · rw [and_iff_right passes]
      exact @advance_past_iff _ _ _ { cursor with position } _ recorded behind member now
    · intro value accepted shown
      refine iff_of_true ?_ passes
      exact @advance_past_of_shows _ _ _ { cursor with position } _ recorded behind now _ accepted
        shown

end Cursor

namespace Bucket

/-- A lamp whose switch was set when 1970 began, and one and three seconds later, and its brightness
in between.
-/
def steadyLamp : Bucket :=
  ⟨[lampEntry "on" 0, lampEntry "on" 1, lampEntry "bright" 2, lampEntry "on" 3], by decide⟩

theorem recorded_steadyLamp : steadyLamp.Recorded "lamp" := by
  refine List.forall_mem_cons.mpr ⟨isRecorded_lampEntry rfl, ?_⟩
  refine List.forall_mem_cons.mpr ⟨isRecorded_lampEntry rfl, ?_⟩
  refine List.forall_mem_cons.mpr ⟨isRecorded_lampEntry rfl, ?_⟩
  exact List.forall_mem_singleton.mpr (isRecorded_lampEntry rfl)

end Bucket

/-- A page of one value that begins at the first setting of the switch shows the second one. The
step back shows it again, and not the first one.
-/
theorem switch_shown_again
    : Bucket.steadyLamp.Recorded "lamp"
      ∧ ∃ after,
          (Cursor.mk (.of "lamp" (some "on")) (.standing (Bucket.lampEntry "on" 0).1)).page
              (.ofBucket Bucket.steadyLamp) .forward (Timestamp.epoch.addSeconds 5) 1
            = (⟨[.ofLamp "on" (Timestamp.epoch.addSeconds 1)], true⟩, after)
          ∧ (after.prev (.ofBucket Bucket.steadyLamp)).1
            = some (.ofLamp "on" (Timestamp.epoch.addSeconds 1)) := by
  have only
      : ∀ mark ∈ Bucket.steadyLamp.entries,
          ((Selection.of "lamp" (some "on")).accept? mark).map Observation.millis = some 1000
          → mark = Bucket.lampEntry "on" 1 := by
    decide
  have passes
      : Scan.PassesFrom (.of "lamp" (some "on")) .forward 5000 Bucket.steadyLamp
          (Bucket.lampEntry "on" 1) :=
    ⟨Bucket.lampEntry "bright" 2, rfl, rfl, rfl⟩
  refine ⟨Bucket.recorded_steadyLamp, _, rfl, ?_⟩
  obtain ⟨mark, member, own, _, steps⟩ :=
    @Cursor.page_turned_back _ .forward _
      ⟨.of "lamp" (some "on"), .standing (Bucket.lampEntry "on" 0).1⟩ _ _
      ⟨Timestamp.epoch.addSeconds 5, 1⟩ _ Bucket.recorded_steadyLamp (.head _) rfl rfl (.inl rfl)
  cases only mark member (congrArg (Option.map Observation.millis) own)
  exact ((steps .epoch).2 _ own rfl).mpr passes

end ValueHistory
