import ValueHistory.Proofs.Cursor.Obstruction

/-! Cursors on the values of one name, against cursors on all values of a Thing. Both meet the same
entries up to the same bound, whatever the bucket holds. So a walk at one time, or the pages up to
one time, show the values of the name that a cursor on all values shows, in the same order.
-/

namespace ValueHistory

variable {thing name : String} {bucket : Bucket} {selection : Selection} {direction : Direction}

-----------------------------------------------------------------------------------------
-- What a name selects
-----------------------------------------------------------------------------------------

namespace Selection

/-- The selection of a name accepts the values of this name from the entries that can be read. -/
theorem accept?_named (named : name ≠ "") (entry : Entry)
    : (Selection.of thing (some name)).accept? entry
      = ((Selection.of thing none).accept? entry).filter fun value => value.name = name := by
  have own : Selection.of thing (some name) = { thing, name := some name } := by
    simp [of, Option.filter, named]
  have all : Selection.of thing none = { thing, name := none } := rfl
  rw [own, all]
  cases parsed : Key.parse? entry.1 with
  | none => simp [accept?, parsed]
  | some key =>
      simp only [accept?, parsed, selects, if_true]
      cases decoded : Entry.decode thing entry with
      | error failure => simp
      | ok found =>
          cases found with
          | none => simp
          | some value =>
              obtain ⟨_, same, _⟩ := Entry.decode_of_parse? parsed decoded
              simp [Option.filter, same, eq_comm]

theorem filterMap_named (named : name ≠ "") (entries : List Entry)
    : entries.filterMap (Selection.of thing (some name)).accept?
      = (entries.filterMap (Selection.of thing none).accept?).filter fun value =>
          value.name = name := by
  rw [List.filter_filterMap]
  exact List.filterMap_congr fun entry _ => accept?_named named entry

end Selection

-----------------------------------------------------------------------------------------
-- Walks at one time
-----------------------------------------------------------------------------------------

/-- Scans in turn with one bound find the values in front of the first entry beyond it, by induction
on the entries.
-/
theorem Scan.inTurn_eq_takeWhile (bound : Int) (number : Nat) (entries : List Entry)
    : inTurn selection direction (fun _ => bound) number entries
      = (entries.takeWhile fun entry => !isBeyond direction bound entry).filterMap
          selection.accept? := by
  induction entries generalizing number with
  | nil => rfl
  | cons entry later ih =>
      cases beyond : isBeyond direction bound entry with
      | true =>
          rw [inTurn_of_beyond later beyond, List.takeWhile_cons_of_neg (by simp [beyond]),
            List.filterMap_nil]
      | false =>
          rw [List.takeWhile_cons_of_pos (by simp [beyond]), selection.filterMap_cons]
          cases accepted : selection.accept? entry with
          | none => exact (inTurn_of_skipped later beyond accepted).trans (ih number)
          | some value =>
              rw [inTurn_of_found later beyond accepted, ih (number + 1)]
              rfl

namespace Start

/-- The values that a walk at one time shows are those of the entry on which it lands and of the
entries after it, up to the first one beyond the bound.
-/
theorem values_of_constant {start : Start} {entry : Entry} {later : List Entry}
    (landed : start.reached bucket = entry :: later) (selection : Selection) (now : Timestamp)
    : start.values selection (fun _ => now) bucket
      = (entry :: later.takeWhile fun other =>
          !Scan.isBeyond start.direction (start.bound now).millis other).filterMap
            selection.accept? := by
  rw [values_of_reached landed, selection.filterMap_cons]
  exact congrArg _ (Scan.inTurn_eq_takeWhile ..)

/-- A walk on the values of a name shows the values of this name that a walk on all values shows. -/
theorem values_named (named : name ≠ "") (start : Start) (now : Timestamp) (bucket : Bucket)
    : start.values (.of thing (some name)) (fun _ => now) bucket
      = (start.values (.of thing none) (fun _ => now) bucket).filter fun value =>
          value.name = name := by
  cases landed : start.reached bucket with
  | nil =>
      rw [values, values, landed]
      rfl
  | cons entry later =>
      rw [values_of_constant landed, values_of_constant landed]
      exact Selection.filterMap_named named _

/-- A walk shows the values that it does from wherever the cursor stood before. -/
theorem walk_enter_iff {start : Start} {clock : Nat → Timestamp} {cursor : Cursor}
    {shown : List Observation}
    : start.Walk (.ofBucket bucket) clock 1 (start.enter cursor (.ofBucket bucket) (clock 0)) shown
      ↔ shown = start.values cursor.selection clock bucket := by
  have walk := start.walk_enter clock bucket cursor
  constructor
  · intro other
    exact Walk.unique other walk
  · rintro rfl
    exact walk

end Start

-----------------------------------------------------------------------------------------
-- Pages up to one time
-----------------------------------------------------------------------------------------

theorem Window.room_pos (window : Window) : 0 < window.room := by
  rw [room]
  split
  · decide
  · omega

/-- How a cursor reads all that is left up to a time: it asks for a page, and for another one as
long as more values remain. Pages have their own limits, told by the number of pages before them.
-/
inductive Cursor.Drains (lookup : Lookup) (direction : Direction) (bound : Timestamp)
    (limits : Nat → Nat) : Nat → Cursor → List Observation → Prop where
  | complete {pages : Nat} {cursor after : Cursor} {page : Page}
      (answer : cursor.page lookup direction bound (limits pages) = (page, after))
      (last : page.remaining = false)
    : Drains lookup direction bound limits pages cursor page.values
  | more {pages : Nat} {cursor after : Cursor} {page : Page} {values : List Observation}
      (answer : cursor.page lookup direction bound (limits pages) = (page, after))
      (remaining : page.remaining = true)
      (others : Drains lookup direction bound limits (pages + 1) after values)
    : Drains lookup direction bound limits pages cursor (page.values ++ values)

/-- The values in front of the first entry beyond a time, from a cursor on. -/
def Cursor.reach (direction : Direction) (bound : Timestamp) (bucket : Bucket) (cursor : Cursor)
    : List Observation :=
  cursor.position.reach cursor.selection direction bound.millis bucket

namespace Scan

variable {bound : Int} {position after : Position}

/-- A step back after a scan that has found a value leaves what was within reach before. -/
theorem reach_undone {value : Observation}
    (h : run selection (.ofBucket bucket) direction bound position = (some value, after))
    : (after.move (.ofBucket bucket) direction.unstep).2.reach selection direction bound bucket
      = position.reach selection direction bound bucket := by
  cases run_ending h with
  | found split passed inside last accepted =>
      rw [Position.reach_of_split split passed inside, Position.reach,
        (Position.ahead_of_split split).2]

/-- A page with more values remaining leaves the values within reach that it does not hold. -/
theorem reach_of_remaining {limit : Nat} {page : Page}
    (h : Scan.page selection (.ofBucket bucket) direction bound limit position = (page, after))
    (remaining : page.remaining = true)
    : after.reach selection direction bound bucket
      = (position.reach selection direction bound bucket).drop limit := by
  obtain ⟨full, next, taking, ending⟩ := page_ending h
  obtain ⟨taken, enough, reached, _⟩ := taking.reaches
  rw [remaining] at ending
  cases ending with
  | remaining found =>
      have long := of_decide_eq_true enough.symm
      rw [reach_undone found, reached, taken, List.length_take, Nat.min_eq_left long]

end Scan

namespace Cursor

variable {bound : Timestamp} {limits : Nat → Nat} {pages : Nat} {cursor : Cursor}

/-- A page holds the first values within reach, and leaves the others where more remain. -/
theorem page_reach {limit : Nat} {page : Page} {after : Cursor}
    (h : cursor.page (.ofBucket bucket) direction bound limit = (page, after))
    : page.values = (cursor.reach direction bound bucket).take (Window.mk bound limit).room
      ∧ page.remaining
        = decide ((Window.mk bound limit).room < (cursor.reach direction bound bucket).length)
      ∧ (page.remaining = true
        → after.reach direction bound bucket
          = (cursor.reach direction bound bucket).drop (Window.mk bound limit).room) := by
  obtain ⟨position, answer, rfl⟩ := @page_cases direction cursor after _ ⟨bound, limit⟩ page h
  obtain ⟨values, remaining, _⟩ := Scan.page_reaches answer
  exact ⟨values, remaining, Scan.reach_of_remaining answer⟩

/-- Pages up to one time hold what is within reach, by induction on them. -/
theorem Drains.values_eq {values : List Observation}
    (drains : Drains (.ofBucket bucket) direction bound limits pages cursor values)
    : values = cursor.reach direction bound bucket := by
  induction drains with
  | complete answer last =>
      obtain ⟨values, remaining, _⟩ := page_reach answer
      rw [last] at remaining
      have short := of_decide_eq_false remaining.symm
      rw [values, List.take_of_length_le (Nat.not_lt.mp short)]
  | more answer remaining _ ih =>
      obtain ⟨values, _, left⟩ := page_reach answer
      rw [values, ih, left remaining, List.take_append_drop]

/-- Pages up to one time come to an end, by induction on a number above that of the values within
reach: a page after which more remain holds one of them at least.
-/
theorem exists_drains {size : Nat} (few : (cursor.reach direction bound bucket).length < size)
    : ∃ values, Drains (.ofBucket bucket) direction bound limits pages cursor values := by
  induction size generalizing cursor pages with
  | zero => cases few
  | succ size ih =>
      rcases answer : cursor.page (.ofBucket bucket) direction bound (limits pages)
        with ⟨page, after⟩
      obtain ⟨_, remaining, left⟩ := page_reach answer
      cases last : page.remaining with
      | false => exact ⟨_, .complete answer last⟩
      | true =>
          have long := of_decide_eq_true (remaining.symm.trans last)
          have positive := Window.room_pos ⟨bound, limits pages⟩
          have fewer : (after.reach direction bound bucket).length < size := by
            rw [left last, List.length_drop]
            omega
          obtain ⟨values, others⟩ := ih fewer
          exact ⟨_, .more answer last others⟩

theorem drains_iff {values : List Observation}
    : Drains (.ofBucket bucket) direction bound limits pages cursor values
      ↔ values = cursor.reach direction bound bucket := by
  constructor
  · exact Drains.values_eq
  · rintro rfl
    obtain ⟨values, drains⟩ := exists_drains (Nat.lt_succ_self _)
    exact drains.values_eq ▸ drains

/-- A fresh cursor on the values of a name reaches the values of this name that one on all values
reaches.
-/
theorem reach_opened_named (named : name ≠ "") (direction : Direction) (bound : Timestamp)
    (bucket : Bucket)
    : (opened thing (some name)).reach direction bound bucket
      = ((opened thing none).reach direction bound bucket).filter fun value =>
          value.name = name :=
  Selection.filterMap_named named _

/-- Whatever a bucket holds, a cursor on the values of a name shows exactly the values of this name
that a cursor on all values shows, in the same order: on a walk at one time, wherever the two stood
before, and on the pages of fresh cursors up to one time, whatever their sizes. Witness: a
relational walk, and relational pages until they are drained, step by step on both sides.
-/
theorem filtering_commutes_with_reading (named : name ≠ "") (thing : String) (bucket : Bucket)
    (now : Timestamp)
    : (∀ (start : Start) (position other : Position) (shown : List Observation),
        (start.Walk (.ofBucket bucket) (fun _ => now) 1
            (start.enter ⟨.of thing none, position⟩ (.ofBucket bucket) now) shown
          ↔ shown = start.values (.of thing none) (fun _ => now) bucket)
        ∧ (start.Walk (.ofBucket bucket) (fun _ => now) 1
              (start.enter ⟨.of thing (some name), other⟩ (.ofBucket bucket) now) shown
            ↔ shown
              = (start.values (.of thing none) (fun _ => now) bucket).filter fun value =>
                  value.name = name))
      ∧ ∀ (direction : Direction) (bound : Timestamp) (limits others : Nat → Nat)
          (shown : List Observation),
          (Drains (.ofBucket bucket) direction bound limits 0 (opened thing none) shown
            ↔ shown = (opened thing none).reach direction bound bucket)
          ∧ (Drains (.ofBucket bucket) direction bound others 0 (opened thing (some name)) shown
              ↔ shown
                = ((opened thing none).reach direction bound bucket).filter fun value =>
                    value.name = name) := by
  constructor
  · intro start position other shown
    rw [← Start.values_named named]
    exact ⟨Start.walk_enter_iff, Start.walk_enter_iff⟩
  · intro direction bound limits others shown
    rw [← reach_opened_named named]
    exact ⟨drains_iff, drains_iff⟩

/-- The switch of the lamp is shown alone, on the way back from the last value and on pages of one
value each.
-/
theorem filtering_commutes_on_lamp
    : "on" ≠ ""
      ∧ Start.last.Walk (.ofBucket Bucket.strayLamp) (fun _ => Timestamp.epoch.addSeconds 2) 1
          (Start.last.enter (opened "lamp" none) (.ofBucket Bucket.strayLamp)
            (Timestamp.epoch.addSeconds 2))
          [.ofLamp "bright" (Timestamp.epoch.addSeconds 1), .ofLamp "on" .epoch]
      ∧ Start.last.Walk (.ofBucket Bucket.strayLamp) (fun _ => Timestamp.epoch.addSeconds 2) 1
          (Start.last.enter (opened "lamp" (some "on")) (.ofBucket Bucket.strayLamp)
            (Timestamp.epoch.addSeconds 2))
          [.ofLamp "on" .epoch]
      ∧ Drains (.ofBucket Bucket.strayLamp) .backward .epoch (fun _ => 1) 0
          (opened "lamp" (some "on")) [.ofLamp "on" .epoch] := by
  have named : "on" ≠ "" := by decide
  obtain ⟨walks, pages⟩ :=
    filtering_commutes_with_reading named "lamp" Bucket.strayLamp (Timestamp.epoch.addSeconds 2)
  refine ⟨named, ?_, ?_, ?_⟩
  · exact (walks .last .unplaced .unplaced _).1.mpr rfl
  · exact (walks .last .unplaced .unplaced _).2.mpr rfl
  · exact (pages .backward .epoch (fun _ => 1) (fun _ => 1) _).2.mpr rfl

end Cursor

end ValueHistory
