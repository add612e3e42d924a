import ValueHistory.Proofs.Cursor.Moves

/-! Every reading of a cursor ends. Its scans end one by one; a page, which is a row of scans, ends
within the moves of a single scan that passes all entries ahead, however many values it may hold;
and what is read in one go is a move to a time and a page.
-/

namespace ValueHistory

namespace Scan

variable {selection : Selection} {lookup : Lookup} {direction : Direction} {bound : Int}
  {bucket : Bucket} {position : Position} {moves otherMoves : List Move}
  {result otherResult : Option Observation × Position}

-----------------------------------------------------------------------------------------
-- Pages
-----------------------------------------------------------------------------------------

/-- A page with room for so many values, with the moves that it makes. It takes the values of scans
until one finds nothing, or until it is full; then it looks one value ahead and steps back again.
-/
inductive Fills (selection : Selection) (lookup : Lookup) (direction : Direction) (bound : Int)
    : Nat → Position → List Move → Page × Position → Prop where
  | drained {room : Nat} {position after : Position} {moves : List Move}
      (missed : Runs selection lookup direction bound position moves (none, after))
    : Fills selection lookup direction bound room position moves
        ({ values := [], remaining := false }, after)
  | full {position next : Position} {moves : List Move} {value : Observation}
      (found : Runs selection lookup direction bound position moves (some value, next))
    : Fills selection lookup direction bound 0 position (moves ++ [direction.unstep])
        ({ values := [], remaining := true }, (next.move lookup direction.unstep).2)
  | taken {room : Nat} {position next after : Position} {moves later : List Move}
      {value : Observation} {page : Page}
      (found : Runs selection lookup direction bound position moves (some value, next))
      (others : Fills selection lookup direction bound room next later (page, after))
    : Fills selection lookup direction bound (room + 1) position (moves ++ later)
        ({ page with values := value :: page.values }, after)

/-- Nothing is left open in a page, by induction on one of two ways to fill it. -/
theorem Fills.unique {room : Nat} {filled otherFilled : Page × Position}
    (fills : Fills selection lookup direction bound room position moves filled)
    (other : Fills selection lookup direction bound room position otherMoves otherFilled)
    : moves = otherMoves ∧ filled = otherFilled := by
  induction fills generalizing otherMoves otherFilled with
  | drained missed =>
      cases other with
      | drained again =>
          obtain ⟨rfl, same⟩ := missed.unique again
          cases same
          exact ⟨rfl, rfl⟩
      | full again | taken again => cases (missed.unique again).2
  | full found =>
      cases other with
      | drained again => cases (found.unique again).2
      | full again =>
          obtain ⟨rfl, same⟩ := found.unique again
          cases same
          exact ⟨rfl, rfl⟩
  | taken found _ ih =>
      cases other with
      | drained again => cases (found.unique again).2
      | taken again others =>
          obtain ⟨rfl, same⟩ := found.unique again
          cases same
          obtain ⟨rfl, samePage⟩ := ih others
          cases samePage
          exact ⟨rfl, rfl⟩

/-- A page keeps within the moves of a scan that passes all entries ahead, and each of its values is
that of another entry passed, by induction on how it is filled.
-/
theorem Fills.spends {room : Nat} {filled : Page × Position}
    (fills : Fills selection (.ofBucket bucket) direction bound room position moves filled)
    : direction.Spends ((position.ahead direction bucket).length + 1) moves
      ∧ filled.1.values.length ≤ (position.ahead direction bucket).length := by
  induction fills with
  | drained missed => exact ⟨missed.spends, Nat.zero_le _⟩
  | full found =>
      obtain ⟨count, _, passes⟩ := found.passes
      have passed := passes.passed
      refine ⟨⟨count, [direction.unstep], ?_, by omega, .inr rfl⟩, Nat.zero_le _⟩
      rw [passes.steps]
  | taken found _ ih =>
      obtain ⟨count, positive, passes⟩ := found.passes
      obtain ⟨spends, less⟩ := ih
      refine ⟨passes.spends spends, ?_⟩
      have passed := passes.passed
      simp only [List.length_cons] at less ⊢
      omega

/-- A page with no room left is the look ahead. -/
theorem page_zero (selection : Selection) (lookup : Lookup) (direction : Direction) (bound : Int)
    (position : Position)
    : page selection lookup direction bound 0 position
      = match run selection lookup direction bound position with
        | (none, after) => ({ values := [], remaining := false }, after)
        | (some _, next) =>
          ({ values := [], remaining := true }, (next.move lookup direction.unstep).2) :=
  rfl

/-- A page with room begins with the value of a scan, if there is one. -/
theorem page_succ (selection : Selection) (lookup : Lookup) (direction : Direction) (bound : Int)
    (room : Nat) (position : Position)
    : page selection lookup direction bound (room + 1) position
      = match run selection lookup direction bound position with
        | (none, after) => ({ values := [], remaining := false }, after)
        | (some value, next) =>
          let (page, after) := page selection lookup direction bound room next
          ({ page with values := value :: page.values }, after) := by
  rw [page, take]
  rcases run selection lookup direction bound position with ⟨_ | value, next⟩
  · rfl
  · dsimp only
    rw [page]
    rcases take selection lookup direction bound room next with ⟨values, full, last⟩
    cases full with
    | false => rfl
    | true =>
        dsimp only
        rcases run selection lookup direction bound last with ⟨_ | ahead, after⟩ <;> rfl

/-- A page of a bucket is filled, by induction on its room. -/
theorem exists_fills (selection : Selection) (direction : Direction) (bound : Int) (bucket : Bucket)
    (room : Nat) (position : Position)
    : ∃ moves,
        Fills selection (.ofBucket bucket) direction bound room position moves
          (page selection (.ofBucket bucket) direction bound room position) := by
  induction room generalizing position with
  | zero =>
      obtain ⟨moves, runs⟩ := exists_runs selection direction bound bucket position
      rw [page_zero]
      generalize run selection (.ofBucket bucket) direction bound position = result at runs
      rcases result with ⟨_ | value, next⟩
      · exact ⟨moves, .drained runs⟩
      · exact ⟨_, .full runs⟩
  | succ room ih =>
      obtain ⟨moves, runs⟩ := exists_runs selection direction bound bucket position
      rw [page_succ]
      generalize run selection (.ofBucket bucket) direction bound position = result at runs
      rcases result with ⟨_ | value, next⟩
      · exact ⟨moves, .drained runs⟩
      · obtain ⟨later, fills⟩ := ih next
        exact ⟨_, .taken runs fills⟩

theorem finishes_page (selection : Selection) (direction : Direction) (bound : Int)
    (bucket : Bucket) (room : Nat) (position : Position)
    : Finishes (Fills selection (.ofBucket bucket) direction bound room position)
        (page selection (.ofBucket bucket) direction bound room position)
        (direction.Spends ((position.ahead direction bucket).length + 1)) := by
  obtain ⟨moves, fills⟩ := exists_fills selection direction bound bucket room position
  exact .of_unique fills fills.spends.1 Fills.unique

-----------------------------------------------------------------------------------------
-- Scans after a move
-----------------------------------------------------------------------------------------

/-- A move that is settled, with the moves that it makes: if there is an entry and it is not
accepted, a scan follows.
-/
inductive Settles (selection : Selection) (lookup : Lookup) (direction : Direction) (bound : Int)
    (position : Position) (move : Move)
    : List Move → Option Observation × Position → Prop where
  | missed {after : Position} (moved : position.move lookup move = (none, after))
    : Settles selection lookup direction bound position move [move] (none, after)
  | accepted {next : Position} {entry : Entry} {value : Observation}
      (moved : position.move lookup move = (some entry, next))
      (accepted : selection.accept? entry = some value)
    : Settles selection lookup direction bound position move [move] (some value, next)
  | refused {next : Position} {entry : Entry} {moves : List Move}
      {result : Option Observation × Position}
      (moved : position.move lookup move = (some entry, next))
      (refused : selection.accept? entry = none)
      (runs : Runs selection lookup direction bound next moves result)
    : Settles selection lookup direction bound position move (move :: moves) result

theorem Settles.unique {move : Move}
    (settles : Settles selection lookup direction bound position move moves result)
    (other : Settles selection lookup direction bound position move otherMoves otherResult)
    : moves = otherMoves ∧ result = otherResult := by
  cases settles with
  | missed moved =>
      cases other with
      | missed again =>
          cases moved.symm.trans again
          exact ⟨rfl, rfl⟩
      | accepted again | refused again => cases moved.symm.trans again
  | accepted moved accepted =>
      cases other with
      | missed again => cases moved.symm.trans again
      | accepted again acceptedToo =>
          cases moved.symm.trans again
          cases accepted.symm.trans acceptedToo
          exact ⟨rfl, rfl⟩
      | refused again refused =>
          cases moved.symm.trans again
          cases accepted.symm.trans refused
  | refused moved refused runs =>
      cases other with
      | missed again => cases moved.symm.trans again
      | accepted again accepted =>
          cases moved.symm.trans again
          cases refused.symm.trans accepted
      | refused again _ otherRuns =>
          cases moved.symm.trans again
          obtain ⟨rfl, rfl⟩ := runs.unique otherRuns
          exact ⟨rfl, rfl⟩

/-- The moves after the first one are those of a scan from where it lands. -/
theorem Settles.spends {move : Move}
    (settles : Settles selection (.ofBucket bucket) direction bound position move moves result)
    : ∃ later,
        moves = move :: later
        ∧ direction.Spends
            (((position.move (.ofBucket bucket) move).2.ahead direction bucket).length + 1)
            later := by
  have nothing (steps : Nat) : direction.Spends steps [] := ⟨0, [], rfl, Nat.zero_le _, .inl rfl⟩
  cases settles with
  | missed | accepted => exact ⟨[], rfl, nothing _⟩
  | refused moved _ runs =>
      rw [moved]
      exact ⟨_, rfl, runs.spends⟩

/-- A move that is settled on a value stops at an entry of the bucket. -/
theorem Settles.stands {move : Move} {value : Observation} {after : Position}
    (settles
      : Settles selection (.ofBucket bucket) direction bound position move moves
          (some value, after))
    : ∃ entry ∈ bucket.entries, after = .standing entry.1 := by
  cases settles with
  | accepted moved _ =>
      exact ⟨_, (Lookup.answers_ofBucket bucket).move moved, Position.eq_standing_of_move moved⟩
  | refused _ _ runs => exact runs.stands

theorem exists_settles (selection : Selection) (direction : Direction) (bound : Int)
    (bucket : Bucket) (position : Position) (move : Move)
    : ∃ moves,
        Settles selection (.ofBucket bucket) direction bound position move moves
          (settle selection (.ofBucket bucket) direction bound
            (position.move (.ofBucket bucket) move)) := by
  rcases moved : position.move (.ofBucket bucket) move with ⟨_ | entry, next⟩
  · exact ⟨_, .missed moved⟩
  · rw [settle]
    cases accepted : selection.accept? entry with
    | some value => exact ⟨_, .accepted moved accepted⟩
    | none =>
        obtain ⟨later, runs⟩ := exists_runs selection direction bound bucket next
        exact ⟨_, .refused moved accepted runs⟩

theorem finishes_settle (selection : Selection) (direction : Direction) (bound : Int)
    (bucket : Bucket) (position : Position) (move : Move)
    : Finishes (Settles selection (.ofBucket bucket) direction bound position move)
        (settle selection (.ofBucket bucket) direction bound
          (position.move (.ofBucket bucket) move))
        fun moves =>
          ∃ later,
            moves = move :: later
            ∧ direction.Spends
                (((position.move (.ofBucket bucket) move).2.ahead direction bucket).length + 1)
                later := by
  obtain ⟨moves, settles⟩ := exists_settles selection direction bound bucket position move
  exact .of_unique settles settles.spends Settles.unique

end Scan

-----------------------------------------------------------------------------------------
-- Readings
-----------------------------------------------------------------------------------------

namespace Reading

/-- The way along the bucket that a reading takes. -/
def direction : Reading → Direction
  | .first _ | .next _ | .seek _ _ => .forward
  | .last | .prev => .backward
  | .page direction _ => direction

/-- The move that a reading begins with, if it does not begin where the cursor stands. -/
def start? : Reading → Option Move
  | .first _ => some .first
  | .last => some .last
  | .seek _ time => some (.seek (Key.ofTime time))
  | .next _ | .prev | .page _ _ => none

/-- The moves that a reading may make at most: from where it begins, one step more than there are
entries ahead, and a step back.
-/
def Spends (reading : Reading) (bucket : Bucket) (position : Position) (moves : List Move) : Prop :=
  match reading.start? with
  | none =>
    reading.direction.Spends ((position.ahead reading.direction bucket).length + 1) moves
  | some move =>
    ∃ later,
      moves = move :: later
      ∧ reading.direction.Spends
          (((position.move (.ofBucket bucket) move).2.ahead reading.direction bucket).length + 1)
          later

end Reading

namespace Cursor

variable {bucket : Bucket}

/-- A reading of a cursor with the moves that it makes, the values that it shows, and the cursor
after it.
-/
def Makes (cursor : Cursor) (lookup : Lookup) (moves : List Move)
    (shown : List Observation × Cursor)
    : Reading → Prop
  | .first now => ∃ answer,
      Scan.Settles cursor.selection lookup .forward now.millis cursor.position .first moves answer
      ∧ shown = (cursor.place answer).map Option.toList id
  | .last => ∃ answer,
      Scan.Settles cursor.selection lookup .backward Timestamp.epoch.millis cursor.position .last
        moves answer
      ∧ shown = (cursor.place answer).map Option.toList id
  | .seek now time => ∃ answer,
      Scan.Settles cursor.selection lookup .forward now.millis cursor.position
        (.seek (Key.ofTime time)) moves answer
      ∧ shown = (cursor.place answer).map Option.toList id
  | .next now => ∃ answer,
      Scan.Runs cursor.selection lookup .forward now.millis cursor.position moves answer
      ∧ shown = (cursor.place answer).map Option.toList id
  | .prev => ∃ answer,
      Scan.Runs cursor.selection lookup .backward Timestamp.epoch.millis cursor.position moves
        answer
      ∧ shown = (cursor.place answer).map Option.toList id
  | .page direction window => ∃ answer,
      Scan.Fills cursor.selection lookup direction window.bound.millis window.room cursor.position
        moves answer
      ∧ shown = (cursor.place answer).map Page.values id

/-- A reading of a bucket ends, whichever it is. -/
theorem finishes_read (cursor : Cursor) (bucket : Bucket) (reading : Reading)
    : Finishes (fun moves shown => cursor.Makes (.ofBucket bucket) moves shown reading)
        (cursor.read (.ofBucket bucket) reading)
        (reading.Spends bucket cursor.position) := by
  cases reading with
  | first now => exact (Scan.finishes_settle ..).map _
  | last => exact (Scan.finishes_settle ..).map _
  | seek now time => exact (Scan.finishes_settle ..).map _
  | next now => exact (Scan.finishes_run ..).map _
  | prev => exact (Scan.finishes_run ..).map _
  | page direction window => exact (Scan.finishes_page ..).map _

/-- What is read in one go, with the moves that it makes: a reading that moves to a time, and a page
from there.
-/
def MakesRange (cursor : Cursor) (lookup : Lookup) (now start : Timestamp) (direction : Direction)
    (window : Window) (moves : List Move) (values : List Observation) : Prop :=
  ∃ front hit back page,
    cursor.Makes lookup front hit (.seek now start)
    ∧ hit.2.Makes lookup back page (.page direction window)
    ∧ moves = front ++ back
    ∧ values = hit.1 ++ page.1

/-- The moves that may be made at most to read in one go: those of the move to the time, and those
of the page from where this one ends.
-/
def SpendsRange (cursor : Cursor) (bucket : Bucket) (now start : Timestamp) (direction : Direction)
    (window : Window) (moves : List Move) : Prop :=
  ∃ front back,
    moves = front ++ back
    ∧ (Reading.seek now start).Spends bucket cursor.position front
    ∧ (Reading.page direction window).Spends bucket
        (cursor.read (.ofBucket bucket) (.seek now start)).2.position back

/-- A page holds no more values than there are entries ahead. -/
theorem length_page_le (cursor : Cursor) (bucket : Bucket) (direction : Direction)
    (window : Window)
    : (cursor.read (.ofBucket bucket) (.page direction window)).1.length
      ≤ (cursor.position.ahead direction bucket).length := by
  obtain ⟨moves, fills⟩ := Scan.exists_fills cursor.selection direction window.bound.millis bucket
    window.room cursor.position
  exact fills.spends.2

/-- The value that a move to a time finds and the entries on one side of it are no more than there
are in all.
-/
theorem length_seek_le (cursor : Cursor) (bucket : Bucket) (now time : Timestamp)
    (direction : Direction)
    : (cursor.read (.ofBucket bucket) (.seek now time)).1.length
        + ((cursor.read (.ofBucket bucket) (.seek now time)).2.position.ahead direction
            bucket).length
      ≤ bucket.size := by
  obtain ⟨moves, settles⟩ := Scan.exists_settles cursor.selection .forward now.millis bucket
    cursor.position (.seek (Key.ofTime time))
  rw [read, seek, moveAndSettle]
  generalize Scan.settle .. = result at settles ⊢
  rcases result with ⟨_ | value, after⟩
  · simpa [place] using after.length_ahead_le direction bucket
  · obtain ⟨entry, there, rfl⟩ := settles.stands
    have less := Position.length_ahead_standing_lt direction there
    simp only [place, Prod.map, Option.toList_some, List.length_singleton, id_eq]
    omega

/-- What is read in one go is what the move to the time finds and the page after it. -/
theorem values_readRange (cursor : Cursor) (lookup : Lookup) (now start bound : Timestamp)
    (direction : Direction) (limit : Nat)
    : (cursor.readRange lookup now start bound direction limit).values
      = (cursor.read lookup (.seek now start)).1
        ++ ((cursor.read lookup (.seek now start)).2.read lookup
            (.page direction ⟨bound, limit⟩)).1 :=
  rfl

theorem finishes_readRange (cursor : Cursor) (bucket : Bucket) (now start bound : Timestamp)
    (direction : Direction) (limit : Nat)
    : Finishes (cursor.MakesRange (.ofBucket bucket) now start direction ⟨bound, limit⟩)
        (cursor.readRange (.ofBucket bucket) now start bound direction limit).values
        (cursor.SpendsRange bucket now start direction ⟨bound, limit⟩) := by
  have seeks := cursor.finishes_read bucket (.seek now start)
  have pages := (cursor.read (.ofBucket bucket) (.seek now start)).2.finishes_read bucket
    (.page direction ⟨bound, limit⟩)
  rw [values_readRange]
  exact seeks.append
    (fun hit back page => hit.2.Makes (.ofBucket bucket) back page (.page direction ⟨bound, limit⟩))
    pages fun hit page => hit.1 ++ page.1

theorem length_readRange_le (cursor : Cursor) (bucket : Bucket) (now start bound : Timestamp)
    (direction : Direction) (limit : Nat)
    : (cursor.readRange (.ofBucket bucket) now start bound direction limit).values.length
      ≤ bucket.size := by
  have found := cursor.length_seek_le bucket now start direction
  have following := (cursor.read (.ofBucket bucket) (.seek now start)).2.length_page_le bucket
    direction ⟨bound, limit⟩
  rw [values_readRange, List.length_append]
  omega

/-- Every reading of a bucket ends, whatever bytes are in it, wherever the cursor stands, and
whatever it selects. A scan can go in one way only, and it ends within one step more than there are
entries ahead, and at most one step back. So do the moves to the first and last value and to a time,
from where they land, and a page as a whole, though its scans follow each other: its limit, however
large, costs nothing. A page holds no more values than there are entries ahead of the cursor. What
is read in one go ends with a page too, and holds no more values than there are entries.
-/
theorem readings_end (bucket : Bucket) (cursor : Cursor)
    : (∀ direction bound,
        Finishes (Scan.Runs cursor.selection (.ofBucket bucket) direction bound cursor.position)
          (Scan.run cursor.selection (.ofBucket bucket) direction bound cursor.position)
          (direction.Spends ((cursor.position.ahead direction bucket).length + 1)))
      ∧ (∀ reading,
        Finishes (fun moves shown => cursor.Makes (.ofBucket bucket) moves shown reading)
          (cursor.read (.ofBucket bucket) reading)
          (reading.Spends bucket cursor.position))
      ∧ (∀ direction bound limit,
        (cursor.page (.ofBucket bucket) direction bound limit).1.values.length
        ≤ (cursor.position.ahead direction bucket).length)
      ∧ ∀ now start bound direction limit,
          let page := cursor.readRange (.ofBucket bucket) now start bound direction limit
          Finishes (cursor.MakesRange (.ofBucket bucket) now start direction ⟨bound, limit⟩)
            page.values
            (cursor.SpendsRange bucket now start direction ⟨bound, limit⟩)
          ∧ page.values.length ≤ bucket.size := by
  refine ⟨?_, ?_, ?_, ?_⟩
  · intro direction bound
    exact Scan.finishes_run ..
  · intro reading
    exact cursor.finishes_read bucket reading
  · intro direction bound limit
    exact cursor.length_page_le bucket direction ⟨bound, limit⟩
  · intro now start bound direction limit
    exact ⟨cursor.finishes_readRange bucket now start bound direction limit,
      cursor.length_readRange_le bucket now start bound direction limit⟩

/-- A page with the largest limit of a machine ends where its bucket does. -/
example
    : ((opened "lamp" none).page (.ofBucket .ofLamp) .forward .epoch 18446744073709551615).1
      = { values := [.ofLamp "bright" .epoch, .ofLamp "on" .epoch], remaining := false } := by
  rfl

end Cursor

end ValueHistory
