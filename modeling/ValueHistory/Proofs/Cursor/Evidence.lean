import ValueHistory.Proofs.Cursor.Windows
import ValueHistory.Proofs.Store.Contents

/-! Whatever a cursor shows is borne out by an entry. Buckets may hold any bytes under any keys, and
entries may come and go between the readings of a cursor and in the course of them: no reading
fails, and each value that is read is what an entry that was there at the time decodes to.
-/

namespace ValueHistory

-----------------------------------------------------------------------------------------
-- Look-ups
-----------------------------------------------------------------------------------------

namespace Lookup

/-- A look-up all of whose answers satisfy a condition. -/
structure Answers (present : Entry → Prop) (lookup : Lookup) : Prop where
  ceiling : ∀ {bound entry}, lookup.ceiling bound = some entry → present entry
  floor : ∀ {bound entry}, lookup.floor bound = some entry → present entry

/-- The look-up of a reading in the course of which a bucket changes: each answer is the one of the
bucket as it is at some time.
-/
structure IsOf (buckets : List Bucket) (lookup : Lookup) : Prop where
  ceiling : ∀ bound, ∃ bucket ∈ buckets, lookup.ceiling bound = bucket.ceiling bound
  floor : ∀ bound, ∃ bucket ∈ buckets, lookup.floor bound = bucket.floor bound

/-- A look-up answers with entries of the bucket at the time. -/
theorem IsOf.answers {buckets : List Bucket} {lookup : Lookup} (isOf : lookup.IsOf buckets)
    : lookup.Answers fun entry => ∃ bucket ∈ buckets, entry ∈ bucket.entries := by
  constructor
  · intro bound entry found
    obtain ⟨bucket, member, same⟩ := isOf.ceiling bound
    exact ⟨bucket, member, List.mem_of_find?_eq_some (same.symm.trans found)⟩
  · intro bound entry found
    obtain ⟨bucket, member, same⟩ := isOf.floor bound
    have last := List.mem_of_getLast? (same.symm.trans found)
    exact ⟨bucket, member, (List.mem_filter.mp last).1⟩

/-- A bucket that does not change answers with its own entries. -/
theorem answers_ofBucket (bucket : Bucket)
    : (ofBucket bucket).Answers fun entry => entry ∈ bucket.entries := by
  have isOf : (ofBucket bucket).IsOf [bucket] :=
    ⟨fun _ => ⟨bucket, by simp, rfl⟩, fun _ => ⟨bucket, by simp, rfl⟩⟩
  simpa using isOf.answers

variable {present : Entry → Prop} {lookup : Lookup}

/-- The entry that a move finds is an answer of the look-up. -/
theorem Answers.move (answers : lookup.Answers present) {position after : Position} {move : Move}
    {entry : Entry} (found : position.move lookup move = (some entry, after))
    : present entry := by
  have landed {result : Option Entry} {otherwise : Position}
      (lands : Position.land result otherwise = (some entry, after)) : result = some entry := by
    cases result with
    | none => cases lands
    | some _ =>
        cases lands
        rfl
  cases move with
  | first | seek => exact answers.ceiling (landed found)
  | last => exact answers.floor (landed found)
  | next =>
      cases position with
      | unplaced | beforeFirst | standing => exact answers.ceiling (landed found)
      | afterLast => cases found
  | prev =>
      cases position with
      | unplaced | afterLast | standing => exact answers.floor (landed found)
      | beforeFirst => cases found

end Lookup

-----------------------------------------------------------------------------------------
-- What scans find
-----------------------------------------------------------------------------------------

/-- A value is borne out by the entries that satisfy a condition: one of them decodes to it as an
observation of the Thing, and it has the name that is selected.
-/
structure Selection.BorneOut (selection : Selection) (present : Entry → Prop)
    (value : Observation)
    : Prop where
  decoded : ∃ entry, present entry ∧ Entry.decode selection.thing entry = .ok (some value)
  own : value.thing = selection.thing
  named : ∀ name, selection.name = some name → value.name = name
  timed : ∃ time, value.time = some time ∧ time.millis = value.millis

/-- A value is borne out by the entry that it is accepted from. -/
theorem Selection.borneOut_of_accept? {selection : Selection} {present : Entry → Prop}
    {entry : Entry} {value : Observation} (there : present entry)
    (accepted : selection.accept? entry = some value)
    : selection.BorneOut present value := by
  obtain ⟨key, parsed, selected, decoded⟩ := accept?_eq_some accepted
  obtain ⟨own, sameName, _⟩ := Entry.decode_of_parse? parsed decoded
  refine ⟨⟨entry, there, decoded⟩, own, ?_, exists_time_of_accept? accepted⟩
  intro name only
  simp only [selects, only, decide_eq_true_eq] at selected
  exact sameName.trans selected.symm

namespace Scan

variable {selection : Selection} {direction : Direction} {bound : Int}
  {present : Entry → Prop} {lookup : Lookup} {position after : Position} {value : Observation}

/-- A scan finds the value of an entry within its bound, by induction on its steps. -/
theorem within_borneOut (answers : lookup.Answers present) {fuel : Nat}
    (found
      : within selection lookup direction bound fuel position = some (some value, after))
    : selection.BorneOut present value ∧ direction.crosses bound value.millis = false := by
  induction fuel generalizing position with
  | zero => cases found
  | succ fuel ih =>
      rw [within] at found
      split at found
      · cases found
      · next entry landing moved =>
          rw [judge_eq] at found
          cases beyond : isBeyond direction bound entry with
          | true => simp [beyond] at found
          | false =>
              cases accepted : selection.accept? entry with
              | none =>
                  simp only [beyond, accepted, Bool.false_eq_true, if_false] at found
                  exact ih found
              | some read =>
                  simp only [beyond, accepted, Bool.false_eq_true, if_false] at found
                  cases found
                  rw [isBeyond_of_accept? accepted] at beyond
                  exact ⟨selection.borneOut_of_accept? (answers.move moved) accepted, beyond⟩

theorem run_borneOut (answers : lookup.Answers present)
    (found : (run selection lookup direction bound position).1 = some value)
    : selection.BorneOut present value ∧ direction.crosses bound value.millis = false := by
  rw [run] at found
  cases ended : within selection lookup direction bound (lookup.size + 1) position with
  | none =>
      rw [ended] at found
      cases found
  | some result =>
      obtain ⟨_, after⟩ := result
      rw [ended] at found
      cases found
      exact within_borneOut answers ended

/-- The value that a scan settles on is one of the entry it begins at or of one it scans for. -/
theorem settle_borneOut (answers : lookup.Answers present) {move : Move}
    (found
      : (settle selection lookup direction bound (position.move lookup move)).1 = some value)
    : selection.BorneOut present value := by
  rcases moved : position.move lookup move with ⟨_ | entry, landing⟩
  · rw [moved] at found
    cases found
  · rw [moved, settle] at found
    cases accepted : selection.accept? entry with
    | none =>
        rw [accepted] at found
        exact (run_borneOut answers found).1
    | some read =>
        rw [accepted] at found
        cases found
        exact selection.borneOut_of_accept? (answers.move moved) accepted

/-- Values that are taken are found by scans, by induction on how they are taken. -/
theorem Taking.borneOut (answers : lookup.Answers present) {limit : Nat}
    {values : List Observation} {full : Bool}
    (taking : Taking selection lookup direction bound limit position values full after)
    : ∀ value ∈ values,
        selection.BorneOut present value ∧ direction.crosses bound value.millis = false := by
  induction taking with
  | full | short => simp
  | more found _ ih =>
      intro value member
      rcases List.mem_cons.mp member with rfl | later
      · exact run_borneOut answers (congrArg Prod.fst found)
      · exact ih value later

theorem page_borneOut (answers : lookup.Answers present) (limit : Nat)
    : ∀ value ∈ (page selection lookup direction bound limit position).1.values,
        selection.BorneOut present value ∧ direction.crosses bound value.millis = false := by
  obtain ⟨_, _, taking, _⟩ :=
    page_ending (rfl : page selection lookup direction bound limit position = (_, _))
  exact taking.borneOut answers

end Scan

-----------------------------------------------------------------------------------------
-- What cursors show
-----------------------------------------------------------------------------------------

/-- A reading of a cursor. -/
inductive Reading where
  | first (now : Timestamp)
  | last
  | next (now : Timestamp)
  | prev
  | seek (now time : Timestamp)
  | page (direction : Direction) (window : Window)

/-- Whether a value lies within the bound of a reading. Steps and pages have one: the present, 1970,
and the time that a page goes up to.
-/
def Reading.Admits (value : Observation) : Reading → Prop
  | .next now => value.millis ≤ now.millis
  | .prev => Timestamp.epoch.millis ≤ value.millis
  | .page .forward window => value.millis ≤ window.bound.millis
  | .page .backward window => window.bound.millis ≤ value.millis
  | .first _ | .last | .seek _ _ => True

namespace Cursor

/-- The values that a reading shows, and the cursor after it. -/
def read (cursor : Cursor) (lookup : Lookup) : Reading → List Observation × Cursor
  | .first now => (cursor.first lookup now).map Option.toList id
  | .last => (cursor.last lookup).map Option.toList id
  | .next now => (cursor.next lookup now).map Option.toList id
  | .prev => (cursor.prev lookup).map Option.toList id
  | .seek now time => (cursor.seek lookup now time).map Option.toList id
  | .page direction window =>
    (cursor.page lookup direction window.bound window.limit).map Page.values id

theorem selection_read (cursor : Cursor) (lookup : Lookup) (reading : Reading)
    : (cursor.read lookup reading).2.selection = cursor.selection := by
  cases reading <;> rfl

variable {present : Entry → Prop} {lookup : Lookup}

/-- Every value that a reading shows is borne out by an answer of its look-up, and lies within its
bound.
-/
theorem read_borneOut (answers : lookup.Answers present) (cursor : Cursor) (reading : Reading)
    {value : Observation} (shown : value ∈ (cursor.read lookup reading).1)
    : cursor.selection.BorneOut present value ∧ reading.Admits value := by
  cases reading with
  | first now =>
      exact ⟨Scan.settle_borneOut answers (Option.mem_toList.mp shown), trivial⟩
  | last =>
      exact ⟨Scan.settle_borneOut answers (Option.mem_toList.mp shown), trivial⟩
  | seek now time =>
      exact ⟨Scan.settle_borneOut answers (Option.mem_toList.mp shown), trivial⟩
  | next now =>
      obtain ⟨borneOut, inside⟩ := Scan.run_borneOut answers (Option.mem_toList.mp shown)
      refine ⟨borneOut, ?_⟩
      simpa [Reading.Admits, Direction.crosses] using inside
  | prev =>
      obtain ⟨borneOut, inside⟩ := Scan.run_borneOut answers (Option.mem_toList.mp shown)
      refine ⟨borneOut, ?_⟩
      simpa [Reading.Admits, Direction.crosses] using inside
  | page direction window =>
      obtain ⟨borneOut, inside⟩ := Scan.page_borneOut answers _ value shown
      refine ⟨borneOut, ?_⟩
      cases direction <;> simpa [Reading.Admits, Direction.crosses] using inside

end Cursor

-----------------------------------------------------------------------------------------
-- Cursors on a store
-----------------------------------------------------------------------------------------

/-- What happens around a cursor: it reads, or an entry of a bucket is written or removed. -/
inductive Action where
  | read (reading : Reading)
  | set (name : String) (key payload : Bytes)
  | delete (name : String) (key : Bytes)

namespace Cursor

/-- The values that a cursor on a store shows in an action, with the store and the cursor after it.
-/
def act (cursor : Cursor) (store : Store)
    : Action → Except StoreFailure (List Observation × Store × Cursor)
  | .read reading =>
    (store.lookup cursor.selection.thing).map fun lookup =>
      (cursor.read lookup reading).map id fun cursor => (store, cursor)
  | .set name key payload =>
    ((store.openBucket name).bind (·.set name key payload)).map fun store => ([], store, cursor)
  | .delete name key =>
    ((store.openBucket name).bind (·.delete name key)).map fun store => ([], store, cursor)

/-- The store and the cursor after actions one after the other, unless one fails. -/
def actAll (cursor : Cursor) (store : Store) : List Action → Except StoreFailure (Store × Cursor)
  | [] => .ok (store, cursor)
  | action :: later => do
    let (_, store, cursor) ← cursor.act store action
    cursor.actAll store later

variable {store : Store}

/-- A reading of a working store is one of the entries of the bucket. -/
theorem act_read (works : store.Works) (cursor : Cursor) (reading : Reading)
    : cursor.act store (.read reading)
      = .ok
          ((cursor.read (.ofBucket (store.bucket cursor.selection.thing)) reading).map id
            fun cursor => (store, cursor)) := by
  rw [act, Store.lookup_of_works works]
  rfl

/-- No action on a working store fails, and the store goes on working. -/
theorem exists_act (works : store.Works) (cursor : Cursor) (action : Action)
    : ∃ values after moved,
        cursor.act store action = .ok (values, after, moved)
        ∧ after.Works
        ∧ moved.selection = cursor.selection := by
  cases action with
  | read reading =>
      exact ⟨_, _, _, act_read works cursor reading, works, selection_read cursor _ reading⟩
  | set name key payload =>
      obtain ⟨opened, stored, opens, sets, storedWorks, _⟩ :=
        Store.set_of_works works name key payload
      refine ⟨[], stored, cursor, ?_, storedWorks, rfl⟩
      simp only [act, opens, Except.bind, sets, Except.map]
  | delete name key =>
      obtain ⟨opened, opens, changes, _⟩ := Store.exists_openBucket works name
      obtain ⟨left, deletes, changesToo⟩ := Store.exists_delete changes.works name key
      refine ⟨[], left, cursor, ?_, changesToo.works, rfl⟩
      simp only [act, opens, Except.bind, deletes, Except.map]

/-- No run of actions on a working store fails, by induction on the run. -/
theorem exists_actAll (works : store.Works) (cursor : Cursor) (actions : List Action)
    : ∃ reached moved,
        cursor.actAll store actions = .ok (reached, moved)
        ∧ reached.Works
        ∧ moved.selection = cursor.selection := by
  induction actions generalizing store cursor with
  | nil => exact ⟨store, cursor, rfl, works, rfl⟩
  | cons action later ih =>
      obtain ⟨values, after, next, first, afterWorks, same⟩ := exists_act works cursor action
      obtain ⟨reached, moved, rest, reachedWorks, sameLater⟩ := ih afterWorks next
      refine ⟨reached, moved, ?_, reachedWorks, sameLater.trans same⟩
      simp only [actAll, first, rest, bind, Except.bind]

/-- On a working store with any bytes in it no reading of a cursor fails, nor does anything that is
written or removed in between. After any run of them, each value that a reading shows is what an
entry decodes to that its bucket holds at the time; it is one of the cursor's Thing, it has the name
that the cursor selects, and it is not beyond the bound of the reading. It is so also where entries
come and go in the course of the reading: then each look-up is answered from the bucket as it is by
then, and the value is what an entry of one of these decodes to. Witness: induction on the actions,
and every answer of a look-up is an entry of the bucket at some time.
-/
theorem readings_are_borne_out (works : store.Works) (cursor : Cursor) (actions : List Action)
    : ∃ reached moved,
        cursor.actAll store actions = .ok (reached, moved)
        ∧ ∀ reading,
            (∃ values after,
              moved.act reached (.read reading) = .ok (values, reached, after)
              ∧ ∀ value ∈ values,
                  cursor.selection.BorneOut
                    (fun entry => entry ∈ (reached.bucket cursor.selection.thing).entries) value
                  ∧ reading.Admits value)
            ∧ ∀ (buckets : List Bucket) (lookup : Lookup),
                lookup.IsOf buckets
                → ∀ value ∈ (moved.read lookup reading).1,
                    cursor.selection.BorneOut
                      (fun entry => ∃ bucket ∈ buckets, entry ∈ bucket.entries) value
                    ∧ reading.Admits value := by
  obtain ⟨reached, moved, run, reachedWorks, same⟩ := exists_actAll works cursor actions
  refine ⟨reached, moved, run, fun reading => ⟨?_, ?_⟩⟩
  · refine ⟨_, _, act_read reachedWorks moved reading, ?_⟩
    intro value shown
    rw [same] at shown
    rw [← same]
    exact moved.read_borneOut (Lookup.answers_ofBucket _) reading (same ▸ shown)
  · intro buckets lookup isOf value shown
    rw [← same]
    exact moved.read_borneOut isOf.answers reading shown

/-- A stray entry is met by a reading and then removed, and the lamp is switched on in between. -/
def lampActions : List Action :=
  [ .set "lamp" [255] [1]
  , .read (.first .epoch)
  , .set "lamp" ((Observation.ofLamp "on" .epoch).keyAt .epoch) (Json.toBytes (.bool true))
  , .delete "lamp" [255] ]

/-- The look-up of a reading that begins when two properties of a lamp are set. By the time that it
goes forward both are gone.
-/
def vanishingLamp : Lookup :=
  { ceiling := OrderedMap.ceiling .empty, floor := Bucket.ofLamp.floor, size := 2 }

/-- The lamp that is switched on is shown, and it is borne out by its entry; it is so as well where
the lamp vanishes in the course of the reading.
-/
theorem lamp_is_borne_out
    : Store.empty.Works
      ∧ vanishingLamp.IsOf [Bucket.ofLamp, .empty]
      ∧ ∃ reached moved after,
          (opened "lamp" (some "on")).actAll .empty lampActions = .ok (reached, moved)
          ∧ moved.act reached (.read .prev) = .ok ([.ofLamp "on" .epoch], reached, after)
          ∧ (moved.read vanishingLamp .prev).1 = [.ofLamp "on" .epoch]
          ∧ Reading.prev.Admits (.ofLamp "on" .epoch)
          ∧ (Selection.of "lamp" (some "on")).BorneOut
              (fun entry => entry ∈ (reached.bucket "lamp").entries) (.ofLamp "on" .epoch)
          ∧ (Selection.of "lamp" (some "on")).BorneOut
              (fun entry => ∃ bucket ∈ [Bucket.ofLamp, .empty], entry ∈ bucket.entries)
              (.ofLamp "on" .epoch) := by
  have works : Store.empty.Works := trivial
  have isOf : vanishingLamp.IsOf [Bucket.ofLamp, .empty] :=
    ⟨fun _ => ⟨.empty, by simp, rfl⟩, fun _ => ⟨Bucket.ofLamp, by simp, rfl⟩⟩
  obtain ⟨reached, moved, run, readings⟩ :=
    readings_are_borne_out works (opened "lamp" (some "on")) lampActions
  obtain ⟨rfl, rfl⟩ := Prod.mk.inj (Except.ok.inj run)
  obtain ⟨⟨values, after, answered, borneOut⟩, vanishing⟩ := readings .prev
  obtain ⟨rfl, _⟩ := Prod.mk.inj (Except.ok.inj answered)
  have shown := List.mem_singleton_self (Observation.ofLamp "on" .epoch)
  obtain ⟨present, inside⟩ := borneOut _ shown
  obtain ⟨presentToo, _⟩ := vanishing _ _ isOf _ shown
  exact ⟨works, isOf, _, _, after, run, answered, rfl, inside, present, presentToo⟩

end Cursor

end ValueHistory
