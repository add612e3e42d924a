import ValueHistory.Proofs.Cursor.Obstruction
import ValueHistory.Proofs.Cursor.Seeking

/-! Walks to the end of a history and back. Where no value is later than the present, a walk shows
all selected values from where it lands on, wherever the cursor stood before. It ends beyond the
last entry on its way, so that from there the way back shows all selected values.
-/

namespace ValueHistory

open KeyOrder

-----------------------------------------------------------------------------------------
-- Walks with the cursor after them
-----------------------------------------------------------------------------------------

/-- The call for the neighbour on a way. -/
def Cursor.advance (direction : Direction) (cursor : Cursor) (lookup : Lookup) (now : Timestamp)
    : Option Observation × Cursor :=
  match direction with
  | .forward => cursor.next lookup now
  | .backward => cursor.prev lookup

/-- How a cursor goes along a way from an answer on, and where this leaves it: a call for the
neighbour follows each answer with a value, until one finds nothing. The clock tells the time of
each call by the number of those before it.
-/
inductive Passage (direction : Direction) (lookup : Lookup) (clock : Nat → Timestamp)
    : Nat → Option Observation × Cursor → List Observation → Cursor → Prop where
  | ended {calls : Nat} {cursor : Cursor}
    : Passage direction lookup clock calls (none, cursor) [] cursor
  | found {calls : Nat} {value : Observation} {cursor last : Cursor} {values : List Observation}
      (others
        : Passage direction lookup clock (calls + 1)
            (cursor.advance direction lookup (clock calls)) values last)
    : Passage direction lookup clock calls (some value, cursor) (value :: values) last

variable {thing : String} {direction : Direction} {start : Start} {lookup : Lookup}
  {clock : Nat → Timestamp} {bucket : Bucket}

theorem Start.advance_eq_cursor (start : Start) (cursor : Cursor) (lookup : Lookup)
    (now : Timestamp)
    : start.advance cursor lookup now = cursor.advance start.direction lookup now := by
  cases start <;> rfl

/-- A walk leaves its cursor somewhere, by induction on the walk. -/
theorem Start.Walk.exists_passage {calls : Nat} {answer : Option Observation × Cursor}
    {values : List Observation} (walk : start.Walk lookup clock calls answer values)
    : ∃ last, Passage start.direction lookup clock calls answer values last := by
  induction walk with
  | ended => exact ⟨_, .ended⟩
  | found _ ih =>
      obtain ⟨last, others⟩ := ih
      rw [start.advance_eq_cursor] at others
      exact ⟨last, .found others⟩

/-- A passage shows the same values each time and leaves the cursor at the same place, by induction
on the passage.
-/
theorem Passage.unique {calls : Nat} {answer : Option Observation × Cursor}
    {values others : List Observation} {last other : Cursor}
    (passage : Passage direction lookup clock calls answer values last)
    (again : Passage direction lookup clock calls answer others other)
    : values = others ∧ last = other := by
  induction passage generalizing others with
  | ended =>
      cases again
      exact ⟨rfl, rfl⟩
  | found _ ih =>
      cases again with
      | found following =>
          obtain ⟨same, place⟩ := ih following
          exact ⟨congrArg _ same, place⟩

-----------------------------------------------------------------------------------------
-- Where passages end
-----------------------------------------------------------------------------------------

/-- No entry of the bucket lies beyond the bound of a call on the way of a walk. -/
def Start.Clear (start : Start) (clock : Nat → Timestamp) (bucket : Bucket) : Prop :=
  ∀ entry ∈ bucket.entries, ∀ number,
    Scan.isBeyond start.direction (start.bounds clock number) entry = false

namespace Start.Clear

variable {cursor after : Cursor}

/-- A scan that finds nothing ends beyond the last entry. -/
theorem position_of_run {selection : Selection} {number : Nat} {position last : Position}
    (clear : start.Clear clock bucket)
    (h
      : Scan.run selection (.ofBucket bucket) start.direction (start.bounds clock number) position
        = (none, last))
    : last = start.direction.farEnd := by
  cases Scan.run_ending h with
  | exhausted => rfl
  | stopped split _ _ beyond =>
      have ahead := split ▸ List.mem_append_right _ List.mem_cons_self
      have member := (Position.mem_ahead_iff.mp ahead).1
      exact absurd beyond (by simp [clear _ member number])

theorem position_of_advance {number : Nat} (clear : start.Clear clock bucket)
    (h : start.advance cursor (.ofBucket bucket) (clock number) = (none, after))
    : after.position = start.direction.farEnd := by
  rw [advance_eq] at h
  rcases scanned
    : Scan.run cursor.selection (.ofBucket bucket) start.direction (start.bounds clock number)
        cursor.position
    with ⟨found, last⟩
  have placed : cursor.place (found, last) = (none, after) := scanned ▸ h
  cases placed
  exact clear.position_of_run scanned

theorem position_of_enter (clear : start.Clear clock bucket)
    (h : start.enter cursor (.ofBucket bucket) (clock 0) = (none, after))
    : after.position = start.direction.farEnd := by
  rw [enter_eq, Cursor.moveAndSettle, move_eq] at h
  generalize start.reached bucket = entries at h
  cases entries with
  | nil =>
      cases h
      rfl
  | cons entry later =>
      rw [List.head?_cons, Position.land, Scan.settle] at h
      cases accepted : cursor.selection.accept? entry with
      | some value =>
          rw [accepted] at h
          cases h
      | none =>
          rw [accepted] at h
          let standing := { cursor with position := .standing entry.1 }
          have next : start.advance standing (.ofBucket bucket) (clock 0) = (none, after) :=
            (advance_eq ..).trans h
          exact clear.position_of_advance next

/-- A passage ends beyond the last entry, by induction on the passage. -/
theorem position_of_passage (clear : start.Clear clock bucket) {calls : Nat}
    {answer : Option Observation × Cursor} {values : List Observation}
    (passage : Passage start.direction (.ofBucket bucket) clock calls answer values after)
    (missed : answer.1 = none → answer.2.position = start.direction.farEnd)
    : after.selection = answer.2.selection ∧ after.position = start.direction.farEnd := by
  induction passage with
  | ended => exact ⟨rfl, missed rfl⟩
  | @found calls value cursor last values _ ih =>
      rw [← start.advance_eq_cursor] at ih
      have next := ih fun none => clear.position_of_advance (Prod.ext none rfl)
      rw [advance_eq] at next
      exact next

end Start.Clear

-----------------------------------------------------------------------------------------
-- What walks show
-----------------------------------------------------------------------------------------

namespace Observation

/-- The order in which values are kept: by their times, those of one millisecond by the rest of
their keys.
-/
def ComesBefore (value later : Observation) : Prop :=
  value.millis < later.millis
  ∨ value.millis = later.millis ∧ before value.tieBreak later.tieBreak = true

/-- Of two keys of one millisecond the one whose value has the smaller rest comes first. -/
theorem before_keyAt_of_same {value later : Observation} {time laterTime : Timestamp}
    (same : time.keyMillis = laterTime.keyMillis)
    : before (value.keyAt time) (later.keyAt laterTime)
      = before value.tieBreak later.tieBreak := by
  have prefixed : Key.ofTime time = Key.ofTime laterTime :=
    congrArg (fun millis => Bytes.ofString (String.ofList (Decimal.padded keyDigits millis))) same
  rw [keyAt_eq, keyAt_eq, prefixed]
  exact (lexBefore_append_left ..).trans (lexBefore_append_left [keySeparator.toUInt8] ..)

end Observation

namespace Bucket.Recorded

/-- The values read from recorded entries stand in order. -/
theorem inOrder_matching (recorded : bucket.Recorded thing) (selection : Selection)
    : (bucket.matching selection).Pairwise Observation.ComesBefore := by
  rw [matching_eq_filterMap recorded]
  refine List.pairwise_filterMap.mpr (bucket.ascending.imp_of_mem ?_)
  intro a b aMember bMember front value read later laterRead
  have aRecorded := recorded a aMember
  have bRecorded := recorded b bMember
  have order := aRecorded.millis_le_of_before bRecorded front
  rw [← Selection.millis_of_accept? read, ← Selection.millis_of_accept? laterRead] at order
  rcases Int.lt_or_eq_of_le order with less | same
  · exact .inl less
  · refine .inr ⟨same, ?_⟩
    obtain ⟨time, known, key⟩ := aRecorded.key_of_accept? read
    obtain ⟨laterTime, laterKnown, laterKey⟩ := bRecorded.key_of_accept? laterRead
    have together : time.keyMillis = laterTime.keyMillis := by
      rw [Observation.millis, Observation.millis, known, laterKnown] at same
      exact congrArg (fun millis => (max 0 millis).toNat) same
    rw [← Observation.before_keyAt_of_same together, ← key, ← laterKey]
    exact front

/-- Recorded entries that are not later than any call lie beyond no bound. -/
theorem clear (recorded : bucket.Recorded thing)
    (past : ∀ entry ∈ bucket.entries, ∀ number, Entry.millis entry ≤ (clock number).millis)
    (start : Start)
    : start.Clear clock bucket :=
  fun entry member number => (recorded entry member).not_isBeyond (past entry member number) start

end Bucket.Recorded

namespace Start

/-- The values that a walk is to show. -/
def due (start : Start) (selection : Selection) (bucket : Bucket) : List Observation :=
  match start with
  | first => bucket.matching selection
  | since time => bucket.matchingFrom time selection
  | last => (bucket.matching selection).reverse

theorem selected_eq_due (recorded : bucket.Recorded thing) (start : Start) (selection : Selection)
    : start.selected selection bucket = start.due selection bucket := by
  cases start with
  | first => exact (Bucket.matching_eq_filterMap recorded selection).symm
  | last =>
      rw [due, Bucket.matching_eq_filterMap recorded]
      exact List.filterMap_reverse
  | since time =>
      rw [due, Bucket.matchingFrom_eq recorded]
      exact congrArg (List.filterMap _)
        (List.filter_congr fun entry member => (recorded entry member).not_before_ofTime time)

/-- Where nothing lies beyond a bound, scans in turn find all accepted values. -/
theorem Clear.inTurn_eq (clear : start.Clear clock bucket) (selection : Selection) (number : Nat)
    {entries : List Entry} (stored : ∀ entry ∈ entries, entry ∈ bucket.entries)
    : Scan.inTurn selection start.direction (start.bounds clock) number entries
      = entries.filterMap selection.accept? := by
  have inside : ∀ entry ∈ entries, ∀ number, _ = false :=
    fun entry member => clear entry (stored entry member)
  refine (Scan.inTurn_eq_iff number fun entry member _ _ => inside entry member).mpr ?_
  intro ⟨front, obstacle, rest, split, beyond, _⟩
  have member : obstacle ∈ entries := split ▸ List.mem_append_right _ List.mem_cons_self
  exact absurd beyond (by simp [inside obstacle member])

theorem Clear.values_eq (clear : start.Clear clock bucket) (selection : Selection)
    : start.values selection clock bucket = start.selected selection bucket := by
  have stored : ∀ entry ∈ start.reached bucket, entry ∈ bucket.entries :=
    fun entry => mem_of_mem_reached
  rw [selected]
  cases landed : start.reached bucket with
  | nil =>
      rw [values, landed]
      rfl
  | cons entry later =>
      rw [landed] at stored
      rw [values_of_reached landed, selection.filterMap_cons,
        clear.inTurn_eq selection _ (List.forall_mem_cons.mp stored).2]

/-- Where a walk the other way begins. -/
def back : Start → Start
  | first | since _ => last
  | last => first

theorem direction_back (start : Start) : start.back.direction = start.direction.flip := by
  cases start <;> rfl

/-- A walk shows the values that it is to show, and leaves its cursor beyond the last entry. -/
theorem passage_enter (recorded : bucket.Recorded thing) (clear : start.Clear clock bucket)
    (cursor : Cursor)
    : Passage start.direction (.ofBucket bucket) clock 1
        (start.enter cursor (.ofBucket bucket) (clock 0)) (start.due cursor.selection bucket)
        { cursor with position := start.direction.farEnd } := by
  obtain ⟨last, passage⟩ := (start.walk_enter clock bucket cursor).exists_passage
  obtain ⟨same, placed⟩ :=
    clear.position_of_passage passage fun none => clear.position_of_enter (Prod.ext none rfl)
  rw [enter_eq] at same
  rw [clear.values_eq, selected_eq_due recorded] at passage
  have place : last = { cursor with position := start.direction.farEnd } := by
    cases last
    cases same
    cases placed
    rfl
  exact place ▸ passage

/-- From beyond the first entry a cursor shows all selected values on its way. -/
theorem passage_advance (recorded : bucket.Recorded thing) (clear : start.Clear clock bucket)
    (name : Option String) (calls : Nat)
    : ∃ last,
        Passage start.direction (.ofBucket bucket) clock (calls + 1)
          (Cursor.advance start.direction
            { selection := .of thing name, position := start.direction.flip.farEnd }
            (.ofBucket bucket) (clock calls))
          (start.direction.matching (.of thing name) bucket) last := by
  let cursor : Cursor :=
    { selection := .of thing name, position := start.direction.flip.farEnd }
  have walk := start.walk_advance clock bucket cursor calls (Nat.lt_succ_self _)
  have ahead : cursor.position.ahead start.direction bucket = start.direction.along bucket.entries :=
    Position.ahead_nearEnd ..
  have all := Cursor.rest_opened recorded name start.direction
  rw [Cursor.rest_opened_eq] at all
  rw [ahead, clear.inTurn_eq _ _ fun entry => Direction.mem_along.mp, all,
    start.advance_eq_cursor] at walk
  exact walk.exists_passage

end Start

/-- Among recorded entries of which none is later than any call, the selected values stand in the
order of their times, those of one millisecond in the order of the texts of name, tag and sender
with separators between them. From the first value on a walk shows all of them, from a time on those
from this time on, and from the last on all of them backward, wherever the cursor stood before. From
the call that finds nothing on, the way back shows all of them. Witness: recorded keys lie before
the present, so that a walk passes all that is ahead of it, and the way back begins at the far end.
-/
theorem walks_show_history_both_ways (recorded : bucket.Recorded thing)
    (past : ∀ entry ∈ bucket.entries, ∀ number, Entry.millis entry ≤ (clock number).millis)
    (name : Option String)
    : (bucket.matching (.of thing name)).Pairwise Observation.ComesBefore
      ∧ ∀ (start : Start) (position : Position),
          ∃ last,
            (∀ shown after,
              Passage start.direction (.ofBucket bucket) clock 1
                  (start.enter ⟨.of thing name, position⟩ (.ofBucket bucket) (clock 0)) shown after
                ↔ shown = start.due (.of thing name) bucket ∧ after = last)
            ∧ ∀ calls shown,
                (∃ after,
                  Passage start.direction.flip (.ofBucket bucket) clock (calls + 1)
                    (last.advance start.direction.flip (.ofBucket bucket) (clock calls)) shown after)
                ↔ shown = start.direction.flip.matching (.of thing name) bucket := by
  refine ⟨recorded.inOrder_matching _, fun start position => ?_⟩
  have forth := Start.passage_enter recorded (recorded.clear past start) ⟨.of thing name, position⟩
  refine ⟨_, fun shown after => ⟨fun other => other.unique forth, ?_⟩, fun calls shown => ?_⟩
  · rintro ⟨rfl, rfl⟩
    exact forth
  · obtain ⟨home, back⟩ :=
      start.back.passage_advance recorded (recorded.clear past start.back) name calls
    rw [start.direction_back, Direction.flip_flip] at back
    constructor
    · rintro ⟨after, other⟩
      exact (other.unique back).1
    · rintro rfl
      exact ⟨home, back⟩

namespace Bucket

/-- A lamp of which two properties were set in the first millisecond of 1970. The name of one
begins with that of the other and goes on with a character below the separator.
-/
def timedLamp : Bucket :=
  ⟨[lampEntry "on-time" 0, lampEntry "on" 0], by decide⟩

theorem recorded_timedLamp : timedLamp.Recorded "lamp" :=
  List.forall_mem_cons.mpr
    ⟨isRecorded_lampEntry rfl, List.forall_mem_singleton.mpr (isRecorded_lampEntry rfl)⟩

theorem past_timedLamp
    : ∀ entry ∈ timedLamp.entries, Entry.millis entry ≤ Timestamp.epoch.millis := by
  decide

end Bucket

/-- Both properties of the lamp are shown from the first on, and on the way back. -/
theorem walks_show_lamp_both_ways
    : Bucket.timedLamp.Recorded "lamp"
      ∧ (∀ entry ∈ Bucket.timedLamp.entries, Entry.millis entry ≤ Timestamp.epoch.millis)
      ∧ ∃ last,
          Passage .forward (.ofBucket Bucket.timedLamp) (fun _ => .epoch) 1
            ((Cursor.opened "lamp" none).first (.ofBucket Bucket.timedLamp) .epoch)
            [.ofLamp "on-time" .epoch, .ofLamp "on" .epoch] last
          ∧ ∃ home,
              Passage .backward (.ofBucket Bucket.timedLamp) (fun _ => .epoch) 4
                (last.prev (.ofBucket Bucket.timedLamp))
                [.ofLamp "on" .epoch, .ofLamp "on-time" .epoch] home := by
  have recorded := Bucket.recorded_timedLamp
  have past := Bucket.past_timedLamp
  obtain ⟨_, walks⟩ :=
    walks_show_history_both_ways recorded (fun entry member (_ : Nat) => past entry member) none
  obtain ⟨last, forth, back⟩ := walks .first .unplaced
  refine ⟨recorded, past, last, ?_, ?_⟩
  · exact (forth _ _).mpr ⟨rfl, rfl⟩
  · exact (back 3 _).mpr rfl

/-- The walk along the properties of the lamp does not show those of one millisecond in the order of
names, tags and senders.
-/
theorem lamp_not_in_order_of_names
    : Bucket.timedLamp.Recorded "lamp"
      ∧ (∀ entry ∈ Bucket.timedLamp.entries, Entry.millis entry ≤ Timestamp.epoch.millis)
      ∧ ∃ shown last,
          Passage .forward (.ofBucket Bucket.timedLamp) (fun _ => .epoch) 1
            ((Cursor.opened "lamp" none).first (.ofBucket Bucket.timedLamp) .epoch) shown last
          ∧ ¬shown.Pairwise fun value later =>
              value.millis < later.millis
              ∨ value.millis = later.millis
                ∧ before (value.name, value.affordance.tag, value.sender)
                    (later.name, later.affordance.tag, later.sender)
                  = true := by
  have recorded := Bucket.recorded_timedLamp
  have past := Bucket.past_timedLamp
  have clear : Start.first.Clear (fun _ => .epoch) Bucket.timedLamp :=
    recorded.clear (fun entry member _ => past entry member) .first
  have shown := Start.passage_enter recorded clear (.opened "lamp" none)
  refine ⟨recorded, past, _, _, shown, fun ordered => ?_⟩
  have other : Observation.ofLamp "on" .epoch ∈ [Observation.ofLamp "on" .epoch] :=
    List.mem_cons_self
  have order := (List.pairwise_cons.mp ordered).1 _ other
  exact absurd order (by decide)

end ValueHistory
