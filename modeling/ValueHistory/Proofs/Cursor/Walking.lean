import ValueHistory.Cursor.Basic
import ValueHistory.Proofs.Cursor.Scanning

/-! Walks along a history. A cursor is moved to the first or last value, or to a time, and then from
value to value until a call finds none. What a walk shows is told by the entries from the one on
which its first move lands: those in front of the first one that lies beyond the bound of the call
that meets it.
-/

namespace ValueHistory

open KeyOrder

-----------------------------------------------------------------------------------------
-- Scans in turn
-----------------------------------------------------------------------------------------

namespace Scan

variable {selection : Selection} {direction : Direction} {bounds : Nat → Int} {bucket : Bucket}

/-- The values that scans find in turn, where the scan of a number has the bound of that number. The
first scan that meets an entry beyond its bound is the last one.
-/
def inTurn (selection : Selection) (direction : Direction) (bounds : Nat → Int)
    : Nat → List Entry → List Observation
  | _, [] => []
  | number, entry :: later =>
    if isBeyond direction (bounds number) entry then []
    else match selection.accept? entry with
      | some value => value :: inTurn selection direction bounds (number + 1) later
      | none => inTurn selection direction bounds number later

theorem inTurn_of_beyond {entry : Entry} {number : Nat} (later : List Entry)
    (beyond : isBeyond direction (bounds number) entry = true)
    : inTurn selection direction bounds number (entry :: later) = [] :=
  if_pos beyond

theorem inTurn_of_skipped {entry : Entry} {number : Nat} (later : List Entry)
    (inside : isBeyond direction (bounds number) entry = false)
    (refused : selection.accept? entry = none)
    : inTurn selection direction bounds number (entry :: later)
      = inTurn selection direction bounds number later := by
  rw [inTurn, if_neg (by simp [inside]), refused]

theorem inTurn_of_found {entry : Entry} {number : Nat} {value : Observation} (later : List Entry)
    (inside : isBeyond direction (bounds number) entry = false)
    (accepted : selection.accept? entry = some value)
    : inTurn selection direction bounds number (entry :: later)
      = value :: inTurn selection direction bounds (number + 1) later := by
  rw [inTurn, if_neg (by simp [inside]), accepted]

/-- Entries that a scan passes over do not matter, by induction on them. -/
theorem inTurn_append {skipped : List Entry} {number : Nat} (later : List Entry)
    (passed : ∀ entry ∈ skipped, selection.accept? entry = none)
    (inside : ∀ entry ∈ skipped, isBeyond direction (bounds number) entry = false)
    : inTurn selection direction bounds number (skipped ++ later)
      = inTurn selection direction bounds number later := by
  induction skipped with
  | nil => rfl
  | cons entry skipped ih =>
      obtain ⟨refused, passed⟩ := List.forall_mem_cons.mp passed
      obtain ⟨near, inside⟩ := List.forall_mem_cons.mp inside
      rw [List.cons_append, inTurn_of_skipped _ near refused]
      exact ih passed inside

/-- Scans in turn find the first ones of the accepted values, by induction on the entries. -/
theorem inTurn_isPrefixOf (number : Nat) (entries : List Entry)
    : inTurn selection direction bounds number entries
      <+: entries.filterMap selection.accept? := by
  induction entries generalizing number with
  | nil => exact List.prefix_rfl
  | cons entry later ih =>
      cases beyond : isBeyond direction (bounds number) entry with
      | true =>
          rw [inTurn_of_beyond later beyond]
          exact List.nil_prefix
      | false =>
          cases accepted : selection.accept? entry with
          | none =>
              rw [inTurn_of_skipped later beyond accepted, List.filterMap_cons_none accepted]
              exact ih number
          | some value =>
              rw [inTurn_of_found later beyond accepted, List.filterMap_cons_some accepted]
              exact (List.prefix_cons_inj value).mpr (ih (number + 1))

/-- A value is hidden by an entry in front of it that lies beyond the bound of the scan that meets
the entry, which is the one after as many as there are values in front of the entry.
-/
def Obstructs (selection : Selection) (direction : Direction) (bounds : Nat → Int) (number : Nat)
    (entries : List Entry) : Prop :=
  ∃ front obstacle later,
    entries = front ++ obstacle :: later
    ∧ isBeyond direction (bounds (number + (front.filterMap selection.accept?).length)) obstacle
      = true
    ∧ later.filterMap selection.accept? ≠ []

/-- Behind the first one of entries a value is hidden by one that is not the first. -/
theorem obstructs_later_iff {entry : Entry} {later : List Entry} {number : Nat}
    : Obstructs selection direction bounds (number + (selection.accept? entry).toList.length) later
      ↔ ∃ front obstacle rest,
          entry :: later = front ++ obstacle :: rest
          ∧ front ≠ []
          ∧ isBeyond direction (bounds (number + (front.filterMap selection.accept?).length))
              obstacle
            = true
          ∧ rest.filterMap selection.accept? ≠ [] := by
  have count (front : List Entry)
      : number + ((entry :: front).filterMap selection.accept?).length
        = number + (selection.accept? entry).toList.length
          + (front.filterMap selection.accept?).length := by
    rw [selection.filterMap_cons, List.length_append, Nat.add_assoc]
  constructor
  · intro ⟨front, obstacle, rest, split, beyond, hidden⟩
    refine ⟨entry :: front, obstacle, rest, congrArg (entry :: ·) split, ?_, ?_, hidden⟩
    · exact List.cons_ne_nil _ _
    · rw [count]
      exact beyond
  · intro ⟨front, obstacle, rest, split, present, beyond, hidden⟩
    cases front with
    | nil => exact absurd rfl present
    | cons head front =>
        cases split
        rw [count] at beyond
        exact ⟨front, obstacle, rest, rfl, beyond, hidden⟩

theorem obstructs_cons_of_inside {entry : Entry} {later : List Entry} {number : Nat}
    (inside : isBeyond direction (bounds number) entry = false)
    : Obstructs selection direction bounds number (entry :: later)
      ↔ Obstructs selection direction bounds
          (number + (selection.accept? entry).toList.length) later := by
  rw [obstructs_later_iff]
  constructor
  · intro ⟨front, obstacle, rest, split, beyond, hidden⟩
    refine ⟨front, obstacle, rest, split, ?_, beyond, hidden⟩
    intro nothing
    subst nothing
    cases split
    exact Bool.false_ne_true (inside.symm.trans beyond)
  · intro ⟨front, obstacle, rest, split, _, beyond, hidden⟩
    exact ⟨front, obstacle, rest, split, beyond, hidden⟩

theorem obstructs_cons_of_beyond {entry : Entry} {later : List Entry} {number : Nat}
    (beyond : isBeyond direction (bounds number) entry = true)
    : Obstructs selection direction bounds number (entry :: later)
      ↔ later.filterMap selection.accept? ≠ [] := by
  constructor
  · intro ⟨front, obstacle, rest, split, _, hidden⟩ nothing
    have refused := List.filterMap_eq_nil_iff.mp nothing
    refine hidden (List.filterMap_eq_nil_iff.mpr fun other member => refused other ?_)
    cases front with
    | nil =>
        cases split
        exact member
    | cons head front =>
        cases split
        exact List.mem_append_right _ (List.mem_cons_of_mem _ member)
  · intro hidden
    exact ⟨[], entry, later, rfl, beyond, hidden⟩

/-- Where no accepted entry lies beyond a bound, scans in turn find all accepted values unless one
is hidden. By induction on the entries.
-/
theorem inTurn_eq_iff {entries : List Entry} (number : Nat)
    (inside
      : ∀ entry ∈ entries, ∀ value,
          selection.accept? entry = some value
          → ∀ number, isBeyond direction (bounds number) entry = false)
    : inTurn selection direction bounds number entries = entries.filterMap selection.accept?
      ↔ ¬Obstructs selection direction bounds number entries := by
  induction entries generalizing number with
  | nil =>
      refine iff_of_true rfl ?_
      intro ⟨front, obstacle, later, split, _⟩
      simp at split
  | cons entry later ih =>
      obtain ⟨near, inside⟩ := List.forall_mem_cons.mp inside
      cases beyond : isBeyond direction (bounds number) entry with
      | true =>
          have refused : selection.accept? entry = none := by
            cases accepted : selection.accept? entry with
            | none => rfl
            | some value => cases beyond.symm.trans (near value accepted number)
          rw [inTurn_of_beyond later beyond, List.filterMap_cons_none refused,
            obstructs_cons_of_beyond beyond, ne_eq, not_not, eq_comm]
      | false =>
          rw [obstructs_cons_of_inside beyond]
          cases accepted : selection.accept? entry with
          | none =>
              rw [inTurn_of_skipped later beyond accepted, List.filterMap_cons_none accepted]
              exact ih number inside
          | some value =>
              rw [inTurn_of_found later beyond accepted, List.filterMap_cons_some accepted,
                List.cons_inj_right]
              exact ih (number + 1) inside

/-- A scan in its turn that finds nothing is the last. -/
theorem inTurn_of_missed {number : Nat} {position after : Position}
    (h
      : run selection (.ofBucket bucket) direction (bounds number) position
        = (none, after))
    : inTurn selection direction bounds number (position.ahead direction bucket) = [] := by
  cases run_ending h with
  | exhausted passed inside =>
      rw [← List.append_nil (position.ahead direction bucket), inTurn_append [] passed inside]
      rfl
  | stopped split passed inside beyond =>
      rw [split, inTurn_append _ passed inside, inTurn_of_beyond _ beyond]

/-- A scan in its turn that finds a value leaves the others to those after it. -/
theorem inTurn_of_run {number : Nat} {position after : Position} {value : Observation}
    (h
      : run selection (.ofBucket bucket) direction (bounds number) position
        = (some value, after))
    : inTurn selection direction bounds number (position.ahead direction bucket)
        = value :: inTurn selection direction bounds (number + 1) (after.ahead direction bucket)
      ∧ (after.ahead direction bucket).length < (position.ahead direction bucket).length := by
  cases run_ending h with
  | found split passed inside last accepted =>
      obtain ⟨following, _⟩ := Position.ahead_of_split split
      rw [split, inTurn_append _ passed inside, inTurn_of_found _ last accepted, following]
      refine ⟨rfl, ?_⟩
      rw [List.length_append, List.length_cons]
      omega

end Scan

-----------------------------------------------------------------------------------------
-- Walks
-----------------------------------------------------------------------------------------

/-- Where a walk begins: at the first value, at the first one from a time on, or at the last. -/
inductive Start where
  | first
  | since (time : Timestamp)
  | last

namespace Start

def direction : Start → Direction
  | first | since _ => .forward
  | last => .backward

/-- The move over the stored entries that a walk begins with. -/
def move : Start → Move
  | first => .first
  | since time => .seek (Key.ofTime time)
  | last => .last

/-- The bound of a call at a time: forward that time, backward 1970. -/
def bound (now : Timestamp) : Start → Timestamp
  | first | since _ => now
  | last => .epoch

/-- The call that a walk begins with. -/
def enter (start : Start) (cursor : Cursor) (lookup : Lookup) (now : Timestamp)
    : Option Observation × Cursor :=
  match start with
  | first => cursor.first lookup now
  | since time => cursor.seek lookup now time
  | last => cursor.last lookup

/-- The call that a walk goes on with. -/
def advance (start : Start) (cursor : Cursor) (lookup : Lookup) (now : Timestamp)
    : Option Observation × Cursor :=
  match start with
  | first | since _ => cursor.next lookup now
  | last => cursor.prev lookup

/-- How a walk goes on after an answer: a call follows each answer with a value. The clock tells the
time of each call by the number of those before it.
-/
inductive Walk (start : Start) (lookup : Lookup) (clock : Nat → Timestamp)
    : Nat → Option Observation × Cursor → List Observation → Prop where
  | ended {calls : Nat} {cursor : Cursor} : Walk start lookup clock calls (none, cursor) []
  | found {calls : Nat} {value : Observation} {cursor : Cursor} {values : List Observation}
      (others
        : Walk start lookup clock (calls + 1) (start.advance cursor lookup (clock calls)) values)
    : Walk start lookup clock calls (some value, cursor) (value :: values)

/-- A walk of a fresh cursor shows values and ends. -/
def Shows (start : Start) (clock : Nat → Timestamp) (thing : String) (name : Option String)
    (bucket : Bucket) (values : List Observation) : Prop :=
  start.Walk (.ofBucket bucket) clock 1
    (start.enter (.opened thing name) (.ofBucket bucket) (clock 0)) values

variable {start : Start} {lookup : Lookup} {clock : Nat → Timestamp} {bucket : Bucket}

theorem enter_eq (start : Start) (cursor : Cursor) (lookup : Lookup) (now : Timestamp)
    : start.enter cursor lookup now
      = cursor.moveAndSettle lookup start.move start.direction (start.bound now) := by
  cases start <;> rfl

theorem advance_eq (start : Start) (cursor : Cursor) (lookup : Lookup) (now : Timestamp)
    : start.advance cursor lookup now
      = cursor.place
          (Scan.run cursor.selection lookup start.direction (start.bound now).millis
            cursor.position) := by
  cases start <;> rfl

/-- A walk shows the same values each time, by induction on the walk. -/
theorem Walk.unique {calls : Nat} {answer : Option Observation × Cursor}
    {values others : List Observation} (walk : start.Walk lookup clock calls answer values)
    (again : start.Walk lookup clock calls answer others)
    : values = others := by
  induction walk generalizing others with
  | ended =>
      cases again
      rfl
  | found _ ih =>
      cases again with
      | found following => exact congrArg _ (ih following)

/-- The bounds of the calls of a walk in milliseconds. -/
def bounds (start : Start) (clock : Nat → Timestamp) (number : Nat) : Int :=
  (start.bound (clock number)).millis

/-- A walk goes on over the entries ahead of its cursor, by induction on a number above theirs. -/
theorem walk_advance (start : Start) (clock : Nat → Timestamp) (bucket : Bucket) {size : Nat}
    (cursor : Cursor) (calls : Nat)
    (few : (cursor.position.ahead start.direction bucket).length < size)
    : start.Walk (.ofBucket bucket) clock (calls + 1)
        (start.advance cursor (.ofBucket bucket) (clock calls))
        (Scan.inTurn cursor.selection start.direction (start.bounds clock) calls
          (cursor.position.ahead start.direction bucket)) := by
  induction size generalizing cursor calls with
  | zero => cases few
  | succ size ih =>
      rw [advance_eq]
      rcases result
        : Scan.run cursor.selection (.ofBucket bucket) start.direction (start.bounds clock calls)
            cursor.position
        with ⟨found | value, after⟩
      · rw [Scan.inTurn_of_missed result]
        exact result ▸ .ended
      · obtain ⟨others, fewer⟩ := Scan.inTurn_of_run result
        rw [others]
        have next :=
          ih { cursor with position := after } (calls + 1)
            (Nat.lt_of_lt_of_le fewer (Nat.le_of_lt_succ few))
        exact result ▸ .found next

-----------------------------------------------------------------------------------------
-- Where walks land
-----------------------------------------------------------------------------------------

/-- The entries from the one on which the first move of a walk lands, as the walk meets them. -/
def reached (start : Start) (bucket : Bucket) : List Entry :=
  match start with
  | first => bucket.entries
  | since time => bucket.entries.filter fun entry => !before entry.1 (Key.ofTime time)
  | last => bucket.entries.reverse

theorem move_eq (start : Start) (bucket : Bucket) (position : Position)
    : position.move (.ofBucket bucket) start.move
      = Position.land (start.reached bucket).head? start.direction.farEnd := by
  cases start with
  | first =>
      have nearest : bucket.ceiling .unbounded = bucket.entries.head? := by
        cases entries : bucket.entries <;> simp [OrderedMap.ceiling, entries, Bound.liesBelow]
      exact congrArg (Position.land · _) nearest
  | last =>
      have nearest : bucket.floor .unbounded = bucket.entries.reverse.head? := by
        rw [List.head?_reverse, OrderedMap.floor]
        exact congrArg List.getLast? (List.filter_eq_self.mpr fun _ _ => rfl)
      exact congrArg (Position.land · _) nearest
  | since time =>
      have nearest
          : bucket.ceiling (.including (Key.ofTime time))
            = (reached (.since time) bucket).head? := by
        rw [reached, List.head?_filter]
        rfl
      exact congrArg (Position.land · _) nearest

/-- The entries reached are the last ones on the way. -/
theorem exists_unreached (start : Start) (bucket : Bucket)
    : ∃ unreached, start.direction.along bucket.entries = unreached ++ start.reached bucket := by
  cases start with
  | first => exact ⟨[], rfl⟩
  | last => exact ⟨[], rfl⟩
  | since time =>
      have staged
          : bucket.entries.Pairwise fun a b =>
              (!before a.1 (Key.ofTime time)) = true → (!before b.1 (Key.ofTime time)) = true := by
        refine bucket.ascending.imp fun {a b} front reached => ?_
        rw [Bool.not_eq_true'] at reached ⊢
        refine Bool.eq_false_iff.mpr fun back => ?_
        exact Bool.false_ne_true (reached.symm.trans (trans front back))
      exact ⟨_, (Staged.filter_append_filter staged).symm⟩

/-- The selected values of the entries reached, which a walk is to show. -/
def selected (start : Start) (selection : Selection) (bucket : Bucket) : List Observation :=
  (start.reached bucket).filterMap selection.accept?

/-- The values that a walk shows. -/
def values (start : Start) (selection : Selection) (clock : Nat → Timestamp) (bucket : Bucket)
    : List Observation :=
  match start.reached bucket with
  | [] => []
  | entry :: later =>
    (selection.accept? entry).toList
      ++ Scan.inTurn selection start.direction (start.bounds clock)
          (selection.accept? entry).toList.length later

theorem values_of_reached {start : Start} {entry : Entry} {later : List Entry}
    (landed : start.reached bucket = entry :: later) (selection : Selection)
    (clock : Nat → Timestamp)
    : start.values selection clock bucket
      = (selection.accept? entry).toList
        ++ Scan.inTurn selection start.direction (start.bounds clock)
            (selection.accept? entry).toList.length later := by
  rw [values, landed]

/-- A walk takes the value of the entry on which it lands, whatever its time, and goes on after it.
-/
theorem walk_enter (start : Start) (clock : Nat → Timestamp) (bucket : Bucket) (cursor : Cursor)
    : start.Walk (.ofBucket bucket) clock 1
        (start.enter cursor (.ofBucket bucket) (clock 0))
        (start.values cursor.selection clock bucket) := by
  rw [enter_eq, Cursor.moveAndSettle, move_eq]
  obtain ⟨unreached, along⟩ := start.exists_unreached bucket
  cases landed : start.reached bucket with
  | nil =>
      rw [values, landed]
      exact .ended
  | cons entry later =>
      rw [landed] at along
      let standing := { cursor with position := .standing entry.1 }
      have walk (calls : Nat) := start.walk_advance clock bucket standing calls (Nat.lt_succ_self _)
      have following : standing.position.ahead start.direction bucket = later :=
        Position.ahead_standing unreached along
      rw [following] at walk
      rw [values_of_reached landed, List.head?_cons, Position.land, Scan.settle]
      cases cursor.selection.accept? entry with
      | some value => exact .found (walk 1)
      | none =>
          have next := walk 0
          rw [advance_eq] at next
          exact next

theorem shows_iff {start : Start} {clock : Nat → Timestamp} {thing : String} {name : Option String}
    {bucket : Bucket} {values : List Observation}
    : start.Shows clock thing name bucket values
      ↔ values = start.values (.of thing name) clock bucket := by
  have shown := start.walk_enter clock bucket (.opened thing name)
  constructor
  · intro walk
    exact Walk.unique walk shown
  · rintro rfl
    exact shown

end Start

end ValueHistory
