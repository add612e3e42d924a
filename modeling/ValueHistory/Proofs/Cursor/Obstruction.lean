import ValueHistory.Proofs.Cursor.Walking
import ValueHistory.Proofs.Cursor.Windows

/-! Entries that cannot be read, among recorded ones. A scan passes over them, but it looks at the
time in a key before it looks at the rest of the entry: an entry that cannot be read and has a key
of a time beyond the bound hides the values behind it, though its key may come before theirs.
-/

namespace ValueHistory

/-- Whether a value of a Thing can be read from an entry. -/
def Entry.isReadable (thing : String) (entry : Entry) : Bool :=
  ((Selection.of thing none).accept? entry).isSome

variable {thing : String} {name : Option String} {clock : Nat → Timestamp} {bucket : Bucket}

/-- A recorded entry does not lie beyond the bound of a call that is not made before its time. -/
theorem Entry.IsRecorded.not_isBeyond {entry : Entry} (recorded : entry.IsRecorded thing)
    {number : Nat} (past : entry.millis ≤ (clock number).millis) (start : Start)
    : Scan.isBeyond start.direction (start.bounds clock number) entry = false := by
  rw [recorded.isBeyond_eq]
  cases start with
  | first | since => exact decide_eq_false (Int.not_lt.mpr past)
  | last => exact decide_eq_false (Int.not_lt.mpr recorded.millis_nonneg)

namespace Selection

theorem isReadable_of_accept? {entry : Entry} {value : Observation}
    (accepted : (Selection.of thing name).accept? entry = some value)
    : entry.isReadable thing = true := by
  obtain ⟨key, parsed, _, decoded⟩ := accept?_eq_some accepted
  have any : (Selection.of thing none).accept? entry = some value := by
    have whole : Entry.decode (Selection.of thing none).thing entry = .ok (some value) := decoded
    simp only [accept?, parsed, whole]
    exact if_pos rfl
  rw [Entry.isReadable, any]
  rfl

/-- Entries that cannot be read add nothing to the values. -/
theorem filterMap_readable (thing : String) (name : Option String) (entries : List Entry)
    : (entries.filter (Entry.isReadable thing)).filterMap (Selection.of thing name).accept?
      = entries.filterMap (Selection.of thing name).accept? := by
  rw [List.filterMap_filter]
  refine List.filterMap_congr fun entry _ => ?_
  cases accepted : (Selection.of thing name).accept? entry with
  | none => exact ite_self none
  | some value => exact if_pos (isReadable_of_accept? accepted)

end Selection

namespace Bucket

/-- The entries of a bucket that can be read. -/
def readable (thing : String) (bucket : Bucket) : Bucket :=
  bucket.filter (Entry.isReadable thing)

/-- Every entry that can be read was recorded, and is not later than any time of the clock. -/
def Mixed (thing : String) (clock : Nat → Timestamp) (bucket : Bucket) : Prop :=
  ∀ entry ∈ bucket.entries,
    Entry.isReadable thing entry = false
    ∨ Entry.IsRecorded thing entry ∧ ∀ number, Entry.millis entry ≤ (clock number).millis

namespace Mixed

theorem recorded (mixed : bucket.Mixed thing clock) : (bucket.readable thing).Recorded thing := by
  intro entry member
  obtain ⟨member, isReadable⟩ := List.mem_filter.mp member
  rcases mixed entry member with unreadable | ⟨recorded, _⟩
  · cases isReadable.symm.trans unreadable
  · exact recorded

theorem readable (mixed : bucket.Mixed thing clock) : (bucket.readable thing).Mixed thing clock :=
  fun entry member => mixed entry (List.mem_filter.mp member).1

/-- No value lies beyond the bound of a call. -/
theorem inside (mixed : bucket.Mixed thing clock) (start : Start) {entry : Entry}
    (member : entry ∈ bucket.entries) (isReadable : entry.isReadable thing = true) (number : Nat)
    : Scan.isBeyond start.direction (start.bounds clock number) entry = false := by
  rcases mixed entry member with unreadable | ⟨recorded, past⟩
  · cases isReadable.symm.trans unreadable
  · exact recorded.not_isBeyond (past number) start

end Mixed

end Bucket

-----------------------------------------------------------------------------------------
-- Walks past entries that cannot be read
-----------------------------------------------------------------------------------------

namespace Start

variable {start : Start}

/-- The walk ends in front of an entry that is not the first one it reaches, since the key of this
one lies beyond the bound of the call that meets it, and a selected value lies behind.
-/
def Obstructed (start : Start) (selection : Selection) (clock : Nat → Timestamp) (bucket : Bucket)
    : Prop :=
  ∃ front obstacle later,
    start.reached bucket = front ++ obstacle :: later
    ∧ front ≠ []
    ∧ Scan.isBeyond start.direction
        (start.bounds clock (front.filterMap selection.accept?).length) obstacle
      = true
    ∧ later.filterMap selection.accept? ≠ []

theorem reached_readable (start : Start) (thing : String) (bucket : Bucket)
    : start.reached (bucket.readable thing)
      = (start.reached bucket).filter (Entry.isReadable thing) := by
  cases start with
  | first => rfl
  | last => exact List.filter_reverse.symm
  | since time => exact List.filter_comm ..

theorem selected_readable (start : Start) (thing : String) (name : Option String)
    (bucket : Bucket)
    : start.selected (.of thing name) (bucket.readable thing)
      = start.selected (.of thing name) bucket := by
  rw [selected, reached_readable, Selection.filterMap_readable, selected]

theorem mem_of_mem_reached {entry : Entry} (member : entry ∈ start.reached bucket)
    : entry ∈ bucket.entries := by
  cases start with
  | first => exact member
  | last => exact List.mem_reverse.mp member
  | since time => exact (List.mem_filter.mp member).1

/-- A walk shows the first ones of the values that it reaches. -/
theorem values_isPrefixOf (start : Start) (selection : Selection) (clock : Nat → Timestamp)
    (bucket : Bucket)
    : start.values selection clock bucket <+: start.selected selection bucket := by
  rw [selected]
  cases landed : start.reached bucket with
  | nil =>
      rw [values, landed]
      exact List.prefix_rfl
  | cons entry later =>
      rw [values_of_reached landed, selection.filterMap_cons]
      exact (List.prefix_append_right_inj _).mpr (Scan.inTurn_isPrefixOf ..)

/-- A walk among recorded entries and entries that cannot be read shows all values that it reaches,
unless it is obstructed.
-/
theorem values_eq_iff (mixed : bucket.Mixed thing clock) (start : Start) (name : Option String)
    : start.values (.of thing name) clock bucket = start.selected (.of thing name) bucket
      ↔ ¬start.Obstructed (.of thing name) clock bucket := by
  have inside
      : ∀ entry ∈ start.reached bucket, ∀ value,
          (Selection.of thing name).accept? entry = some value
          → ∀ number, Scan.isBeyond start.direction (start.bounds clock number) entry = false :=
    fun entry member value accepted =>
      mixed.inside start (mem_of_mem_reached member) (Selection.isReadable_of_accept? accepted)
  rw [Obstructed, selected]
  cases landed : start.reached bucket with
  | nil =>
      rw [values, landed]
      refine iff_of_true rfl ?_
      rintro ⟨front, obstacle, later, split, _⟩
      simp at split
  | cons entry later =>
      rw [landed] at inside
      have hidden :=
        @Scan.obstructs_later_iff (.of thing name) start.direction (start.bounds clock) entry
          later 0
      simp only [Nat.zero_add] at hidden
      rw [values_of_reached landed, Selection.filterMap_cons, List.append_right_inj,
        Scan.inTurn_eq_iff _ (List.forall_mem_cons.mp inside).2, hidden]

/-- Entries that can all be read do not obstruct a walk. -/
theorem not_obstructed_readable (mixed : bucket.Mixed thing clock) (start : Start)
    (selection : Selection)
    : ¬start.Obstructed selection clock (bucket.readable thing) := by
  intro ⟨front, obstacle, later, split, _, beyond, _⟩
  have member : obstacle ∈ start.reached (bucket.readable thing) := by
    rw [split]
    exact List.mem_append_right _ List.mem_cons_self
  obtain ⟨member, isReadable⟩ := List.mem_filter.mp (mem_of_mem_reached member)
  exact Bool.false_ne_true ((mixed.inside start member isReadable _).symm.trans beyond)

end Start

-----------------------------------------------------------------------------------------
-- Pages past entries that cannot be read
-----------------------------------------------------------------------------------------

namespace Cursor

variable {direction : Direction}

/-- Without obstructions the pages of a cursor are told by the values that it has left to read. By
induction on the windows.
-/
theorem pages_eq_of_rest {other : Bucket} {windows : List Window} {left right : Cursor}
    (clear : bucket.Unobstructed left.selection direction)
    (otherClear : other.Unobstructed right.selection direction)
    (same : left.rest direction bucket = right.rest direction other)
    : (left.pages (.ofBucket bucket) direction windows).1
      = (right.pages (.ofBucket other) direction windows).1 := by
  induction windows generalizing left right with
  | nil => rfl
  | cons window later ih =>
      rcases answer : left.page (.ofBucket bucket) direction window.bound window.limit
        with ⟨page, leftAfter⟩
      rcases otherAnswer : right.page (.ofBucket other) direction window.bound window.limit
        with ⟨otherPage, rightAfter⟩
      obtain ⟨shown, split⟩ := page_shows_of_unobstructed clear answer
      obtain ⟨otherShown, otherSplit⟩ := page_shows_of_unobstructed otherClear otherAnswer
      obtain ⟨position, _, rfl⟩ := page_cases answer
      obtain ⟨otherPosition, _, rfl⟩ := page_cases otherAnswer
      have samePage : page = otherPage := by rw [shown, otherShown, same]
      subst samePage
      rw [same, ← otherSplit] at split
      have following :=
        @ih { left with position } { right with position := otherPosition } clear otherClear
          (List.append_cancel_left split)
      simp only [pages, answer, otherAnswer, following]

theorem rest_opened_readable (thing : String) (name : Option String) (direction : Direction)
    (bucket : Bucket)
    : (opened thing name).rest direction (bucket.readable thing)
      = (opened thing name).rest direction bucket := by
  have along
      : direction.along (bucket.readable thing).entries
        = (direction.along bucket.entries).filter (Entry.isReadable thing) := by
    cases direction with
    | forward => rfl
    | backward => exact List.filter_reverse.symm
  rw [rest_opened_eq, rest_opened_eq, along, Selection.filterMap_readable]

/-- A window shows nothing from behind an entry beyond its bound, whatever there is. -/
theorem page_opened_sublist {front later : List Entry} {obstacle : Entry}
    (split : direction.along bucket.entries = front ++ obstacle :: later) {window : Window}
    (beyond : Scan.isBeyond direction window.bound.millis obstacle = true)
    : List.Sublist
        ((opened thing name).page (.ofBucket bucket) direction window.bound window.limit).1.values
        ((front.filterMap (Selection.of thing name).accept?).filter fun value =>
          !direction.crosses window.bound.millis value.millis) := by
  rcases answer
    : (opened thing name).page (.ofBucket bucket) direction window.bound window.limit
    with ⟨page, after⟩
  obtain ⟨position, scanned, rfl⟩ := page_cases answer
  obtain ⟨values, _⟩ := Scan.page_reaches scanned
  have ahead
      : (opened thing name).position.ahead direction bucket = front ++ obstacle :: later :=
    (Position.ahead_unplaced direction bucket).trans split
  rw [Position.reach, ahead] at values
  have short
      : ((front ++ obstacle :: later).takeWhile fun entry =>
          !Scan.isBeyond direction window.bound.millis entry).Sublist front := by
    rw [List.takeWhile_append]
    split
    · rw [List.takeWhile_cons_of_neg (by simp [beyond]), List.append_nil]
    · exact List.takeWhile_sublist _
  have inside
      : ∀ value ∈ page.values, (!direction.crosses window.bound.millis value.millis) = true := by
    intro value member
    rw [values] at member
    obtain ⟨entry, reached, accepted⟩ := List.mem_filterMap.mp (List.mem_of_mem_take member)
    rw [← Scan.isBeyond_of_accept? accepted]
    exact List.all_eq_true.mp List.all_takeWhile entry reached
  rw [← List.filter_eq_self.mpr inside]
  refine List.Sublist.filter _ ?_
  rw [values]
  exact (List.take_sublist ..).trans (short.filterMap _)

/-- Without the entries that cannot be read, a window with room for the whole bucket shows all
values within its bound.
-/
theorem page_opened_readable (mixed : bucket.Mixed thing clock) (name : Option String)
    (direction : Direction) {window : Window} (enough : bucket.size ≤ window.room)
    : ((opened thing name).page (.ofBucket (bucket.readable thing)) direction window.bound
        window.limit).1.values
      = ((direction.along bucket.entries).filterMap (Selection.of thing name).accept?).filter
          fun value => !direction.crosses window.bound.millis value.millis := by
  rcases answer
    : (opened thing name).page (.ofBucket (bucket.readable thing)) direction window.bound
        window.limit
    with ⟨page, after⟩
  obtain ⟨shown, _⟩ := page_shows mixed.recorded answer
  rw [rest_opened_readable, rest_opened_eq] at shown
  rw [shown]
  refine Window.values_of_room (Nat.le_trans (List.length_filterMap_le ..) ?_)
  rw [direction.length_along bucket]
  exact enough

/-- Where pages of all sizes up to all times hold the same values as without the entries that cannot
be read, no value lies behind an obstruction: it would be missing from a page up to its own time.
-/
theorem unobstructed_of_pages (mixed : bucket.Mixed thing clock)
    (same
      : ∀ windows,
          Page.concat ((opened thing name).pages (.ofBucket bucket) direction windows).1
          = Page.concat
              ((opened thing name).pages (.ofBucket (bucket.readable thing)) direction windows).1)
    : bucket.Unobstructed (.of thing name) direction := by
  refine List.pairwise_iff_forall_sublist.mpr fun {obstacle origin} within value accepted => ?_
  apply Bool.eq_false_iff.mpr
  intro beyond
  obtain ⟨near, far, along, obstacleMember, behind⟩ := List.cons_sublist_iff.mp within
  obtain ⟨front, between, rfl⟩ := List.append_of_mem obstacleMember
  rw [List.append_assoc, List.cons_append] at along
  obtain ⟨time, _, own⟩ := Selection.exists_time_of_accept? accepted
  rw [← own] at beyond
  let window : Window := ⟨time, bucket.size + 1⟩
  have shown := @page_opened_sublist thing name bucket direction _ _ _ along window beyond
  have enough : bucket.size ≤ window.room := Nat.le_succ bucket.size
  have single := same [window]
  rw [concat_pages_singleton, concat_pages_singleton,
    page_opened_readable mixed name direction enough] at single
  rw [single, along, List.filterMap_append, List.filter_append] at shown
  have hidden
      : value
        ∈ ((obstacle :: (between ++ far)).filterMap (Selection.of thing name).accept?).filter
            fun value => !direction.crosses window.bound.millis value.millis := by
    have member : origin ∈ far := List.singleton_sublist.mp behind
    refine List.mem_filter.mpr ⟨List.mem_filterMap.mpr ⟨origin, ?_, accepted⟩, ?_⟩
    · exact List.mem_cons_of_mem _ (List.mem_append_right _ member)
    · rw [← own]
      cases direction <;> simp [Direction.crosses, window]
  have fewer := shown.length_le
  have present := List.length_pos_of_mem hidden
  rw [List.length_append] at fewer
  omega

end Cursor

namespace Bucket

/-- Without the entries that cannot be read, a walk shows all selected values from where it lands
on. With them it shows the same exactly if it is not obstructed, and in any case the first ones.
Pages hold the same values with and without them, whatever they are asked for, exactly if nothing on
the way lies beyond a value that comes after it. Witness: what is left to read in front of an
obstruction, compared with what is left without the entries that cannot be read.
-/
theorem values_shown_among_unreadable (mixed : bucket.Mixed thing clock) (name : Option String)
    : (∀ start : Start,
        start.Shows clock thing name (bucket.readable thing)
          (start.selected (.of thing name) bucket)
        ∧ (start.Shows clock thing name bucket (start.selected (.of thing name) bucket)
          ↔ ¬start.Obstructed (.of thing name) clock bucket)
        ∧ ∃ shown,
            start.Shows clock thing name bucket shown
            ∧ shown <+: start.selected (.of thing name) bucket)
      ∧ ∀ direction,
          (∀ windows,
            Page.concat ((Cursor.opened thing name).pages (.ofBucket bucket) direction windows).1
            = Page.concat
                ((Cursor.opened thing name).pages (.ofBucket (bucket.readable thing)) direction
                  windows).1)
          ↔ bucket.Unobstructed (.of thing name) direction := by
  constructor
  · intro start
    refine ⟨?_, ?_, ?_⟩
    · have all := (Start.values_eq_iff mixed.readable start name).mpr
        (Start.not_obstructed_readable mixed start _)
      rw [Start.shows_iff, all, Start.selected_readable]
    · rw [Start.shows_iff, eq_comm]
      exact Start.values_eq_iff mixed start name
    · exact ⟨_, Start.shows_iff.mpr rfl, start.values_isPrefixOf _ clock bucket⟩
  · intro direction
    constructor
    · exact Cursor.unobstructed_of_pages mixed
    · intro clear windows
      have otherClear := mixed.recorded.unobstructed (.of thing name) direction
      exact congrArg Page.concat (Cursor.pages_eq_of_rest clear otherClear
        (Cursor.rest_opened_readable thing name direction bucket).symm)

/-- The entry of a property of a lamp that was set a number of seconds after 1970 began. -/
def lampEntry (name : String) (seconds : Int) : Entry :=
  let time := Timestamp.epoch.addSeconds seconds
  ((Observation.ofLamp name time).keyAt time, (Json.bool true).toBytes)

theorem isRecorded_lampEntry {name : String} {seconds : Int}
    (accepted
      : (Observation.ofLamp name (Timestamp.epoch.addSeconds seconds)).check .epoch
        = .ok (.ofLamp name (Timestamp.epoch.addSeconds seconds)))
    : Entry.IsRecorded "lamp" (lampEntry name seconds) :=
  Observation.isRecorded .epoch (.ofLamp name (Timestamp.epoch.addSeconds seconds)) accepted rfl

/-- An entry of an unknown kind. Its time has four digits more than that of others, so that its key
comes before keys of earlier times.
-/
def strayEntry : Entry :=
  (Bytes.ofString "0000000000000009999/on/x/switch", (Json.bool true).toBytes)

def strayLamp : Bucket :=
  ⟨[lampEntry "on" 0, strayEntry, lampEntry "bright" 1], by decide⟩

/-- The brightness of the lamp is hidden, from a walk and from a page. -/
theorem values_of_stray_lamp_hidden
    : strayLamp.Mixed "lamp" (fun _ => Timestamp.epoch.addSeconds 2)
      ∧ Start.first.Shows (fun _ => Timestamp.epoch.addSeconds 2) "lamp" none
          (strayLamp.readable "lamp")
          [.ofLamp "on" .epoch, .ofLamp "bright" (Timestamp.epoch.addSeconds 1)]
      ∧ ¬Start.first.Shows (fun _ => Timestamp.epoch.addSeconds 2) "lamp" none strayLamp
          [.ofLamp "on" .epoch, .ofLamp "bright" (Timestamp.epoch.addSeconds 1)]
      ∧ ∃ windows,
          Page.concat
              ((Cursor.opened "lamp" none).pages (.ofBucket strayLamp) .forward windows).1
            ≠ Page.concat
                ((Cursor.opened "lamp" none).pages (.ofBucket (strayLamp.readable "lamp")) .forward
                  windows).1 := by
  have on : Entry.IsRecorded "lamp" (lampEntry "on" 0) :=
    Observation.isRecorded .epoch (.ofLamp "on" .epoch) rfl rfl
  have bright : Entry.IsRecorded "lamp" (lampEntry "bright" 1) :=
    Observation.isRecorded .epoch (.ofLamp "bright" (Timestamp.epoch.addSeconds 1)) rfl rfl
  have past (name : String) (seconds : Int)
      (before : (lampEntry name seconds).millis ≤ 2000) (number : Nat)
      : (lampEntry name seconds).millis ≤ (Timestamp.epoch.addSeconds 2).millis :=
    before
  have mixed : strayLamp.Mixed "lamp" fun _ => Timestamp.epoch.addSeconds 2 := by
    refine List.forall_mem_cons.mpr ⟨.inr ⟨on, past _ _ (by decide)⟩, ?_⟩
    refine List.forall_mem_cons.mpr ⟨.inl (by decide), ?_⟩
    exact List.forall_mem_singleton.mpr (.inr ⟨bright, past _ _ (by decide)⟩)
  obtain ⟨walks, pages⟩ := values_shown_among_unreadable mixed none
  obtain ⟨shown, same, _⟩ := walks .first
  refine ⟨mixed, shown, ?_, ?_⟩
  · intro shownToo
    refine same.mp shownToo ?_
    refine ⟨[lampEntry "on" 0], strayEntry, [lampEntry "bright" 1], rfl, ?_, ?_, ?_⟩
    · exact List.cons_ne_nil _ _
    · decide
    · exact List.cons_ne_nil _ _
  · apply Classical.byContradiction
    intro none
    have clear := (pages .forward).mp fun windows =>
      Classical.byContradiction fun different => none ⟨windows, different⟩
    have behind := (List.pairwise_cons.mp (List.pairwise_cons.mp clear).2).1
    have inside := behind (lampEntry "bright" 1) List.mem_cons_self _ rfl
    exact absurd inside (by decide)

end Bucket

end ValueHistory
