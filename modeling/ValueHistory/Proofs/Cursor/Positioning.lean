import ValueHistory.Proofs.Cursor.Obstruction
import ValueHistory.Proofs.Cursor.Seeking

/-! Moves to the first value, to the last one, and to a time, wherever the cursor stood before. What
they are to find is told by keys alone: the selected entry that comes first on the way. They accept
an entry on which they land whatever its time, but a scan from there is bounded by the present, so
that a value later than the present is found only if no other entry comes before it.
-/

namespace ValueHistory

open KeyOrder

namespace Start

variable {thing : String} {bucket : Bucket} {selection : Selection} {start : Start} {entry : Entry}

-----------------------------------------------------------------------------------------
-- What a move is to find
-----------------------------------------------------------------------------------------

/-- Whether a walk may begin at milliseconds: a walk since a time begins from that time on. -/
def admits (millis : Int) : Start → Bool
  | first | last => true
  | since time => time.isReached millis

/-- The entry that a walk is to begin with: of the selected ones at which it may begin, the one that
comes first on the way.
-/
structure IsSought (start : Start) (selection : Selection) (bucket : Bucket) (entry : Entry)
    : Prop where
  stored : entry ∈ bucket.entries
  admitted : start.admits (Entry.millis entry) = true
  accepted : (selection.accept? entry).isSome = true
  ahead
    : ∀ other ∈ bucket.entries,
        start.admits (Entry.millis other) = true
        → (selection.accept? other).isSome = true
        → other = entry ∨ start.direction.leads entry.1 other.1 = true

/-- A walk overlooks an entry that is later than the present if it goes forward and may begin at an
entry that comes before this one.
-/
structure Overlooks (start : Start) (now : Timestamp) (bucket : Bucket) (entry : Entry)
    : Prop where
  forward : start.direction = .forward
  late : now.millis < Entry.millis entry
  behind
    : ∃ other ∈ bucket.entries,
        start.admits (Entry.millis other) = true
        ∧ start.direction.leads other.1 entry.1 = true

theorem mem_reached_iff (recorded : bucket.Recorded thing)
    : entry ∈ start.reached bucket
      ↔ entry ∈ bucket.entries ∧ start.admits (Entry.millis entry) = true := by
  cases start with
  | first => simp [reached, admits]
  | last => simp [reached, admits]
  | since time =>
      rw [reached, List.mem_filter]
      refine and_congr_right fun member => ?_
      rw [(recorded entry member).not_before_ofTime, admits]

theorem pairwise_reached (start : Start) (bucket : Bucket)
    : (start.reached bucket).Pairwise fun a b => start.direction.leads a.1 b.1 = true := by
  have ordered := start.direction.pairwise_along bucket
  obtain ⟨unreached, along⟩ := start.exists_unreached bucket
  rw [along] at ordered
  exact (List.pairwise_append.mp ordered).2.1

/-- An entry is sought exactly if it is the first selected one among those reached. -/
theorem isSought_iff (recorded : bucket.Recorded thing)
    : start.IsSought selection bucket entry
      ↔ (selection.accept? entry).isSome = true
        ∧ ∃ front later,
            start.reached bucket = front ++ entry :: later
            ∧ ∀ other ∈ front, selection.accept? other = none := by
  constructor
  · intro sought
    have member := (mem_reached_iff recorded).mpr ⟨sought.stored, sought.admitted⟩
    obtain ⟨front, later, split⟩ := List.append_of_mem member
    refine ⟨sought.accepted, front, later, split, fun other passed => ?_⟩
    have ordered := start.pairwise_reached bucket
    rw [split] at ordered
    have leads := (List.pairwise_append.mp ordered).2.2 other passed entry List.mem_cons_self
    obtain ⟨stored, admitted⟩ :=
      (mem_reached_iff recorded).mp (split ▸ List.mem_append_left _ passed)
    refine Option.not_isSome_iff_eq_none.mp fun accepted => ?_
    rcases sought.ahead other stored admitted accepted with rfl | back
    · exact absurd leads (by simp [Direction.leads_irrefl])
    · exact absurd leads (by simp [Direction.leads_asymm back])
  · intro ⟨accepted, front, later, split, passed⟩
    obtain ⟨stored, admitted⟩ :=
      (mem_reached_iff recorded).mp (split ▸ List.mem_append_right front List.mem_cons_self)
    refine ⟨stored, admitted, accepted, fun other otherStored otherAdmitted otherAccepted => ?_⟩
    have ordered := start.pairwise_reached bucket
    have member := (mem_reached_iff recorded).mpr ⟨otherStored, otherAdmitted⟩
    rw [split] at ordered member
    rcases List.mem_append.mp member with skipped | met
    · simp [passed other skipped] at otherAccepted
    · rcases List.mem_cons.mp met with rfl | following
      · exact .inl rfl
      · exact .inr ((List.pairwise_cons.mp (List.pairwise_append.mp ordered).2.1).1 other following)

/-- The first value reached is that of the sought entry. -/
theorem head?_selected_eq_some_iff (recorded : bucket.Recorded thing) {value : Observation}
    : (start.selected selection bucket).head? = some value
      ↔ ∃ entry,
          start.IsSought selection bucket entry ∧ selection.accept? entry = some value := by
  rw [selected, List.head?_filterMap, List.findSome?_eq_some_iff]
  constructor
  · rintro ⟨front, entry, later, split, accepted, passed⟩
    refine ⟨entry, (isSought_iff recorded).mpr ⟨?_, front, later, split, passed⟩, accepted⟩
    rw [accepted, Option.isSome_some]
  · rintro ⟨entry, sought, accepted⟩
    obtain ⟨_, front, later, split, passed⟩ := (isSought_iff recorded).mp sought
    exact ⟨front, entry, later, split, accepted, passed⟩

/-- Where a walk may begin at a selected entry, there is one that it is to begin with. -/
theorem exists_isSought_iff (recorded : bucket.Recorded thing)
    : (∃ entry, start.IsSought selection bucket entry)
      ↔ ∃ entry ∈ bucket.entries,
          start.admits (Entry.millis entry) = true
          ∧ (selection.accept? entry).isSome = true := by
  constructor
  · intro ⟨entry, sought⟩
    exact ⟨entry, sought.stored, sought.admitted, sought.accepted⟩
  · intro ⟨entry, stored, admitted, accepted⟩
    obtain ⟨value, accepted⟩ := Option.isSome_iff_exists.mp accepted
    have member : value ∈ start.selected selection bucket :=
      List.mem_filterMap.mpr ⟨entry, (mem_reached_iff recorded).mpr ⟨stored, admitted⟩, accepted⟩
    obtain ⟨nearest, head⟩ := Option.isSome_iff_exists.mp
      (List.isSome_head?.mpr (List.ne_nil_of_mem member))
    obtain ⟨sought, isSought, _⟩ := (head?_selected_eq_some_iff recorded).mp head
    exact ⟨sought, isSought⟩

-----------------------------------------------------------------------------------------
-- What a move finds
-----------------------------------------------------------------------------------------

/-- The value of the entry on which the first move of a walk lands, if it is selected. -/
def landing (start : Start) (selection : Selection) (bucket : Bucket) : Option Observation :=
  (start.reached bucket).head?.bind selection.accept?

/-- The sought entry is the one on which the move lands unless another one comes before it. -/
theorem isSome_landing_iff (recorded : bucket.Recorded thing)
    (sought : start.IsSought selection bucket entry)
    : (start.landing selection bucket).isSome = true
      ↔ ¬∃ other ∈ bucket.entries,
          start.admits (Entry.millis other) = true
          ∧ start.direction.leads other.1 entry.1 = true := by
  obtain ⟨accepted, front, later, split, passed⟩ := (isSought_iff recorded).mp sought
  have ordered := start.pairwise_reached bucket
  rw [split] at ordered
  obtain ⟨_, behind, crossing⟩ := List.pairwise_append.mp ordered
  cases front with
  | nil =>
      rw [landing, split]
      refine iff_of_true accepted fun ⟨other, stored, admitted, leads⟩ => ?_
      have member := (mem_reached_iff recorded).mpr ⟨stored, admitted⟩
      rcases List.mem_cons.mp (split ▸ member) with rfl | following
      · exact absurd leads (by simp [Direction.leads_irrefl])
      · have back := (List.pairwise_cons.mp behind).1 other following
        exact absurd leads (by simp [Direction.leads_asymm back])
  | cons landed front =>
      have member : landed ∈ start.reached bucket := split ▸ List.mem_cons_self
      obtain ⟨stored, admitted⟩ := (mem_reached_iff recorded).mp member
      have leads := crossing landed List.mem_cons_self entry List.mem_cons_self
      refine iff_of_false ?_ fun none => none ⟨landed, stored, admitted, leads⟩
      rw [landing, split, List.cons_append, List.head?_cons, Option.bind_some,
        passed landed List.mem_cons_self]
      exact Bool.false_ne_true

/-- A move finds the first value reached. Only where it has to pass over the entry on which it
lands, a value beyond the bound is not found.
-/
theorem enter_eq_head? (recorded : bucket.Recorded thing) (start : Start) (cursor : Cursor)
    (now : Timestamp)
    : (start.enter cursor (.ofBucket bucket) now).1
      = (start.selected cursor.selection bucket).head?.filter fun value =>
          (start.landing cursor.selection bucket).isSome
          || !start.direction.crosses (start.bound now).millis value.millis := by
  obtain ⟨unreached, along⟩ := start.exists_unreached bucket
  rw [enter_eq, Cursor.moveAndSettle, move_eq]
  exact (Scan.settle_reads recorded along (Prod.eta _).symm).1

/-- A sought entry is overlooked exactly if the move does not land on it and its milliseconds lie
beyond the bound.
-/
theorem overlooks_iff (recorded : bucket.Recorded thing)
    (sought : start.IsSought selection bucket entry) (now : Timestamp)
    : start.Overlooks now bucket entry
      ↔ (start.landing selection bucket).isSome = false
        ∧ start.direction.crosses (start.bound now).millis (Entry.millis entry) = true := by
  have behind := isSome_landing_iff recorded sought
  rw [← Bool.not_eq_true, behind, not_not]
  cases start with
  | first | since =>
      constructor
      · intro ⟨_, late, behind⟩
        exact ⟨behind, decide_eq_true late⟩
      · intro ⟨behind, late⟩
        exact ⟨rfl, of_decide_eq_true late, behind⟩
  | last =>
      have inside := (recorded entry sought.stored).millis_nonneg
      refine iff_of_false (fun ⟨forward, _, _⟩ => nomatch forward) fun ⟨_, early⟩ => ?_
      exact absurd inside (Int.not_le.mpr (of_decide_eq_true early))

/-- A move finds the value of the sought entry, unless it overlooks the entry. -/
theorem enter_eq_some_iff (recorded : bucket.Recorded thing) (start : Start) (cursor : Cursor)
    (now : Timestamp) {value : Observation}
    : (start.enter cursor (.ofBucket bucket) now).1 = some value
      ↔ ∃ entry,
          start.IsSought cursor.selection bucket entry
          ∧ cursor.selection.accept? entry = some value
          ∧ ¬start.Overlooks now bucket entry := by
  rw [enter_eq_head? recorded, Option.filter_eq_some_iff, head?_selected_eq_some_iff recorded]
  have found {entry : Entry} (sought : start.IsSought cursor.selection bucket entry)
      (accepted : cursor.selection.accept? entry = some value)
      : ((start.landing cursor.selection bucket).isSome
          || !start.direction.crosses (start.bound now).millis value.millis) = true
        ↔ ¬start.Overlooks now bucket entry := by
    rw [overlooks_iff recorded sought, Selection.millis_of_accept? accepted]
    simp [Classical.or_iff_not_imp_left]
  constructor
  · rintro ⟨⟨entry, sought, accepted⟩, inside⟩
    exact ⟨entry, sought, accepted, (found sought accepted).mp inside⟩
  · rintro ⟨entry, sought, accepted, noticed⟩
    exact ⟨⟨entry, sought, accepted⟩, (found sought accepted).mpr noticed⟩

theorem isSome_enter_iff (recorded : bucket.Recorded thing) (start : Start) (cursor : Cursor)
    (now : Timestamp)
    : (start.enter cursor (.ofBucket bucket) now).1.isSome = true
      ↔ ∃ entry,
          start.IsSought cursor.selection bucket entry ∧ ¬start.Overlooks now bucket entry := by
  rw [Option.isSome_iff_exists]
  constructor
  · rintro ⟨value, found⟩
    obtain ⟨entry, sought, _, noticed⟩ := (enter_eq_some_iff recorded start cursor now).mp found
    exact ⟨entry, sought, noticed⟩
  · rintro ⟨entry, sought, noticed⟩
    obtain ⟨value, accepted⟩ := Option.isSome_iff_exists.mp sought.accepted
    exact ⟨value, (enter_eq_some_iff recorded start cursor now).mpr
      ⟨entry, sought, accepted, noticed⟩⟩

/-- There is one entry at most that a walk is to begin with. -/
theorem IsSought.unique {other : Entry} (sought : start.IsSought selection bucket entry)
    (again : start.IsSought selection bucket other)
    : other = entry := by
  rcases sought.ahead other again.stored again.admitted again.accepted with same | leads
  · exact same
  · rcases again.ahead entry sought.stored sought.admitted sought.accepted with same | back
    · exact same.symm
    · exact absurd leads (by simp [Direction.leads_asymm back])

/-- From the first entry and from the last one on, something is sought in the same buckets. -/
theorem exists_isSought_first_iff_last (recorded : bucket.Recorded thing)
    : (∃ entry, first.IsSought selection bucket entry)
      ↔ ∃ entry, last.IsSought selection bucket entry := by
  rw [exists_isSought_iff recorded, exists_isSought_iff recorded]
  rfl

/-- Among recorded entries, whether they are later than the present or not, a move finds the value
of the sought entry wherever the cursor stood before, unless it overlooks the entry. There is a
sought entry exactly if there is a selected one at which the walk may begin. So the moves to the
first and to the last value agree on whether there is any, unless the first one is overlooked.
Witness: a move and the scan after it end at the first entry that is accepted, or in front of the
first one beyond the present.
-/
theorem enter_finds_sought (recorded : bucket.Recorded thing) (cursor : Cursor) (now : Timestamp)
    : (∀ (start : Start) (value : Observation),
        (start.enter cursor (.ofBucket bucket) now).1 = some value
        ↔ ∃ entry,
            start.IsSought cursor.selection bucket entry
            ∧ cursor.selection.accept? entry = some value
            ∧ ¬start.Overlooks now bucket entry)
      ∧ (∀ start : Start,
          (∃ entry, start.IsSought cursor.selection bucket entry)
          ↔ ∃ entry ∈ bucket.entries,
              start.admits (Entry.millis entry) = true
              ∧ (cursor.selection.accept? entry).isSome = true)
      ∧ ((cursor.first (.ofBucket bucket) now).1.isSome = (cursor.last (.ofBucket bucket)).1.isSome
          ↔ ¬∃ entry,
              first.IsSought cursor.selection bucket entry
              ∧ first.Overlooks now bucket entry) := by
  refine ⟨fun start value => enter_eq_some_iff recorded start cursor now,
    fun start => exists_isSought_iff recorded, ?_⟩
  have oldest := isSome_enter_iff recorded first cursor now
  have newest : (cursor.last (.ofBucket bucket)).1.isSome = true ↔ _ :=
    isSome_enter_iff recorded last cursor now
  have noticed {entry : Entry} : ¬last.Overlooks now bucket entry :=
    fun overlooked => nomatch overlooked.forward
  simp only [noticed, not_false_eq_true, and_true] at newest
  rw [← exists_isSought_first_iff_last recorded] at newest
  rw [Bool.eq_iff_iff, newest]
  constructor
  · rintro agree ⟨entry, sought, overlooked⟩
    obtain ⟨other, again, noticed⟩ := oldest.mp (agree.mpr ⟨entry, sought⟩)
    exact noticed (sought.unique again ▸ overlooked)
  · intro none
    refine oldest.trans ⟨fun ⟨entry, sought, _⟩ => ⟨entry, sought⟩, fun ⟨entry, sought⟩ => ?_⟩
    exact ⟨entry, sought, fun overlooked => none ⟨entry, sought, overlooked⟩⟩

end Start

namespace Bucket

/-- A lamp whose brightness was set when 1970 began, and its switch ten seconds later. -/
def aheadLamp : Bucket :=
  ⟨[lampEntry "bright" 0, lampEntry "on" 10], by decide⟩

theorem recorded_aheadLamp : aheadLamp.Recorded "lamp" :=
  List.forall_mem_cons.mpr
    ⟨isRecorded_lampEntry rfl, List.forall_mem_singleton.mpr (isRecorded_lampEntry rfl)⟩

end Bucket

/-- Five seconds after 1970 began, the move to the first value of the switch finds nothing and the
move to the last one finds it, though it is to be found by both.
-/
theorem switch_ahead_found_from_last_only
    : Bucket.aheadLamp.Recorded "lamp"
      ∧ Start.first.IsSought (.of "lamp" (some "on")) Bucket.aheadLamp (Bucket.lampEntry "on" 10)
      ∧ ((Cursor.opened "lamp" (some "on")).first (.ofBucket Bucket.aheadLamp)
            (Timestamp.epoch.addSeconds 5)).1
          = none
      ∧ ((Cursor.opened "lamp" (some "on")).last (.ofBucket Bucket.aheadLamp)).1
          = some (.ofLamp "on" (Timestamp.epoch.addSeconds 10)) := by
  have only
      : ∀ other ∈ Bucket.aheadLamp.entries,
          ((Selection.of "lamp" (some "on")).accept? other).isSome = true
          → other = Bucket.lampEntry "on" 10 :=
    List.forall_mem_cons.mpr ⟨by decide, List.forall_mem_singleton.mpr fun _ => rfl⟩
  have sought (start : Start) (admitted : start.admits 10000 = true)
      : start.IsSought (.of "lamp" (some "on")) Bucket.aheadLamp (Bucket.lampEntry "on" 10) :=
    ⟨.tail _ (.head _), admitted, rfl, fun other member _ accepted =>
      .inl (only other member accepted)⟩
  have overlooked
      : Start.first.Overlooks (Timestamp.epoch.addSeconds 5) Bucket.aheadLamp
          (Bucket.lampEntry "on" 10) :=
    ⟨rfl, by decide, Bucket.lampEntry "bright" 0, .head _, rfl, by decide⟩
  obtain ⟨found, _⟩ :=
    Start.enter_finds_sought Bucket.recorded_aheadLamp (.opened "lamp" (some "on"))
      (Timestamp.epoch.addSeconds 5)
  refine ⟨Bucket.recorded_aheadLamp, sought .first rfl, ?_, ?_⟩
  · refine Option.eq_none_iff_forall_ne_some.mpr fun value first => ?_
    obtain ⟨entry, again, _, noticed⟩ := (found .first value).mp first
    exact noticed ((sought .first rfl).unique again ▸ overlooked)
  · refine (found .last _).mpr ⟨_, sought .last rfl, rfl, fun overlooked => ?_⟩
    exact nomatch overlooked.forward

end ValueHistory
