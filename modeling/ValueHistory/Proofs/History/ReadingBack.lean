import ValueHistory.Proofs.Cursor.Obstruction
import ValueHistory.Proofs.Entry.Between
import ValueHistory.Proofs.Entry.RoundTrip
import ValueHistory.Proofs.History.Range

/-! Values read back after they have been added. Whatever else the bucket holds, a reading from the
time of an entry on meets the entry, since no entry with a key of another time stands in between.
So a value is read back if its time can be, and is not if its time lies beyond the year 9999 in
universal time: such a value is accepted and never shown.
-/

namespace ValueHistory

open KeyOrder

variable {selection : Selection} {bucket : Bucket}

-----------------------------------------------------------------------------------------
-- Entries from a time on
-----------------------------------------------------------------------------------------

/-- A value ahead is within reach, if no entry up to its own one lies beyond the bound. -/
theorem Position.mem_reach {position : Position} {bound : Int} {entry : Entry}
    {value : Observation} (ahead : entry ∈ position.ahead .forward bucket)
    (accepted : selection.accept? entry = some value)
    (inside
      : ∀ other ∈ position.ahead .forward bucket, before entry.1 other.1 = false
        → Scan.isBeyond .forward bound other = false)
    : value ∈ position.reach selection .forward bound bucket := by
  obtain ⟨front, later, split⟩ := List.append_of_mem ahead
  have ordered : (position.ahead .forward bucket).Pairwise fun a b => before a.1 b.1 = true :=
    bucket.ascending.filter _
  rw [split] at ordered inside
  have nearer : ∀ other ∈ front ++ [entry], before entry.1 other.1 = false := by
    intro other member
    rcases List.mem_append.mp member with passed | own
    · exact asymm ((List.pairwise_append.mp ordered).2.2 other passed entry List.mem_cons_self)
    · rw [List.mem_singleton.mp own]
      exact irrefl _
  rw [List.append_cons] at split inside
  refine List.mem_filterMap.mpr ⟨entry, ?_, accepted⟩
  rw [split, List.takeWhile_append_of_pos]
  · exact List.mem_append_left _ (List.mem_append_right _ List.mem_cons_self)
  · intro other member
    rw [inside other (List.mem_append_left _ member) (nearer other member), Bool.not_false]

/-- What a move to a time finds is the value of a stored entry. -/
theorem Scan.exists_accepted_of_settle {direction : Direction} {bound : Int} (start : Start)
    {position after : Position} {value : Observation}
    (h
      : settle selection (.ofBucket bucket) direction bound
          (position.move (.ofBucket bucket) start.move)
        = (some value, after))
    : ∃ entry ∈ bucket.entries, selection.accept? entry = some value := by
  rw [Start.move_eq] at h
  cases landed : start.reached bucket with
  | nil =>
      rw [landed] at h
      cases h
  | cons entry later =>
      have stored : entry ∈ bucket.entries :=
        Start.mem_of_mem_reached (landed ▸ List.mem_cons_self)
      rw [landed, List.head?_cons, Position.land, settle] at h
      cases accepted : selection.accept? entry with
      | some found =>
          rw [accepted] at h
          cases h
          exact ⟨entry, stored, accepted⟩
      | none =>
          rw [accepted] at h
          cases run_ending h with
          | @found skipped later other _ split _ _ _ acceptedOther =>
              have ahead := split ▸ List.mem_append_right _ List.mem_cons_self
              exact ⟨other, (Position.mem_ahead_iff.mp ahead).1, acceptedOther⟩

/-- A scan finds the value of an accepted entry ahead or leaves the entry ahead, and it puts no entry
ahead that was not.
-/
theorem Scan.run_leaves_ahead {direction : Direction} {bound : Int} {position after : Position}
    {hit : Option Observation} {entry : Entry} {value : Observation}
    (ahead : entry ∈ position.ahead direction bucket)
    (accepted : selection.accept? entry = some value)
    (h : run selection (.ofBucket bucket) direction bound position = (hit, after))
    : hit = some value
      ∨ entry ∈ after.ahead direction bucket
        ∧ after.ahead direction bucket ⊆ position.ahead direction bucket := by
  have unpassed {skipped : List Entry} (passed : ∀ other ∈ skipped, selection.accept? other = none)
      : entry ∉ skipped := by
    intro member
    cases (passed entry member).symm.trans accepted
  cases run_ending h with
  | exhausted passed => exact absurd ahead (unpassed passed)
  | stopped split passed =>
      rw [(Position.ahead_of_split split).2]
      rw [split] at ahead ⊢
      have left := (List.mem_append.mp ahead).resolve_left (unpassed passed)
      exact .inr ⟨left, List.subset_append_right _ _⟩
  | found split passed _ _ other =>
      rw [(Position.ahead_of_split split).1]
      rw [split] at ahead ⊢
      have left := (List.mem_append.mp ahead).resolve_left (unpassed passed)
      rcases List.mem_cons.mp left with rfl | behind
      · exact .inl (other.symm.trans accepted)
      · refine .inr ⟨behind, fun _ member => ?_⟩
        exact List.mem_append_right _ (List.mem_cons_of_mem _ member)

/-- A move to a time finds the value of an accepted entry from this time on, or leaves the entry
ahead, with no entry from before the time.
-/
theorem Scan.settle_seek_leaves {time : Timestamp} {now : Int} {position after : Position}
    {hit : Option Observation} {entry : Entry} {value : Observation}
    (stored : entry ∈ bucket.entries) (fromTime : before entry.1 (Key.ofTime time) = false)
    (accepted : selection.accept? entry = some value)
    (h
      : settle selection (.ofBucket bucket) .forward now
          (position.move (.ofBucket bucket) (.seek (Key.ofTime time)))
        = (hit, after))
    : hit = some value
      ∨ entry ∈ after.ahead .forward bucket
        ∧ ∀ other ∈ after.ahead .forward bucket, before other.1 (Key.ofTime time) = false := by
  have moved := (Start.since time).move_eq bucket position
  have fresh : ∀ other ∈ (Start.since time).reached bucket,
      before other.1 (Key.ofTime time) = false := fun other member =>
    (Bool.not_eq_true' _).mp (List.mem_filter.mp member).2
  have reached : entry ∈ (Start.since time).reached bucket :=
    List.mem_filter.mpr ⟨stored, by simp [fromTime]⟩
  obtain ⟨unreached, along⟩ := (Start.since time).exists_unreached bucket
  rw [show Move.seek (Key.ofTime time) = (Start.since time).move from rfl, moved] at h
  cases landed : (Start.since time).reached bucket with
  | nil => simp [landed] at reached
  | cons head later =>
      rw [landed] at h reached along fresh
      have laterFresh := (List.forall_mem_cons.mp fresh).2
      have following : (Position.standing head.1).ahead .forward bucket = later :=
        Position.ahead_standing unreached along
      rw [List.head?_cons, Position.land, settle] at h
      cases first : selection.accept? head with
      | some found =>
          rw [first] at h
          cases h
          rw [following]
          rcases List.mem_cons.mp reached with rfl | behind
          · exact .inl (first.symm.trans accepted)
          · exact .inr ⟨behind, laterFresh⟩
      | none =>
          rw [first] at h
          have behind : entry ∈ later := by
            refine (List.mem_cons.mp reached).resolve_left ?_
            rintro rfl
            cases first.symm.trans accepted
          rw [← following] at behind laterFresh
          refine (run_leaves_ahead behind accepted h).imp_right ?_
          rintro ⟨left, within⟩
          exact ⟨left, fun other member => laterFresh other (within member)⟩

/-- No entry from a time on up to the key of an observation at this time lies beyond a bound that is
not before the time.
-/
theorem Scan.isBeyond_of_between {value : Observation} {time : Timestamp} (name : IsPart value.name)
    (sender : IsPart value.sender) (present : 0 ≤ time.nanos) {entry : Entry}
    (low : before entry.1 (Key.ofTime time) = false)
    (high : before (value.keyAt time) entry.1 = false) {bound : Int} (within : time.millis ≤ bound)
    : isBeyond .forward bound entry = false := by
  have whole := Timestamp.keyMillis_of_nonneg present
  cases parsed : Key.parse? entry.1 with
  | none => rw [isBeyond, parsed, Option.any_none]
  | some key =>
      have same : key.millis = time.keyMillis := by
        cases front : before entry.1 (value.keyAt time) with
        | true => exact Key.millis_of_between low front parsed
        | false =>
            have own : entry.1 = value.keyAt time := Classical.byContradiction fun different =>
              absurd (total different front) (by simp [high])
            rw [own, Key.parse?_keyAt time name sender] at parsed
            cases parsed
            rfl
      rw [isBeyond, parsed, Option.any_some]
      exact decide_eq_false (by omega)

-----------------------------------------------------------------------------------------
-- Ranges from a time on
-----------------------------------------------------------------------------------------

namespace Cursor

variable {thing : String} {name : Option String} {now start bound : Timestamp} {limit : Nat}
  {value : Observation}

/-- A range is what is found at its start and the first values within reach from there. -/
theorem readRange_reaches (bucket : Bucket) (thing : String) (name : Option String)
    (now start bound : Timestamp) (limit : Nat)
    : ∃ hit after,
        Scan.settle (.of thing name) (.ofBucket bucket) .forward now.millis
            (Position.unplaced.move (.ofBucket bucket) (.seek (Key.ofTime start)))
          = (hit, after)
        ∧ ((opened thing name).readRange (.ofBucket bucket) now start bound .forward limit).values
          = hit.toList
            ++ (after.reach (.of thing name) .forward bound.millis bucket).take
                (Window.mk bound limit).room := by
  rcases sought : (opened thing name).seek (.ofBucket bucket) now start with ⟨hit, cursor⟩
  rcases answer : cursor.page (.ofBucket bucket) .forward bound limit with ⟨page, after⟩
  obtain ⟨found, rfl⟩ := Prod.mk.inj sought
  obtain ⟨_, scanned, _⟩ := @page_cases .forward _ after _ ⟨bound, limit⟩ page answer
  refine ⟨hit, _, Prod.ext found rfl, ?_⟩
  simp only [readRange, sought, answer]
  rw [(Scan.page_reaches scanned).1]
  rfl

/-- A range holds values of stored entries only. -/
theorem exists_accepted_of_mem_readRange
    (member
      : value ∈ ((opened thing name).readRange (.ofBucket bucket) now start bound .forward
          limit).values)
    : ∃ entry ∈ bucket.entries, (Selection.of thing name).accept? entry = some value := by
  obtain ⟨hit, after, settled, values⟩ := readRange_reaches bucket thing name now start bound limit
  rw [values] at member
  rcases List.mem_append.mp member with found | following
  · rw [Option.mem_toList.mp found] at settled
    exact Scan.exists_accepted_of_settle (.since start) settled
  · obtain ⟨entry, reached, accepted⟩ := List.mem_filterMap.mp (List.mem_of_mem_take following)
    have ahead := (List.takeWhile_sublist _).subset reached
    exact ⟨entry, (Position.mem_ahead_iff.mp ahead).1, accepted⟩

/-- A range holds the value of an entry from its start on, if it has room for the whole bucket and
no entry between its start and this one lies beyond its end.
-/
theorem mem_readRange {entry : Entry} (stored : entry ∈ bucket.entries)
    (fromStart : before entry.1 (Key.ofTime start) = false)
    (accepted : (Selection.of thing name).accept? entry = some value)
    (inside
      : ∀ other ∈ bucket.entries, before other.1 (Key.ofTime start) = false
        → before entry.1 other.1 = false → Scan.isBeyond .forward bound.millis other = false)
    (enough : bucket.size ≤ (Window.mk bound limit).room)
    : value
      ∈ ((opened thing name).readRange (.ofBucket bucket) now start bound .forward
          limit).values := by
  obtain ⟨hit, after, settled, values⟩ := readRange_reaches bucket thing name now start bound limit
  rw [values]
  refine List.mem_append.mpr ?_
  rcases Scan.settle_seek_leaves stored fromStart accepted settled with found | ⟨ahead, onward⟩
  · exact .inl (Option.mem_toList.mpr found)
  · refine .inr ?_
    have few
        : (after.reach (.of thing name) .forward bound.millis bucket).length
          ≤ (Window.mk bound limit).room :=
      calc
        _ ≤ (after.ahead .forward bucket).length :=
          Nat.le_trans (List.length_filterMap_le ..) (List.takeWhile_sublist _).length_le
        _ ≤ bucket.size := Position.length_ahead_le ..
        _ ≤ (Window.mk bound limit).room := enough
    rw [List.take_of_length_le few]
    refine Position.mem_reach ahead accepted fun other member => ?_
    exact inside other (Position.mem_ahead_iff.mp member).1 (onward other member)

end Cursor

-----------------------------------------------------------------------------------------
-- Values that have been added
-----------------------------------------------------------------------------------------

namespace History

variable {history after : History} {moment : Moment} {value : Observation}

/-- Only a working store takes a value. -/
theorem works_of_add (added : history.add moment value = (.ok (), after)) : history.store.Works := by
  simp only [add, put, opening] at added
  split at added
  · cases added
  · split at added
    · cases added
    · split at added
      · cases added
      · next opens => exact Store.works_of_openBucket opens

/-- A value that has been added is valid, and stands in the bucket of its Thing under its key at its
time, which is the present where it has none.
-/
theorem stored_of_add (added : history.add moment value = (.ok (), after))
    : after.store.Works
      ∧ (value.keyAt (value.time.getD moment.now), value.data.toBytes)
        ∈ (after.store.bucket value.thing).entries
      ∧ IsPart value.name
      ∧ IsPart value.sender
      ∧ 0 ≤ (value.time.getD moment.now).nanos := by
  rcases add_of_works (works_of_add added) moment value with
    ⟨_, _, rejected⟩ | ⟨accepted, entry, stored, checked, encoded, answer, works, contents⟩
  · cases added.symm.trans rejected
  · cases added.symm.trans answer
    obtain ⟨rfl, _, name, sender, present⟩ := Observation.check_eq_ok checked
    cases encoded
    refine ⟨works, ?_, name, sender, present⟩
    rw [contents, if_pos rfl]
    exact OrderedMap.mem_insert_iff.mpr (.inl rfl)

/-- A value that has been added is read back from its time on, cut to whole milliseconds, whatever
else the bucket holds and whenever it is read, if its time is not beyond the year 9999 in universal
time. Else it is not read back: it was accepted since in its own offset the year is 9999 at most.
Witness: the entry of the value is accepted exactly if its time decodes, and nothing on the way to
it is beyond the bound.
-/
theorem added_value_read_back_iff (added : history.add moment value = (.ok (), after))
    (reads : Entry.payloadData? value.data.toBytes = some value.data) (later : Moment)
    {seconds limit : Int} (onward : 0 < seconds)
    (enough : ((after.store.bucket value.thing).size : Int) ≤ limit)
    : ∃ page,
        (after.read later value.thing (some value.name) (value.time.getD moment.now) seconds
            limit).1
          = .ok page
        ∧ ((∃ shown ∈ page.values, shown.IsCutOf value (value.time.getD moment.now))
          ↔ (value.time.getD moment.now).nanos ≤ Timestamp.maxLocal) := by
  obtain ⟨works, stored, name, sender, present⟩ := stored_of_add added
  generalize value.time.getD moment.now = time at stored present ⊢
  refine ⟨_, read_of_works works later value.thing (some value.name) time seconds limit, ?_⟩
  rw [if_pos onward]
  constructor
  · intro ⟨shown, member, cut, whole, same⟩
    obtain ⟨_, _, accepted⟩ := Cursor.exists_accepted_of_mem_readRange member
    have inYears := Selection.nanos_le_of_accept? accepted (congrArg Observation.time same)
    simp only [Timestamp.maxLocal, nanosPerSecond] at inYears ⊢
    omega
  · intro inYears
    obtain ⟨cut, told, whole⟩ := Timestamp.exists_ofMillis?_millis present inYears
    have accepted := Selection.accept?_keyAt name sender present reads
    rw [told, Option.map_some] at accepted
    have fromStart : before (value.keyAt time) (Key.ofTime time) = false := by
      rw [value.before_ofTime]
      exact decide_eq_false (Nat.lt_irrefl _)
    have within := time.millis_le_addSeconds (Int.le_of_lt onward)
    refine ⟨_, ?_, cut, whole, rfl⟩
    refine Cursor.mem_readRange stored fromStart accepted ?_ (room_of_size_le enough _)
    exact fun other _ low high =>
      Scan.isBeyond_of_between name sender present low high within

/-- The last second of the year 9999, an hour west of Greenwich. -/
def lastWesternSecond : Timestamp :=
  ⟨253402304399 * nanosPerSecond, -3600, by decide, by decide⟩

/-- The history of a lamp that was set in the last second of the year 9999 west of Greenwich. -/
def ofWesternLamp : History :=
  (add { store := .empty, keys := toString } ⟨.epoch, 0⟩ (.ofLamp "on" lastWesternSecond)).2

/-- The western lamp is accepted and not read back from that second on; when it is set in the first
second of 1970 too, it is read back from then on.
-/
theorem western_lamp_not_read_back
    : add { store := .empty, keys := toString } ⟨.epoch, 0⟩ (.ofLamp "on" lastWesternSecond)
        = (.ok (), ofWesternLamp)
      ∧ (∃ page,
        (ofWesternLamp.read ⟨.epoch, 0⟩ "lamp" (some "on") lastWesternSecond 1 10).1 = .ok page
        ∧ ¬∃ shown ∈ page.values,
            shown.IsCutOf (.ofLamp "on" lastWesternSecond) lastWesternSecond)
      ∧ ∃ page,
          ((ofWesternLamp.add ⟨.epoch, 0⟩ (.ofLamp "on" .epoch)).2.read ⟨.epoch, 0⟩ "lamp"
              (some "on") .epoch 1 10).1
            = .ok page
          ∧ ∃ shown ∈ page.values, shown.IsCutOf (.ofLamp "on" .epoch) .epoch := by
  have set
      : add { store := .empty, keys := toString } ⟨.epoch, 0⟩ (.ofLamp "on" lastWesternSecond)
        = (.ok (), ofWesternLamp) := rfl
  have again
      : ofWesternLamp.add ⟨.epoch, 0⟩ (.ofLamp "on" .epoch)
        = (.ok (), (ofWesternLamp.add ⟨.epoch, 0⟩ (.ofLamp "on" .epoch)).2) := rfl
  obtain ⟨page, answer, held⟩ :=
    @added_value_read_back_iff _ _ _ _ set rfl ⟨.epoch, 0⟩ 1 10 (by decide) (by decide)
  obtain ⟨other, otherAnswer, otherHeld⟩ :=
    @added_value_read_back_iff _ _ _ _ again rfl ⟨.epoch, 0⟩ 1 10 (by decide) (by decide)
  refine ⟨set, ⟨page, answer, ?_⟩, other, otherAnswer, otherHeld.mpr (by decide)⟩
  exact mt held.mp (by decide)

end History

end ValueHistory
