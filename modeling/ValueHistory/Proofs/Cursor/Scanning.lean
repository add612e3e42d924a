import ValueHistory.Proofs.Cursor.Ahead
import ValueHistory.Proofs.Entry.Recorded

/-! What a scan finds and leaves, told by the entries ahead of its position. A scan for one value
and a scan for a page take values from the front of what is left to read, and the look at one value
more and the step back after it change nothing of what is left.
-/

namespace ValueHistory

/-- The values of entries begin with that of the first one, if it is accepted. -/
theorem Selection.filterMap_cons (selection : Selection) (entry : Entry) (later : List Entry)
    : (entry :: later).filterMap selection.accept?
      = (selection.accept? entry).toList ++ later.filterMap selection.accept? := by
  rw [List.filterMap_eq_flatMap_toList, List.flatMap_cons, List.filterMap_eq_flatMap_toList]

/-- The values of the entries ahead of a position that a selection accepts, nearest first. -/
def Position.rest (selection : Selection) (direction : Direction) (bucket : Bucket)
    (position : Position) : List Observation :=
  (position.ahead direction bucket).filterMap selection.accept?

-----------------------------------------------------------------------------------------
-- How a scan ends
-----------------------------------------------------------------------------------------

namespace Scan

/-- Whether an entry has a key beyond a bound, so that a scan ends in front of it. -/
def isBeyond (direction : Direction) (bound : Int) (entry : Entry) : Bool :=
  (Key.parse? entry.1).any fun key => direction.crosses bound key.millis

/-- An accepted entry lies beyond a bound if its value does. -/
theorem isBeyond_of_accept? {selection : Selection} {entry : Entry} {value : Observation}
    (accepted : selection.accept? entry = some value) (direction : Direction) (bound : Int)
    : isBeyond direction bound entry = direction.crosses bound value.millis := by
  obtain ⟨key, parsed, _⟩ := Selection.accept?_eq_some accepted
  rw [Selection.millis_of_accept? accepted]
  simp [isBeyond, Entry.millis, parsed]

/-- An entry beyond the bound ends a scan; every other entry is found if it is accepted, and passed
over if not.
-/
theorem judge_eq (selection : Selection) (direction : Direction) (bound : Int) (entry : Entry)
    : judge selection direction bound entry
      = if isBeyond direction bound entry then .beyond
        else match selection.accept? entry with
          | some value => .found value
          | none => .skipped := by
  cases parsed : Key.parse? entry.1 with
  | none => simp [judge, isBeyond, Selection.accept?, parsed]
  | some key =>
      rw [judge, isBeyond, parsed]
      rfl

variable {selection : Selection} {direction : Direction} {bound : Int} {bucket : Bucket}

/-- How a scan of the entries ahead ends. It passes over entries that are not accepted, until there
are no more, one lies beyond the bound, or one is accepted.
-/
inductive Ending (selection : Selection) (direction : Direction) (bound : Int) (bucket : Bucket)
    (entries : List Entry) : Option Observation × Position → Prop where
  | exhausted (passed : ∀ entry ∈ entries, selection.accept? entry = none)
      (inside : ∀ entry ∈ entries, isBeyond direction bound entry = false)
    : Ending selection direction bound bucket entries (none, direction.farEnd)
  | stopped {skipped later : List Entry} {entry : Entry}
      (split : entries = skipped ++ entry :: later)
      (passed : ∀ entry ∈ skipped, selection.accept? entry = none)
      (inside : ∀ entry ∈ skipped, isBeyond direction bound entry = false)
      (beyond : isBeyond direction bound entry = true)
    : Ending selection direction bound bucket entries
        (none, ((Position.standing entry.1).move (.ofBucket bucket) direction.unstep).2)
  | found {skipped later : List Entry} {entry : Entry} {value : Observation}
      (split : entries = skipped ++ entry :: later)
      (passed : ∀ entry ∈ skipped, selection.accept? entry = none)
      (inside : ∀ entry ∈ skipped, isBeyond direction bound entry = false)
      (last : isBeyond direction bound entry = false)
      (accepted : selection.accept? entry = some value)
    : Ending selection direction bound bucket entries (some value, .standing entry.1)

/-- An entry that is passed over comes before the end of the scan of the entries after it. -/
theorem Ending.skip {entry : Entry} {entries : List Entry} {result : Option Observation × Position}
    (refused : selection.accept? entry = none) (near : isBeyond direction bound entry = false)
    (ending : Ending selection direction bound bucket entries result)
    : Ending selection direction bound bucket (entry :: entries) result := by
  cases ending with
  | exhausted passed inside =>
      exact .exhausted (List.forall_mem_cons.mpr ⟨refused, passed⟩)
        (List.forall_mem_cons.mpr ⟨near, inside⟩)
  | stopped split passed inside beyond =>
      exact .stopped (congrArg (entry :: ·) split) (List.forall_mem_cons.mpr ⟨refused, passed⟩)
        (List.forall_mem_cons.mpr ⟨near, inside⟩) beyond
  | found split passed inside last accepted =>
      exact .found (congrArg (entry :: ·) split) (List.forall_mem_cons.mpr ⟨refused, passed⟩)
        (List.forall_mem_cons.mpr ⟨near, inside⟩) last accepted

/-- With more steps than there are entries ahead a scan ends, by induction on the steps. -/
theorem within_ending (selection : Selection) (bound : Int) {fuel : Nat} {position : Position}
    (enough : (position.ahead direction bucket).length < fuel)
    : ∃ result,
        within selection (.ofBucket bucket) direction bound fuel position = some result
        ∧ Ending selection direction bound bucket (position.ahead direction bucket) result := by
  induction fuel generalizing position with
  | zero => cases enough
  | succ fuel ih =>
      rw [within, Position.move_step]
      cases near : position.ahead direction bucket with
      | nil => exact ⟨_, rfl, .exhausted (by simp) (by simp)⟩
      | cons entry later =>
          have front : entry :: later = [] ++ entry :: later := (List.nil_append _).symm
          obtain ⟨following, _⟩ := Position.ahead_of_split (near.trans front)
          simp only [List.head?_cons, Position.land, judge_eq]
          cases beyond : isBeyond direction bound entry with
          | true => exact ⟨_, rfl, .stopped front (by simp) (by simp) beyond⟩
          | false =>
              cases accepted : selection.accept? entry with
              | some value => exact ⟨_, rfl, .found front (by simp) (by simp) beyond accepted⟩
              | none =>
                  have fewer
                      : ((Position.standing entry.1).ahead direction bucket).length < fuel := by
                    rw [near] at enough
                    rw [following]
                    exact Nat.lt_of_succ_lt_succ enough
                  obtain ⟨result, equal, ending⟩ := ih fewer
                  rw [following] at ending
                  exact ⟨result, equal, ending.skip accepted beyond⟩

/-- A scan ends: it has one step more than the bucket has entries. -/
theorem run_ending {position : Position} {result : Option Observation × Position}
    (h : run selection (.ofBucket bucket) direction bound position = result)
    : Ending selection direction bound bucket (position.ahead direction bucket) result := by
  have enough : (position.ahead direction bucket).length < bucket.size + 1 :=
    Nat.lt_succ_of_le (position.length_ahead_le direction bucket)
  obtain ⟨ended, equal, ending⟩ := within_ending selection bound enough
  have same : run selection (.ofBucket bucket) direction bound position = ended :=
    congrArg (Option.getD · (none, position)) equal
  rw [← h, same]
  exact ending

-----------------------------------------------------------------------------------------
-- How scans follow each other
-----------------------------------------------------------------------------------------

/-- How a number of scans goes: each finds a value, or one of them is the last and finds nothing. -/
inductive Taking (selection : Selection) (lookup : Lookup) (direction : Direction) (bound : Int)
    : Nat → Position → List Observation → Bool → Position → Prop where
  | full (position : Position)
    : Taking selection lookup direction bound 0 position [] true position
  | short {limit : Nat} {position after : Position}
      (missed : run selection lookup direction bound position = (none, after))
    : Taking selection lookup direction bound (limit + 1) position [] false after
  | more {limit : Nat} {position next after : Position} {value : Observation}
      {values : List Observation} {full : Bool}
      (found : run selection lookup direction bound position = (some value, next))
      (others : Taking selection lookup direction bound limit next values full after)
    : Taking selection lookup direction bound (limit + 1) position (value :: values) full after

/-- Values are taken one scan after the other, by induction on their number. -/
theorem take_taking {lookup : Lookup} {limit : Nat} {position after : Position}
    {values : List Observation} {full : Bool}
    (h : take selection lookup direction bound limit position = (values, full, after))
    : Taking selection lookup direction bound limit position values full after := by
  induction limit generalizing position values with
  | zero =>
      cases h
      exact .full _
  | succ limit ih =>
      rw [take] at h
      cases result : run selection lookup direction bound position with
      | mk found next =>
          rw [result] at h
          cases found with
          | none =>
              cases h
              exact .short result
          | some value =>
              cases others : take selection lookup direction bound limit next with
              | mk rest outcome =>
                  simp only [others] at h
                  cases h
                  exact .more result (ih others)

/-- How a page ends: it is not full, or full and the scan ahead finds nothing, or finds a value and
is taken back.
-/
inductive PageEnding (selection : Selection) (lookup : Lookup) (direction : Direction) (bound : Int)
    : Bool → Position → Bool → Position → Prop where
  | short (position : Position)
    : PageEnding selection lookup direction bound false position false position
  | complete {position after : Position}
      (missed : run selection lookup direction bound position = (none, after))
    : PageEnding selection lookup direction bound true position false after
  | remaining {position next : Position} {value : Observation}
      (found : run selection lookup direction bound position = (some value, next))
    : PageEnding selection lookup direction bound true position true
        (next.move lookup direction.unstep).2

/-- A page takes its values and then ends. -/
theorem page_ending {lookup : Lookup} {limit : Nat} {position after : Position} {page : Page}
    (h : Scan.page selection lookup direction bound limit position = (page, after))
    : ∃ full next,
        Taking selection lookup direction bound limit position page.values full next
        ∧ PageEnding selection lookup direction bound full next page.remaining after := by
  rw [Scan.page] at h
  cases taken : take selection lookup direction bound limit position with
  | mk values outcome =>
      obtain ⟨full, next⟩ := outcome
      rw [taken] at h
      cases full with
      | false =>
          cases h
          exact ⟨_, _, take_taking taken, .short _⟩
      | true =>
          cases result : run selection lookup direction bound next with
          | mk found last =>
              simp only [result] at h
              cases found with
              | none =>
                  cases h
                  exact ⟨_, _, take_taking taken, .complete result⟩
              | some value =>
                  cases h
                  exact ⟨_, _, take_taking taken, .remaining result⟩

end Scan

end ValueHistory
