import ValueHistory.Cursor.Scan
import ValueHistory.Proofs.OrderedMap.Entries

/-! The entries ahead of a position on a way along a bucket. A step lands on the nearest of them
and leaves the others ahead, and a step back from an entry puts it ahead again.
-/

namespace ValueHistory

open KeyOrder

namespace Staged

variable {α : Type} {condition : α → Bool} {list : List α}

/-- Where a condition goes on to hold once it does, the elements without it are those up to the
first one with it, by induction on the list.
-/
theorem takeWhile_eq_filter
    (staged : list.Pairwise fun a b => condition a = true → condition b = true)
    : list.takeWhile (fun a => !condition a) = list.filter fun a => !condition a := by
  induction list with
  | nil => rfl
  | cons head rest ih =>
      obtain ⟨first, ordered⟩ := List.pairwise_cons.mp staged
      cases holds : condition head with
      | false =>
          simp only [List.takeWhile_cons, List.filter_cons, holds, Bool.not_false, if_true]
          exact congrArg (head :: ·) (ih ordered)
      | true =>
          simp only [List.takeWhile_cons, List.filter_cons, holds, Bool.not_true,
            Bool.false_eq_true, if_false]
          rw [eq_comm, List.filter_eq_nil_iff]
          intro other member
          simp [first other member holds]

/-- The elements with such a condition are those from the first one on, by induction on the list. -/
theorem dropWhile_eq_filter
    (staged : list.Pairwise fun a b => condition a = true → condition b = true)
    : list.dropWhile (fun a => !condition a) = list.filter condition := by
  induction list with
  | nil => rfl
  | cons head rest ih =>
      obtain ⟨first, ordered⟩ := List.pairwise_cons.mp staged
      cases holds : condition head with
      | false =>
          simp only [List.dropWhile_cons, List.filter_cons, holds, Bool.not_false, if_true,
            Bool.false_eq_true, if_false]
          exact ih ordered
      | true =>
          simp only [List.dropWhile_cons, List.filter_cons, holds, Bool.not_true,
            Bool.false_eq_true, if_false, if_true]
          rw [List.filter_eq_self.mpr fun other member => first other member holds]

/-- The elements without such a condition come before those with it. -/
theorem filter_append_filter
    (staged : list.Pairwise fun a b => condition a = true → condition b = true)
    : list.filter (fun a => !condition a) ++ list.filter condition = list := by
  rw [← takeWhile_eq_filter staged, ← dropWhile_eq_filter staged]
  exact List.takeWhile_append_dropWhile

end Staged

namespace Direction

/-- The other way. -/
def flip : Direction → Direction
  | forward => backward
  | backward => forward

/-- The position beyond the last entry on the way. -/
def farEnd : Direction → Position
  | forward => .afterLast
  | backward => .beforeFirst

/-- The entries of a bucket as they come on the way. -/
def along (entries : List Entry) : Direction → List Entry
  | forward => entries
  | backward => entries.reverse

/-- Whether a key comes before another on the way. -/
def leads (key other : Bytes) : Direction → Bool
  | forward => before key other
  | backward => before other key

theorem unstep_eq (direction : Direction) : direction.unstep = direction.flip.step := by
  cases direction <;> rfl

theorem flip_flip (direction : Direction) : direction.flip.flip = direction := by
  cases direction <;> rfl

theorem along_flip (direction : Direction) (entries : List Entry)
    : direction.flip.along entries = (direction.along entries).reverse := by
  cases direction <;> simp [along, flip]

theorem mem_along {direction : Direction} {entries : List Entry} {entry : Entry}
    : entry ∈ direction.along entries ↔ entry ∈ entries := by
  cases direction <;> simp [along]

theorem length_along (direction : Direction) (bucket : Bucket)
    : (direction.along bucket.entries).length = bucket.size := by
  cases direction <;> simp [along, OrderedMap.size]

theorem leads_asymm {direction : Direction} {key other : Bytes}
    (h : direction.leads key other = true)
    : direction.leads other key = false := by
  cases direction <;> exact asymm h

theorem leads_irrefl (direction : Direction) (key : Bytes) : direction.leads key key = false := by
  cases direction <;> exact irrefl key

theorem pairwise_along (direction : Direction) (bucket : Bucket)
    : (direction.along bucket.entries).Pairwise fun a b => direction.leads a.1 b.1 = true := by
  cases direction with
  | forward => exact bucket.ascending
  | backward => exact List.pairwise_reverse.mpr bucket.ascending

end Direction

namespace Position

/-- Whether a key lies ahead of a position. -/
def isAhead (direction : Direction) : Position → Bytes → Bool
  | unplaced, _ => true
  | beforeFirst, _ => direction = .forward
  | .standing key, other => direction.leads key other
  | afterLast, _ => direction = .backward

/-- The entries ahead of a position, the nearest first. -/
def ahead (direction : Direction) (bucket : Bucket) (position : Position) : List Entry :=
  (direction.along bucket.entries).filter fun entry => position.isAhead direction entry.1

variable {direction : Direction} {bucket : Bucket}

theorem mem_ahead_iff {position : Position} {entry : Entry}
    : entry ∈ position.ahead direction bucket
      ↔ entry ∈ bucket.entries ∧ position.isAhead direction entry.1 = true := by
  rw [ahead, List.mem_filter, Direction.mem_along]

theorem ahead_farEnd (direction : Direction) (bucket : Bucket)
    : direction.farEnd.ahead direction bucket = [] := by
  cases direction <;> simp [ahead, Direction.farEnd, isAhead]

/-- Everything lies ahead of the near end, which is the far end of the other way. -/
theorem ahead_nearEnd (direction : Direction) (bucket : Bucket)
    : direction.flip.farEnd.ahead direction bucket = direction.along bucket.entries := by
  cases direction <;> simp [ahead, Direction.flip, Direction.farEnd, isAhead]

theorem ahead_unplaced (direction : Direction) (bucket : Bucket)
    : unplaced.ahead direction bucket = direction.along bucket.entries :=
  List.filter_eq_self.mpr fun _ _ => rfl

theorem length_ahead_le (direction : Direction) (bucket : Bucket) (position : Position)
    : (position.ahead direction bucket).length ≤ bucket.size := by
  rw [← direction.length_along bucket]
  exact List.length_filter_le ..

/-- What follows an entry on the way is what lies ahead of a position at that entry. -/
theorem ahead_standing (front : List Entry) {rest : List Entry} {entry : Entry}
    (split : direction.along bucket.entries = front ++ entry :: rest)
    : (standing entry.1).ahead direction bucket = rest := by
  have ordered := direction.pairwise_along bucket
  rw [split] at ordered
  obtain ⟨_, later, crossing⟩ := List.pairwise_append.mp ordered
  have passed : ∀ other ∈ front, direction.leads entry.1 other.1 = false := fun other member =>
    Direction.leads_asymm (crossing other member entry List.mem_cons_self)
  have following : ∀ other ∈ rest, direction.leads entry.1 other.1 = true :=
    (List.pairwise_cons.mp later).1
  simp only [ahead, isAhead, split, List.filter_append, List.filter_cons,
    Direction.leads_irrefl, Bool.false_eq_true, if_false]
  rw [List.filter_eq_nil_iff.mpr (by simpa using passed), List.filter_eq_self.mpr following]
  rfl

/-- What comes in front of an entry on the way lies ahead of it on the way back. -/
theorem behind_standing {front rest : List Entry} {entry : Entry}
    (split : direction.along bucket.entries = front ++ entry :: rest)
    : (standing entry.1).ahead direction.flip bucket = front.reverse := by
  refine ahead_standing rest.reverse ?_
  rw [Direction.along_flip, split]
  simp

/-- What lies beyond a key that is ahead is ahead as well. -/
theorem isAhead_of_leads (position : Position) {key other : Bytes}
    (near : position.isAhead direction key = true) (beyond : direction.leads key other = true)
    : position.isAhead direction other = true := by
  cases position with
  | unplaced => rfl
  | beforeFirst => exact near
  | standing place =>
      cases direction with
      | forward => exact trans near beyond
      | backward => exact trans beyond near
  | afterLast => exact near

/-- The entries ahead of a position are the last ones on the way. -/
theorem exists_passed (direction : Direction) (bucket : Bucket) (position : Position)
    : ∃ passed, direction.along bucket.entries = passed ++ position.ahead direction bucket := by
  have staged := (direction.pairwise_along bucket).imp fun {a b} leads (near : _ = true) =>
    isAhead_of_leads position near leads
  exact ⟨_, (Staged.filter_append_filter staged).symm⟩

-----------------------------------------------------------------------------------------
-- Steps and steps back
-----------------------------------------------------------------------------------------

/-- A step lands on the nearest entry ahead, or beyond the far end where there is none. -/
theorem move_step (direction : Direction) (bucket : Bucket) (position : Position)
    : position.move (.ofBucket bucket) direction.step
      = land (position.ahead direction bucket).head? direction.farEnd := by
  have upward (bound : Bound Bytes)
      : bucket.ceiling bound
        = (bucket.entries.filter fun entry => bound.liesBelow entry.1).head? := by
    rw [OrderedMap.ceiling, List.head?_filter]
  have downward (bound : Bound Bytes)
      : bucket.floor bound
        = (bucket.entries.reverse.filter fun entry => bound.liesAbove entry.1).head? := by
    rw [OrderedMap.floor, List.filter_reverse, List.head?_reverse]
  cases direction with
  | forward =>
      cases position with
      | unplaced | beforeFirst | standing key => exact congrArg (land · _) (upward _)
      | afterLast =>
          have none_ahead := ahead_farEnd .forward bucket
          exact (congrArg (fun entries => land entries.head? afterLast) none_ahead).symm
  | backward =>
      cases position with
      | unplaced | afterLast | standing key => exact congrArg (land · _) (downward _)
      | beforeFirst =>
          have none_ahead := ahead_farEnd .backward bucket
          exact (congrArg (fun entries => land entries.head? beforeFirst) none_ahead).symm

/-- A step back from an entry ends at the one in front of it, or beyond the near end. -/
theorem move_unstep {front rest : List Entry} {entry : Entry}
    (split : direction.along bucket.entries = front ++ entry :: rest)
    : (standing entry.1).move (.ofBucket bucket) direction.unstep
      = land front.getLast? direction.flip.farEnd := by
  rw [Direction.unstep_eq, move_step, behind_standing split, List.head?_reverse]

/-- A step back from an entry leaves it ahead again, and all that follows it. -/
theorem ahead_unstep (front : List Entry) {rest : List Entry} {entry : Entry}
    (split : direction.along bucket.entries = front ++ entry :: rest)
    : ((standing entry.1).move (.ofBucket bucket) direction.unstep).2.ahead direction bucket
      = entry :: rest := by
  rw [move_unstep split]
  rcases List.eq_nil_or_concat front with rfl | ⟨earlier, nearest, rfl⟩
  · rw [List.getLast?_nil, land, ahead_nearEnd, split, List.nil_append]
  · rw [List.concat_eq_append, List.getLast?_concat]
    refine ahead_standing earlier ?_
    rw [split, List.concat_eq_append, List.append_assoc]
    rfl

/-- From an entry ahead of a position the same entries lie ahead as from that position, those in
front of the entry left out; a step back from it adds the entry itself.
-/
theorem ahead_of_split {position : Position} {skipped later : List Entry} {entry : Entry}
    (split : position.ahead direction bucket = skipped ++ entry :: later)
    : (standing entry.1).ahead direction bucket = later
      ∧ ((standing entry.1).move (.ofBucket bucket) direction.unstep).2.ahead direction bucket
        = entry :: later := by
  obtain ⟨passed, along⟩ := position.exists_passed direction bucket
  rw [split, ← List.append_assoc] at along
  exact ⟨ahead_standing _ along, ahead_unstep _ along⟩

/-- A position that is not at a key, or at one of an entry of the bucket. -/
def RestsIn (bucket : Bucket) (position : Position) : Prop :=
  ∀ key, position = standing key → ∃ entry ∈ bucket.entries, entry.1 = key

theorem restsIn_farEnd (direction : Direction) (bucket : Bucket)
    : direction.farEnd.RestsIn bucket := by
  cases direction <;> exact fun key at_key => nomatch at_key

/-- A step ends at an entry of the bucket or beyond its end. -/
theorem restsIn_move_step (direction : Direction) (bucket : Bucket) (position : Position)
    : (position.move (.ofBucket bucket) direction.step).2.RestsIn bucket := by
  rw [move_step]
  cases near : (position.ahead direction bucket).head? with
  | none => exact restsIn_farEnd direction bucket
  | some entry =>
      intro key at_key
      refine ⟨entry, (mem_ahead_iff.mp (List.mem_of_head? near)).1, ?_⟩
      simpa [land] using at_key

end Position

end ValueHistory
