import Mathlib.Data.List.Nodup
import ValueHistory.Proofs.Cursor.Ahead
import ValueHistory.Proofs.Store.Contents

/-! Walks along a bucket that is written to between the steps. A cursor remembers the key it stands
at and no list of entries, so whatever is set and deleted, also the entry it stands at, it goes on
to keys that lie beyond that key, and it passes over no key that is there all the time.
-/

namespace ValueHistory

-----------------------------------------------------------------------------------------
-- Walks
-----------------------------------------------------------------------------------------

/-- What a program writes to a bucket while a cursor walks along it. -/
inductive Write where
  | set (key payload : Bytes)
  | delete (key : Bytes)
deriving DecidableEq

/-- A call of a cursor on a walk: the bucket as it is by then, and the entry that is found. -/
structure Sight where
  bucket : Bucket
  found : Option Entry

/-- How a walk begins: with a step of a cursor that has not been placed, or from any position with
the move to the near end of the bucket; a walk forward may also begin with a seek.
-/
inductive Opening : Direction → Type where
  | step (direction : Direction) : Opening direction
  | first (position : Position) : Opening .forward
  | last (position : Position) : Opening .backward
  | seek (position : Position) (key : Bytes) : Opening .forward

namespace Opening

variable {direction : Direction}

/-- The position that a walk begins at. -/
def position : Opening direction → Position
  | step _ => .unplaced
  | first position => position
  | last position => position
  | seek position _ => position

/-- The first move of a walk. -/
def move : Opening direction → Move
  | step direction => direction.step
  | first _ => .first
  | last _ => .last
  | seek _ key => .seek key

/-- Whether a key lies at the start of a walk or after it. -/
def includes : Opening direction → Bytes → Bool
  | seek _ start, key => !KeyOrder.before key start
  | _, _ => true

end Opening

namespace Store

/-- The store after something has been written to a bucket. -/
def write (store : Store) (name : String) : Write → Except StoreFailure Store
  | .set key payload => store.set name key payload
  | .delete key => store.delete name key

/-- The store after things have been written to a bucket one after the other. -/
def writeAll (store : Store) (name : String) : List Write → Except StoreFailure Store
  | [] => .ok store
  | write :: later => do
    let store ← store.write name write
    store.writeAll name later

/-- The calls of a cursor on a walk, each made after some writes. The first one is the given move,
and the others are steps.
-/
def roam (store : Store) (name : String) (direction : Direction) (position : Position) (move : Move)
    : List (List Write) → Except StoreFailure (List Sight)
  | [] => .ok []
  | writes :: later => do
    let store ← store.writeAll name writes
    let (found, position) ← store.move name position move
    let sights ← store.roam name direction position direction.step later
    .ok (⟨store.bucket name, found⟩ :: sights)

variable {store : Store} {name : String}

/-- An open bucket belongs to a working store. -/
theorem works_of_isOpen (isOpen : store.IsOpen name) : store.Works := by
  cases store with
  | inMemory memory => trivial
  | inDatabase database =>
      obtain ⟨tables, present, _⟩ := isOpen
      exact Option.isSome_iff_exists.mpr ⟨tables, present⟩

/-- An open bucket is written to and stays open, by induction on the writes. -/
theorem exists_writeAll (isOpen : store.IsOpen name) (writes : List Write)
    : ∃ written, store.writeAll name writes = .ok written ∧ written.IsOpen name := by
  induction writes generalizing store with
  | nil => exact ⟨store, rfl, isOpen⟩
  | cons write later ih =>
      have first : ∃ next, store.write name write = .ok next ∧ next.IsOpen name := by
        cases write with
        | set key payload =>
            obtain ⟨stored, sets, changes⟩ := exists_set isOpen key payload
            exact ⟨stored, sets, changes.stays name isOpen⟩
        | delete key =>
            obtain ⟨left, deletes, changes⟩ := exists_delete (works_of_isOpen isOpen) name key
            exact ⟨left, deletes, changes.stays name isOpen⟩
      obtain ⟨next, written, nextOpen⟩ := first
      obtain ⟨last, rest, lastOpen⟩ := ih nextOpen
      refine ⟨last, ?_, lastOpen⟩
      simp only [writeAll, written, bind, Except.bind, rest]

end Store

-----------------------------------------------------------------------------------------
-- What walks show
-----------------------------------------------------------------------------------------

namespace Sight

/-- The entries that are found on a walk. -/
def shown (sights : List Sight) : List Entry :=
  sights.filterMap Sight.found

/-- A key that is in the bucket at each call of a walk. -/
def IsKept (sights : List Sight) (key : Bytes) : Prop :=
  ∀ sight ∈ sights, ∃ payload, (key, payload) ∈ sight.bucket.entries

/-- A walk that has come to its end: a call has found nothing. -/
def IsOver (sights : List Sight) : Prop :=
  ∃ sight ∈ sights, sight.found = none

/-- What a walk over a part of the keys shows: entries of that part in their order, each of which
is in the bucket when it is found, and in the end every key of the part that is kept.
-/
structure Covers (direction : Direction) (isIn : Bytes → Bool) (sights : List Sight) : Prop where
  ordered : (shown sights).Pairwise fun a b => direction.leads a.1 b.1 = true
  inside : ∀ entry ∈ shown sights, isIn entry.1 = true
  present : ∀ sight ∈ sights, ∀ entry, sight.found = some entry → entry ∈ sight.bucket.entries
  complete
    : IsOver sights → ∀ key, isIn key = true → IsKept sights key → key ∈ (shown sights).map Prod.fst

variable {direction : Direction} {isIn : Bytes → Bool} {bucket : Bucket} {sights : List Sight}

theorem covers_nil (direction : Direction) (isIn : Bytes → Bool) : Covers direction isIn [] := by
  constructor
  · exact .nil
  · intro entry member
    cases member
  · intro sight member
    cases member
  · intro ended
    obtain ⟨sight, member, _⟩ := ended
    cases member

/-- Where nothing is found there is no key left that could be shown later. -/
theorem covers_cons_none
    (nothing : ((direction.along bucket.entries).filter fun entry => isIn entry.1) = [])
    (rest : Covers direction (direction.farEnd.isAhead direction) sights)
    : Covers direction isIn (⟨bucket, none⟩ :: sights) := by
  have nothing_later : shown sights = [] := by
    apply List.eq_nil_iff_forall_not_mem.mpr
    intro entry member
    have beyond := rest.inside entry member
    cases direction <;> cases beyond
  have same : shown (⟨bucket, none⟩ :: sights) = [] := nothing_later
  constructor
  · rw [same]
    exact .nil
  · rw [same]
    intro entry member
    cases member
  · intro sight member entry found
    rcases List.mem_cons.mp member with rfl | later
    · cases found
    · exact rest.present sight later entry found
  · intro _ key includes kept
    obtain ⟨payload, there⟩ := kept ⟨bucket, none⟩ List.mem_cons_self
    have left : (key, payload) ∉ (direction.along bucket.entries).filter fun e => isIn e.1 := by
      rw [nothing]
      exact List.not_mem_nil
    exact absurd (List.mem_filter.mpr ⟨Direction.mem_along.mpr there, includes⟩) left

/-- From the first entry of a part a walk goes on over the keys beyond that entry. A key of the part
that is kept is the entry's own or lies beyond it.
-/
theorem covers_cons_some {entry : Entry} {further : List Entry}
    (upward
      : ∀ {key other}, isIn key = true → direction.leads key other = true → isIn other = true)
    (nearest
      : ((direction.along bucket.entries).filter fun entry => isIn entry.1) = entry :: further)
    (rest : Covers direction (direction.leads entry.1) sights)
    : Covers direction isIn (⟨bucket, some entry⟩ :: sights) := by
  have ordered := (direction.pairwise_along bucket).filter fun entry => isIn entry.1
  rw [nearest] at ordered
  have first := (List.pairwise_cons.mp ordered).1
  have member : entry ∈ (direction.along bucket.entries).filter fun entry => isIn entry.1 := by
    rw [nearest]
    exact List.mem_cons_self
  obtain ⟨there, includes⟩ := List.mem_filter.mp member
  have same : shown (⟨bucket, some entry⟩ :: sights) = entry :: shown sights := rfl
  constructor
  · rw [same]
    exact List.pairwise_cons.mpr ⟨rest.inside, rest.ordered⟩
  · rw [same]
    intro other shown
    rcases List.mem_cons.mp shown with rfl | later
    · exact includes
    · exact upward includes (rest.inside other later)
  · intro sight met other found
    rcases List.mem_cons.mp met with rfl | later
    · cases found
      exact Direction.mem_along.mp there
    · exact rest.present sight later other found
  · intro ended key keyIncludes kept
    rw [same, List.map_cons, List.mem_cons]
    obtain ⟨payload, keyThere⟩ := kept ⟨bucket, some entry⟩ List.mem_cons_self
    have own : (key, payload) ∈ (direction.along bucket.entries).filter fun e => isIn e.1 :=
      List.mem_filter.mpr ⟨Direction.mem_along.mpr keyThere, keyIncludes⟩
    rw [nearest] at own
    rcases List.mem_cons.mp own with same | beyond
    · exact .inl (congrArg Prod.fst same)
    · obtain ⟨sight, met, nothing⟩ := ended
      rcases List.mem_cons.mp met with rfl | later
      · cases nothing
      · refine .inr (rest.complete ⟨sight, later, nothing⟩ key (first _ beyond) ?_)
        exact fun sight later => kept sight (List.mem_cons_of_mem _ later)

/-- Keys that come one after the other are shown once at most. -/
theorem Covers.count_eq_one (covers : Covers direction isIn sights) {key : Bytes}
    (member : key ∈ (shown sights).map Prod.fst)
    : ((shown sights).map Prod.fst).count key = 1 := by
  apply List.count_eq_one_of_mem _ member
  refine List.pairwise_map.mpr (covers.ordered.imp ?_)
  intro a b leads same
  rw [same, Direction.leads_irrefl] at leads
  cases leads

end Sight

-----------------------------------------------------------------------------------------
-- Walks over a store
-----------------------------------------------------------------------------------------

namespace Opening

variable {direction : Direction}

/-- The keys from the start of a walk on, one of which leads to the others. -/
theorem includes_of_leads (opening : Opening direction) {key other : Bytes}
    (near : opening.includes key = true) (beyond : direction.leads key other = true)
    : opening.includes other = true := by
  cases opening with
  | step | first | last => rfl
  | seek position start =>
      simp only [includes, Bool.not_eq_true'] at near ⊢
      cases back : KeyOrder.before other start with
      | false => rfl
      | true => exact absurd (KeyOrder.trans beyond back) (by simp [near])

/-- The first move of a walk finds the first of these keys. -/
theorem move_eq (opening : Opening direction) (bucket : Bucket)
    : opening.position.move (.ofBucket bucket) opening.move
      = Position.land
          ((direction.along bucket.entries).filter fun entry => opening.includes entry.1).head?
          direction.farEnd := by
  have everything (entries : List Entry) : (entries.filter fun _ => true) = entries :=
    List.filter_eq_self.mpr fun _ _ => rfl
  have unplaced (direction : Direction) :=
    (Position.move_step direction bucket .unplaced).trans
      (congrArg (fun entries => Position.land entries.head? direction.farEnd)
        (Position.ahead_unplaced direction bucket))
  cases opening with
  | step =>
      simp only [includes, everything]
      exact unplaced direction
  | first position =>
      simp only [includes, everything]
      exact unplaced .forward
  | last position =>
      simp only [includes, everything]
      exact unplaced .backward
  | seek position key =>
      rw [List.head?_filter]
      rfl

end Opening

namespace Store

variable {store : Store} {name : String}

/-- A walk covers the keys from its start on, by induction on its calls: each call finds the first
of the keys that are left, and leaves those beyond it to the next one.
-/
theorem exists_roam (isOpen : store.IsOpen name) {direction : Direction} {isIn : Bytes → Bool}
    {position : Position} {move : Move}
    (upward
      : ∀ {key other}, isIn key = true → direction.leads key other = true → isIn other = true)
    (lands
      : ∀ bucket,
          position.move (.ofBucket bucket) move
          = Position.land ((direction.along bucket.entries).filter fun entry => isIn entry.1).head?
              direction.farEnd)
    (rounds : List (List Write))
    : ∃ sights,
        store.roam name direction position move rounds = .ok sights
        ∧ sights.length = rounds.length
        ∧ Sight.Covers direction isIn sights := by
  induction rounds generalizing store isIn position move with
  | nil => exact ⟨[], rfl, rfl, Sight.covers_nil direction isIn⟩
  | cons writes later ih =>
      obtain ⟨written, writing, writtenOpen⟩ := exists_writeAll isOpen writes
      have moved := move_of_works (works_of_isOpen writtenOpen) name position move
      rw [lands] at moved
      -- The keys that are left for the next call lie ahead of the position that this one ends at.
      have continues (next : Position) :=
        ih writtenOpen (next.isAhead_of_leads) (next.move_step direction · )
      cases left : (direction.along (written.bucket name).entries).filter fun e => isIn e.1 with
      | nil =>
          obtain ⟨sights, walk, length, covers⟩ := continues direction.farEnd
          rw [left] at moved
          refine ⟨_, ?_, congrArg (· + 1) length, Sight.covers_cons_none left covers⟩
          simp only [roam, writing, moved, List.head?_nil, Position.land, walk, bind, Except.bind]
      | cons entry further =>
          obtain ⟨sights, walk, length, covers⟩ := continues (.standing entry.1)
          rw [left] at moved
          refine ⟨_, ?_, congrArg (· + 1) length, Sight.covers_cons_some upward left covers⟩
          simp only [roam, writing, moved, List.head?_cons, Position.land, walk, bind, Except.bind]

/-- Whatever is set and deleted in a bucket between the calls of a cursor that walks along it, also
the entry that the cursor stands at, no call fails, and the walk shows keys in their strict order
from its start on. Each entry that it shows is in the bucket at the time, with its payload, and once
a call has found nothing, every key from the start on that is in the bucket at all calls has been
shown exactly once. Witness: each round shows the nearest key ahead and passes no key that stays, by
induction on the rounds.
-/
theorem walk_shows_what_stays (isOpen : store.IsOpen name) {direction : Direction}
    (opening : Opening direction) (rounds : List (List Write))
    : ∃ sights,
        store.roam name direction opening.position opening.move rounds = .ok sights
        ∧ sights.length = rounds.length
        ∧ (Sight.shown sights).Pairwise (fun a b => direction.leads a.1 b.1 = true)
        ∧ (∀ entry ∈ Sight.shown sights, opening.includes entry.1 = true)
        ∧ (∀ sight ∈ sights, ∀ entry, sight.found = some entry → entry ∈ sight.bucket.entries)
        ∧ (Sight.IsOver sights
          → ∀ key,
              opening.includes key = true
              → Sight.IsKept sights key
              → ((Sight.shown sights).map Prod.fst).count key = 1) := by
  obtain ⟨sights, walk, length, covers⟩ :=
    exists_roam isOpen opening.includes_of_leads opening.move_eq rounds
  refine ⟨sights, walk, length, covers.ordered, covers.inside, covers.present, ?_⟩
  intro ended key includes kept
  exact covers.count_eq_one (covers.complete ended key includes kept)

/-- What is written to a lamp before each call of a walk: the entries to begin with, then changes
around the cursor that take away the entry it stands at.
-/
def lampRounds : List (List Write) :=
  [ [.set [2] [20], .set [4] [40], .set [6] [60]]
  , [.delete [2], .set [1] [10], .set [3] [30]]
  , [.delete [3], .delete [4], .set [6] [61]]
  , [.set [5] [50]] ]

/-- What the calls see: the entry that appears in front of the cursor and not the one that appears
behind it, and the entry that stays with its new payload.
-/
def lampSights : List Sight :=
  [ ⟨.ofList [([2], [20]), ([4], [40]), ([6], [60])], some ([2], [20])⟩
  , ⟨.ofList [([1], [10]), ([3], [30]), ([4], [40]), ([6], [60])], some ([3], [30])⟩
  , ⟨.ofList [([1], [10]), ([6], [61])], some ([6], [61])⟩
  , ⟨.ofList [([1], [10]), ([5], [50]), ([6], [61])], none⟩ ]

/-- The key of the lamp that is there all the time is shown once. -/
theorem lamp_shows_what_stays
    : Store.empty.IsOpen "lamp"
      ∧ Store.empty.roam "lamp" .forward .unplaced (.seek [2]) lampRounds = .ok lampSights
      ∧ Sight.IsOver lampSights
      ∧ (Opening.seek .unplaced [2]).includes [6] = true
      ∧ Sight.IsKept lampSights [6]
      ∧ ((Sight.shown lampSights).map Prod.fst).count [6] = 1 := by
  have isOpen : Store.empty.IsOpen "lamp" := trivial
  have seen
      : Store.empty.roam "lamp" .forward .unplaced (.seek [2]) lampRounds = .ok lampSights :=
    rfl
  have ended : Sight.IsOver lampSights := by
    unfold Sight.IsOver lampSights
    decide
  have kept : Sight.IsKept lampSights [6] := by
    simp only [Sight.IsKept, lampSights, List.mem_cons, List.not_mem_nil, or_false,
      forall_eq_or_imp, forall_eq]
    exact ⟨⟨[60], by decide⟩, ⟨[60], by decide⟩, ⟨[61], by decide⟩, ⟨[61], by decide⟩⟩
  obtain ⟨sights, walk, _, _, _, _, complete⟩ :=
    walk_shows_what_stays isOpen (.seek .unplaced [2]) lampRounds
  cases Except.ok.inj (seen.symm.trans walk)
  exact ⟨isOpen, seen, ended, rfl, kept, complete ended [6] rfl kept⟩

end Store

end ValueHistory
