import ValueHistory.Proofs.Cursor.Ahead
import ValueHistory.Proofs.Store.Contents

/-! A cursor is an index on a line. Its position is kept as a key and looked up anew at each move;
over entries that stay as they are this comes to counting: -1 stands in front of the first entry,
the number of entries behind the last one, and each move goes to the index that it says.
-/

namespace ValueHistory

open KeyOrder

-----------------------------------------------------------------------------------------
-- The line of the entries
-----------------------------------------------------------------------------------------

namespace Bucket

/-- The number of keys of a bucket that come before a key. -/
def rank (bucket : Bucket) (key : Bytes) : Nat :=
  bucket.entries.countP fun entry => before entry.1 key

/-- The entry at an index of the line. -/
def entryAt? (bucket : Bucket) (index : Int) : Option Entry :=
  if index < 0 then none else bucket.entries[index.toNat]?

/-- The index after a move. A cursor that has not been placed has no index yet: for a step forward
it counts as one in front of all entries, and for a step back as one behind all of them.
-/
def indexAfter (bucket : Bucket) (index : Option Int) : Move → Int
  | .first => 0
  | .last => bucket.size - 1
  | .next => min (index.getD (-1) + 1) bucket.size
  | .prev => max (index.getD bucket.size - 1) (-1)
  | .seek key => bucket.rank key

/-- The indices after moves one after the other. -/
def indices (bucket : Bucket) (index : Option Int) : List Move → List Int
  | [] => []
  | move :: later =>
    bucket.indexAfter index move :: bucket.indices (some (bucket.indexAfter index move)) later

/-- An index on the line: that of an entry, or the one in front of all entries or behind them. -/
def IsOnLine (bucket : Bucket) (index : Int) : Prop :=
  -1 ≤ index ∧ index ≤ bucket.size

variable {bucket : Bucket}

theorem entryAt?_length {front rest : List Entry} (split : bucket.entries = front ++ rest)
    : bucket.entryAt? front.length = rest.head? := by
  have natural : ¬((front.length : Int) < 0) := by omega
  rw [entryAt?, if_neg natural, Int.toNat_natCast, split,
    List.getElem?_append_right (Nat.le_refl _), Nat.sub_self, List.head?_eq_getElem?]

/-- Only at the two ends of the line there is no entry. -/
theorem entryAt?_eq_none_iff {index : Int} (onLine : bucket.IsOnLine index)
    : bucket.entryAt? index = none ↔ index = -1 ∨ index = bucket.size := by
  obtain ⟨low, high⟩ := onLine
  unfold entryAt?
  split
  · next negative => exact ⟨fun _ => .inl (by omega), fun _ => rfl⟩
  · next natural =>
      rw [List.getElem?_eq_none_iff, ← OrderedMap.size]
      omega

theorem entryAt?_size (bucket : Bucket) : bucket.entryAt? bucket.size = none :=
  (entryAt?_eq_none_iff ⟨by omega, Int.le_refl _⟩).mpr (.inr rfl)

/-- A step back from behind all entries leads to the last one. -/
theorem entryAt?_back (bucket : Bucket)
    : bucket.entryAt? (max (bucket.size - 1) (-1)) = bucket.entries.getLast? := by
  rcases List.eq_nil_or_concat bucket.entries with none_at_all | ⟨front, last, split⟩
  · simp [entryAt?, OrderedMap.size, none_at_all]
  · rw [List.concat_eq_append] at split
    have size : bucket.size = front.length + 1 := by
      rw [OrderedMap.size, split, List.length_append, List.length_singleton]
    have index : max ((bucket.size : Int) - 1) (-1) = front.length := by omega
    rw [index, entryAt?_length split, split, List.getLast?_concat]
    rfl

/-- A step forward from in front of all entries leads to the first one. -/
theorem entryAt?_forth (bucket : Bucket)
    : bucket.entryAt? (min 0 bucket.size) = bucket.entries.head? := by
  have index : min (0 : Int) bucket.size = ([] : List Entry).length := by
    rw [List.length_nil]
    omega
  rw [index, entryAt?_length (List.nil_append bucket.entries).symm]

/-- A step forward from in front of all entries leads to the first index. -/
theorem indexAfter_next_of_front {index : Option Int} (front : index.getD (-1) = -1)
    : bucket.indexAfter index .next = 0 := by
  simp only [indexAfter, front]
  omega

/-- A step back from behind all entries leads to the last index. -/
theorem indexAfter_prev_of_back {index : Option Int} (back : index.getD bucket.size = bucket.size)
    : bucket.indexAfter index .prev = bucket.size - 1 := by
  simp only [indexAfter, back]
  omega

theorem isOnLine_indexAfter {index : Option Int} (onLine : ∀ i ∈ index, bucket.IsOnLine i)
    (move : Move)
    : bucket.IsOnLine (bucket.indexAfter index move) := by
  unfold IsOnLine at onLine ⊢
  cases move with
  | first | last => simp only [indexAfter]; omega
  | seek key =>
      have inside : bucket.rank key ≤ bucket.size := List.countP_le_length
      simp only [indexAfter]
      omega
  | next | prev =>
      cases index with
      | none => simp only [indexAfter, Option.getD_none]; omega
      | some i =>
          have := onLine i rfl
          simp only [indexAfter, Option.getD_some]
          omega

/-- Moves never leave the line, by induction on them. -/
theorem isOnLine_of_mem_indices {index : Option Int} (onLine : ∀ i ∈ index, bucket.IsOnLine i)
    {moves : List Move} {reached : Int} (member : reached ∈ bucket.indices index moves)
    : bucket.IsOnLine reached := by
  induction moves generalizing index with
  | nil => cases member
  | cons move later ih =>
      have next := isOnLine_indexAfter onLine move
      rcases List.mem_cons.mp member with rfl | further
      · exact next
      · exact ih (by rintro _ ⟨⟩; exact next) further

/-- The index beyond the last entry on a way. -/
def endIndex (bucket : Bucket) : Direction → Int
  | .forward => bucket.size
  | .backward => -1

/-- Where a step finds nothing it has come to the end of the line on its way. -/
theorem indexAfter_eq_endIndex {index : Option Int} (onLine : ∀ i ∈ index, bucket.IsOnLine i)
    {direction : Direction}
    (nothing : bucket.entryAt? (bucket.indexAfter index direction.step) = none)
    : bucket.indexAfter index direction.step = bucket.endIndex direction := by
  have ends := (entryAt?_eq_none_iff (isOnLine_indexAfter onLine direction.step)).mp nothing
  have low : ∀ i ∈ index, -1 ≤ i := fun i same => (onLine i same).1
  have high : ∀ i ∈ index, i ≤ bucket.size := fun i same => (onLine i same).2
  cases direction with
  | forward =>
      have behind : 0 ≤ index.getD (-1) + 1 := by
        cases index with
        | none => decide
        | some i => exact Int.add_le_add_right (low i rfl) 1
      simp only [indexAfter, endIndex, Direction.step] at ends ⊢
      omega
  | backward =>
      have before : index.getD bucket.size - 1 < bucket.size := by
        cases index with
        | none => exact Int.sub_lt_self _ Int.one_pos
        | some i => exact Int.sub_one_lt_of_le (high i rfl)
      simp only [indexAfter, endIndex, Direction.step] at ends ⊢
      omega

/-- Further steps stay at the end of the line. -/
theorem indexAfter_endIndex (bucket : Bucket) (direction : Direction)
    : bucket.indexAfter (some (bucket.endIndex direction)) direction.step
      = bucket.endIndex direction := by
  cases direction with
  | forward | backward =>
      simp only [indexAfter, endIndex, Direction.step, Option.getD_some]
      omega

/-- A step back from the end of the line leads to the last entry on the way. -/
theorem entryAt?_unstep (bucket : Bucket) (direction : Direction)
    : bucket.entryAt? (bucket.indexAfter (some (bucket.endIndex direction)) direction.unstep)
      = (direction.along bucket.entries).getLast? := by
  cases direction with
  | forward => exact entryAt?_back bucket
  | backward =>
      rw [Direction.along, List.getLast?_reverse]
      exact entryAt?_forth bucket

/-- A step from an entry and a step back lead to its index again. -/
theorem indexAfter_unstep {index : Int} (onLine : bucket.IsOnLine index)
    (inside : bucket.entryAt? index ≠ none) (direction : Direction)
    : bucket.indexAfter (some (bucket.indexAfter (some index) direction.step)) direction.unstep
      = index := by
  rw [Ne, entryAt?_eq_none_iff onLine] at inside
  obtain ⟨low, high⟩ := onLine
  cases direction with
  | forward | backward =>
      simp only [indexAfter, Direction.step, Direction.unstep, Option.getD_some]
      omega

/-- Steps beyond the end of the line and one step back, by induction on their number. -/
theorem indices_endIndex (bucket : Bucket) (direction : Direction) (count : Nat)
    : (bucket.indices (some (bucket.endIndex direction))
          (List.replicate count direction.step ++ [direction.unstep])).map bucket.entryAt?
      = List.replicate count none ++ [(direction.along bucket.entries).getLast?] := by
  have nothing : bucket.entryAt? (bucket.endIndex direction) = none := by
    cases direction with
    | forward => exact entryAt?_size bucket
    | backward => rfl
  induction count with
  | zero => simp only [List.replicate_zero, List.nil_append, indices, List.map_cons, List.map_nil,
      entryAt?_unstep]
  | succ count ih =>
      simp only [List.replicate_succ, List.cons_append, indices, indexAfter_endIndex,
        List.map_cons, nothing, ih]

end Bucket

-----------------------------------------------------------------------------------------
-- Positions as indices
-----------------------------------------------------------------------------------------

namespace Position

/-- A position at an index: it is kept as the key of the entry with the index, or as the end of the
line. One that has not been placed has no index.
-/
inductive StandsAt (bucket : Bucket) : Position → Option Int → Prop
  | unplaced : StandsAt bucket .unplaced none
  | beforeFirst : StandsAt bucket .beforeFirst (some (-1))
  | standing {front rest : List Entry} {entry : Entry}
    (split : bucket.entries = front ++ entry :: rest)
    : StandsAt bucket (.standing entry.1) (some front.length)
  | afterLast : StandsAt bucket .afterLast (some bucket.size)

/-- What a move finds and where it ends, told by an index. -/
def Lands (bucket : Bucket) (landing : Option Entry × Position) (index : Int) : Prop :=
  landing.1 = bucket.entryAt? index ∧ StandsAt bucket landing.2 (some index)

variable {bucket : Bucket}

/-- The first of the last entries has as many entries in front of it as are left out. -/
theorem lands_head {front rest : List Entry} (split : bucket.entries = front ++ rest)
    : Lands bucket (land rest.head? .afterLast) front.length := by
  have found := Bucket.entryAt?_length split
  cases rest with
  | nil =>
      have size : bucket.size = front.length := by
        rw [OrderedMap.size, split, List.append_nil]
      exact ⟨found.symm, size ▸ StandsAt.afterLast⟩
  | cons entry later => exact ⟨found.symm, .standing split⟩

/-- The last of the first entries has one entry less in front of it than they are. -/
theorem lands_getLast {front rest : List Entry} (split : bucket.entries = front ++ rest)
    : Lands bucket (land front.getLast? .beforeFirst) (front.length - 1) := by
  rcases List.eq_nil_or_concat front with rfl | ⟨earlier, last, rfl⟩
  · exact ⟨rfl, .beforeFirst⟩
  · rw [List.concat_eq_append] at split ⊢
    rw [List.append_assoc] at split
    have index : ((earlier ++ [last]).length : Int) - 1 = earlier.length := by
      rw [List.length_append, List.length_singleton]
      omega
    rw [index, List.getLast?_concat]
    exact ⟨(Bucket.entryAt?_length split).symm, .standing split⟩

theorem lands_first (bucket : Bucket) : Lands bucket (land bucket.entries.head? .afterLast) 0 :=
  lands_head (List.nil_append bucket.entries).symm

theorem lands_last (bucket : Bucket)
    : Lands bucket (land bucket.entries.getLast? .beforeFirst) (bucket.size - 1) :=
  lands_getLast (List.append_nil bucket.entries).symm

/-- A step of a position without an index goes over the whole line. -/
theorem move_unplaced (direction : Direction) (bucket : Bucket)
    : unplaced.move (.ofBucket bucket) direction.step
      = land (direction.along bucket.entries).head? direction.farEnd := by
  rw [move_step, ahead_unplaced]

/-- The keys before a key come first, so that the first one of the others has the rank of the key
as its index.
-/
theorem lands_seek (bucket : Bucket) (position : Position) (key : Bytes)
    : Lands bucket (position.move (.ofBucket bucket) (.seek key)) (bucket.rank key) := by
  let reached := fun entry : Entry => !before entry.1 key
  have staged : bucket.entries.Pairwise fun a b => reached a = true → reached b = true := by
    refine bucket.ascending.imp ?_
    intro a b front aReached
    simp only [reached, Bool.not_eq_true'] at aReached ⊢
    cases back : before b.1 key with
    | false => rfl
    | true => exact absurd (trans front back) (by simp [aReached])
  have split := (Staged.filter_append_filter staged).symm
  have rank : bucket.rank key = (bucket.entries.filter fun entry => !reached entry).length := by
    simp only [Bucket.rank, List.countP_eq_length_filter, reached, Bool.not_not]
  have moved
      : position.move (.ofBucket bucket) (.seek key)
        = land (bucket.entries.filter reached).head? .afterLast := by
    rw [List.head?_filter]
    rfl
  rw [moved, rank]
  exact lands_head split

/-- A step forward goes to the next index, unless it is behind the last entry already. -/
theorem StandsAt.next {position : Position} {index : Option Int}
    (stands : StandsAt bucket position index)
    : Lands bucket (position.move (.ofBucket bucket) .next) (bucket.indexAfter index .next) := by
  cases stands with
  | unplaced | beforeFirst =>
      rw [Bucket.indexAfter_next_of_front rfl]
      exact move_unplaced .forward bucket ▸ lands_first bucket
  | @standing front rest entry split =>
      have along : Direction.forward.along bucket.entries = front ++ entry :: rest := split
      have moved := move_step .forward bucket (.standing entry.1)
      rw [ahead_standing front along] at moved
      have split_after : bucket.entries = (front ++ [entry]) ++ rest := by
        rw [split, List.append_assoc]
        rfl
      have index : bucket.indexAfter (some front.length) .next = (front ++ [entry]).length := by
        simp only [Bucket.indexAfter, Option.getD_some, OrderedMap.size, split,
          List.length_append, List.length_cons, List.length_nil]
        omega
      rw [index]
      exact moved ▸ lands_head split_after
  | afterLast =>
      have index : bucket.indexAfter (some bucket.size) .next = bucket.size := by
        simp only [Bucket.indexAfter, Option.getD_some]
        omega
      rw [index]
      exact ⟨(Bucket.entryAt?_size bucket).symm, .afterLast⟩

/-- A step back goes to the index before, unless it is in front of the first entry already. -/
theorem StandsAt.prev {position : Position} {index : Option Int}
    (stands : StandsAt bucket position index)
    : Lands bucket (position.move (.ofBucket bucket) .prev) (bucket.indexAfter index .prev) := by
  cases stands with
  | unplaced | afterLast =>
      have moved := move_unplaced .backward bucket
      rw [Direction.along, List.head?_reverse] at moved
      rw [Bucket.indexAfter_prev_of_back rfl]
      exact moved ▸ lands_last bucket
  | @standing front rest entry split =>
      have along : Direction.forward.along bucket.entries = front ++ entry :: rest := split
      have index : bucket.indexAfter (some front.length) .prev = front.length - 1 := by
        simp only [Bucket.indexAfter, Option.getD_some]
        omega
      rw [index]
      exact move_unstep along ▸ lands_getLast split
  | beforeFirst => exact ⟨rfl, .beforeFirst⟩

/-- A move finds the entry at the index that it goes to, and stands there. -/
theorem StandsAt.move {position : Position} {index : Option Int}
    (stands : StandsAt bucket position index) (move : Move)
    : Lands bucket (position.move (.ofBucket bucket) move) (bucket.indexAfter index move) := by
  cases move with
  | first => exact move_unplaced .forward bucket ▸ lands_first bucket
  | last =>
      have moved := move_unplaced .backward bucket
      rw [Direction.along, List.head?_reverse] at moved
      exact moved ▸ lands_last bucket
  | next => exact stands.next
  | prev => exact stands.prev
  | seek key => exact lands_seek bucket position key

end Position

-----------------------------------------------------------------------------------------
-- Runs of moves
-----------------------------------------------------------------------------------------

namespace Store

/-- What moves of a cursor find one after the other, and the position after them. -/
def moveAll (store : Store) (name : String) (position : Position)
    : List Move → Except StoreFailure (List (Option Entry) × Position)
  | [] => .ok ([], position)
  | move :: later => do
    let (found, position) ← store.move name position move
    let (others, position) ← store.moveAll name position later
    .ok (found :: others, position)

variable {store : Store}

/-- Moves find the entries at their indices, by induction on the moves: each one finds the entry at
its index and leaves the cursor there.
-/
theorem moveAll_of_standsAt (works : store.Works) (name : String) {position : Position}
    {index : Option Int} (stands : position.StandsAt (store.bucket name) index)
    (moves : List Move)
    : ∃ reached,
        store.moveAll name position moves
          = .ok
              (((store.bucket name).indices index moves).map (store.bucket name).entryAt?, reached)
        ∧ reached.StandsAt (store.bucket name)
            (((store.bucket name).indices index moves).getLast?.or index) := by
  induction moves generalizing position index with
  | nil => exact ⟨position, rfl, stands⟩
  | cons move later ih =>
      obtain ⟨found, standsNext⟩ := stands.move move
      obtain ⟨reached, rest, standsLast⟩ := ih standsNext
      refine ⟨reached, ?_, ?_⟩
      · simp only [moveAll, move_of_works works, bind, Except.bind, rest, found, Bucket.indices,
          List.map_cons]
      · rw [Option.or_some] at standsLast
        rwa [Bucket.indices, List.getLast?_cons, Option.some_or]

/-- A cursor on a working store is an index on the line of the entries: moves from one to the other
answer with the entries at the indices that the moves lead to, one after the other, from -1 in front
of all entries to their number behind them, and with none at these two alone. So a step from an
entry and a step back answer with that entry again, and however often a step is taken beyond an end
of the line, a step back answers with the last entry on that way. Witness: a position stands at an
index of the line, kept by each move, and induction on the moves.
-/
theorem cursor_is_index_on_line (works : store.Works) (name : String) (moves : List Move)
    : ∃ answers position,
        store.moveAll name .unplaced moves = .ok (answers, position)
        ∧ answers
          = ((store.bucket name).indices none moves).map (store.bucket name).entryAt?
        ∧ (∀ index ∈ (store.bucket name).indices none moves,
            (-1 ≤ index ∧ index ≤ (store.bucket name).size)
            ∧ ((store.bucket name).entryAt? index = none
              ↔ index = -1 ∨ index = (store.bucket name).size))
        ∧ ∀ direction : Direction,
            (∀ entry,
              answers.getLast? = some (some entry)
              → ∃ beyond final,
                  store.moveAll name position [direction.step, direction.unstep]
                  = .ok ([beyond, some entry], final))
            ∧ ∀ after count,
                store.move name position direction.step = .ok (none, after)
                → ∃ final,
                    store.moveAll name after
                        (List.replicate count direction.step ++ [direction.unstep])
                      = .ok
                          (List.replicate count none
                              ++ [(direction.along (store.bucket name).entries).getLast?],
                            final) := by
  have fresh : ∀ i ∈ (none : Option Int), (store.bucket name).IsOnLine i := nofun
  have onLine (index : Int) (member : index ∈ (store.bucket name).indices none moves) :=
    Bucket.isOnLine_of_mem_indices fresh member
  obtain ⟨position, run, stands⟩ := moveAll_of_standsAt works name .unplaced moves
  rw [Option.or_none] at stands
  have standing : ∀ i ∈ ((store.bucket name).indices none moves).getLast?,
      (store.bucket name).IsOnLine i :=
    fun i last => onLine i (List.mem_of_getLast? last)
  refine ⟨_, position, run, rfl, ?_, ?_⟩
  · intro index member
    exact ⟨onLine index member, Bucket.entryAt?_eq_none_iff (onLine index member)⟩
  intro direction
  constructor
  · intro entry last
    rw [List.getLast?_map, Option.map_eq_some_iff] at last
    obtain ⟨index, last, at_index⟩ := last
    rw [last] at stands
    obtain ⟨final, steps, _⟩ :=
      moveAll_of_standsAt works name stands [direction.step, direction.unstep]
    have inside : (store.bucket name).entryAt? index ≠ none := by simp [at_index]
    simp only [Bucket.indices, List.map_cons, List.map_nil,
      Bucket.indexAfter_unstep (standing index last) inside, at_index] at steps
    exact ⟨_, final, steps⟩
  · intro after count moved
    have lands := stands.move direction.step
    rw [move_of_works works, Except.ok.injEq] at moved
    rw [moved] at lands
    obtain ⟨nothing, standsAfter⟩ := lands
    rw [Bucket.indexAfter_eq_endIndex standing nothing.symm] at standsAfter
    obtain ⟨final, steps, _⟩ :=
      moveAll_of_standsAt works name standsAfter
        (List.replicate count direction.step ++ [direction.unstep])
    rw [Bucket.indices_endIndex] at steps
    exact ⟨final, steps⟩

/-- A store with three entries of a lamp. -/
def ofLamp : Store :=
  .inMemory
    (((Memory.empty.set "lamp" [6] [60]).set "lamp" [2] [20]).set "lamp" [4] [40])

/-- The moves of a cursor that goes beyond the last entry of the lamp, to a key in the middle and to
the last entry again.
-/
def toAndFro : List Move :=
  [.prev, .next, .prev, .prev, .seek [3], .next]

/-- The cursor comes to the last entry of the lamp. From there a step and a step back answer with it
again, and it is still found after three steps beyond it.
-/
theorem cursor_runs_along_lamp
    : ofLamp.Works
      ∧ (ofLamp.bucket "lamp").indices none toAndFro = [2, 3, 2, 1, 1, 2]
      ∧ ∃ position after beyond final last,
          ofLamp.moveAll "lamp" .unplaced toAndFro
            = .ok
                ([some ([6], [60]), none, some ([6], [60]), some ([4], [40]),
                    some ([4], [40]), some ([6], [60])],
                  position)
          ∧ ofLamp.moveAll "lamp" position [.next, .prev]
            = .ok ([beyond, some ([6], [60])], final)
          ∧ ofLamp.move "lamp" position .next = .ok (none, after)
          ∧ ofLamp.moveAll "lamp" after [.next, .next, .prev]
            = .ok ([none, none, some ([6], [60])], last) := by
  have works : ofLamp.Works := trivial
  obtain ⟨answers, position, run, _, _, around⟩ :=
    cursor_is_index_on_line works "lamp" toAndFro
  obtain ⟨rfl, rfl⟩ := Prod.mk.inj (Except.ok.inj run)
  obtain ⟨returns, beyondEnd⟩ := around .forward
  obtain ⟨beyond, final, toAndBack⟩ := returns ([6], [60]) rfl
  obtain ⟨last, farAndBack⟩ := beyondEnd .afterLast 2 rfl
  exact ⟨works, by decide, _, _, beyond, final, last, run, toAndBack, rfl, farAndBack⟩

end Store

end ValueHistory
