import ValueHistory.Proofs.Cursor.Evidence

/-! The moves that a scan makes. It goes on without a count as long as it passes entries over, but
each of its steps leaves fewer entries ahead. So it ends within one step more than there are entries
ahead at its beginning, and a step back.
-/

namespace ValueHistory

-----------------------------------------------------------------------------------------
-- Runs
-----------------------------------------------------------------------------------------

/-- A reading that can only be done in one way: it makes some moves of a given cost and ends with
the result.
-/
def Finishes {α : Type} (runs : List Move → α → Prop) (result : α) (cost : List Move → Prop)
    : Prop :=
  ∃ moves, cost moves ∧ ∀ made outcome, runs made outcome ↔ made = moves ∧ outcome = result

namespace Finishes

variable {α β : Type} {runs : List Move → α → Prop} {result : α} {cost : List Move → Prop}

/-- A reading ends if it can be done in some way and in no two ways. -/
theorem of_unique {moves : List Move} (run : runs moves result) (spent : cost moves)
    (unique
      : ∀ {made other outcome otherOutcome},
          runs made outcome → runs other otherOutcome → made = other ∧ outcome = otherOutcome)
    : Finishes runs result cost := by
  refine ⟨moves, spent, fun made outcome => ⟨fun done => unique done run, ?_⟩⟩
  rintro ⟨rfl, rfl⟩
  exact run

/-- What is told of the result of a reading takes no moves. -/
theorem map (ends : Finishes runs result cost) (tell : α → β)
    : Finishes (fun moves outcome => ∃ answer, runs moves answer ∧ outcome = tell answer)
        (tell result) cost := by
  obtain ⟨moves, spent, only⟩ := ends
  refine ⟨moves, spent, fun made outcome => ⟨?_, ?_⟩⟩
  · rintro ⟨answer, run, rfl⟩
    obtain ⟨rfl, rfl⟩ := (only made answer).mp run
    exact ⟨rfl, rfl⟩
  · rintro ⟨rfl, rfl⟩
    exact ⟨result, (only made result).mpr ⟨rfl, rfl⟩, rfl⟩

/-- Two readings one after the other end where the second one ends after the result of the first. -/
theorem append {γ : Type} (ends : Finishes runs result cost) (others : α → List Move → β → Prop)
    {last : β} {costLast : List Move → Prop} (later : Finishes (others result) last costLast)
    (tell : α → β → γ)
    : Finishes
        (fun moves outcome =>
          ∃ front answer back final,
            runs front answer
            ∧ others answer back final
            ∧ moves = front ++ back
            ∧ outcome = tell answer final)
        (tell result last)
        fun moves => ∃ front back, moves = front ++ back ∧ cost front ∧ costLast back := by
  obtain ⟨moves, spent, only⟩ := ends
  obtain ⟨more, spentLast, onlyLast⟩ := later
  refine ⟨moves ++ more, ⟨moves, more, rfl, spent, spentLast⟩, fun made outcome => ⟨?_, ?_⟩⟩
  · rintro ⟨front, answer, back, final, run, rest, rfl, rfl⟩
    obtain ⟨rfl, rfl⟩ := (only front answer).mp run
    obtain ⟨rfl, rfl⟩ := (onlyLast back final).mp rest
    exact ⟨rfl, rfl⟩
  · rintro ⟨rfl, rfl⟩
    exact ⟨moves, result, more, last, (only _ _).mpr ⟨rfl, rfl⟩, (onlyLast _ _).mpr ⟨rfl, rfl⟩,
      rfl, rfl⟩

end Finishes

-----------------------------------------------------------------------------------------
-- Steps
-----------------------------------------------------------------------------------------

/-- Moves on a way: at most so many steps, and at the end perhaps a step back. -/
def Direction.Spends (direction : Direction) (steps : Nat) (moves : List Move) : Prop :=
  ∃ count undone,
    moves = List.replicate count direction.step ++ undone
    ∧ count ≤ steps
    ∧ (undone = [] ∨ undone = [direction.unstep])

/-- Steps in front of moves add to their steps. -/
theorem Direction.Spends.append {direction : Direction} {steps count : Nat} {moves : List Move}
    (spends : direction.Spends steps moves)
    : direction.Spends (count + steps) (List.replicate count direction.step ++ moves) := by
  obtain ⟨more, undone, rfl, less, last⟩ := spends
  refine ⟨count + more, undone, ?_, Nat.add_le_add_left less count, last⟩
  rw [← List.append_assoc, List.replicate_append_replicate]

/-- A row of steps that each pass one of the entries ahead. -/
structure Position.Passes (direction : Direction) (bucket : Bucket) (count : Nat)
    (position : Position) (moves : List Move) (after : Position)
    : Prop where
  steps : moves = List.replicate count direction.step
  passed
    : count + (after.ahead direction bucket).length = (position.ahead direction bucket).length

namespace Position

variable {direction : Direction} {bucket : Bucket} {position next after : Position} {entry : Entry}

/-- A move that finds an entry ends at it. -/
theorem eq_standing_of_move {lookup : Lookup} {move : Move}
    (moved : position.move lookup move = (some entry, next))
    : next = standing entry.1 := by
  have landed {result : Option Entry} {otherwise : Position}
      (lands : land result otherwise = (some entry, next)) : next = standing entry.1 := by
    cases result with
    | none => cases lands
    | some _ =>
        cases lands
        rfl
  cases move with
  | first | last | seek => exact landed moved
  | next =>
      cases position with
      | unplaced | beforeFirst | standing => exact landed moved
      | afterLast => cases moved
  | prev =>
      cases position with
      | unplaced | afterLast | standing => exact landed moved
      | beforeFirst => cases moved

/-- A step that finds an entry passes it and leaves all the others ahead. -/
theorem ahead_of_step
    (moved : position.move (.ofBucket bucket) direction.step = (some entry, next))
    : position.ahead direction bucket = entry :: next.ahead direction bucket := by
  rw [eq_standing_of_move moved]
  rw [move_step] at moved
  cases near : position.ahead direction bucket with
  | nil => simp [near, land] at moved
  | cons first later =>
      simp only [near, List.head?_cons, land, Prod.mk.injEq, Option.some.injEq] at moved
      have split : position.ahead direction bucket = [] ++ first :: later := near
      rw [← moved.1, (ahead_of_split split).1]

/-- An entry is not ahead of itself, so not all entries lie ahead of it. -/
theorem length_ahead_standing_lt (direction : Direction) (there : entry ∈ bucket.entries)
    : ((standing entry.1).ahead direction bucket).length < bucket.size := by
  rw [← direction.length_along bucket, ahead, List.length_filter_lt_length_iff_exists]
  exact ⟨entry, Direction.mem_along.mpr there, by simp [isAhead, Direction.leads_irrefl]⟩

theorem Passes.step
    (moved : position.move (.ofBucket bucket) direction.step = (some entry, next))
    : Passes direction bucket 1 position [direction.step] next :=
  ⟨rfl, by rw [ahead_of_step moved, List.length_cons, Nat.add_comm]⟩

theorem Passes.append {count more : Nat} {moves later : List Move}
    (passes : Passes direction bucket count position moves next)
    (others : Passes direction bucket more next later after)
    : Passes direction bucket (count + more) position (moves ++ later) after := by
  refine ⟨?_, ?_⟩
  · rw [passes.steps, others.steps, List.replicate_append_replicate]
  · rw [Nat.add_assoc, others.passed, passes.passed]

/-- What is spent after a row of steps is spent in all. -/
theorem Passes.spends {count : Nat} {moves later : List Move}
    (passes : Passes direction bucket count position moves next)
    (spends : direction.Spends ((next.ahead direction bucket).length + 1) later)
    : direction.Spends ((position.ahead direction bucket).length + 1) (moves ++ later) := by
  rw [passes.steps, ← passes.passed, Nat.add_assoc]
  exact spends.append

end Position

-----------------------------------------------------------------------------------------
-- Scans
-----------------------------------------------------------------------------------------

namespace Scan

/-- A scan without a count of its steps, with the moves that it makes. It steps on until there is no
entry, one lies beyond the bound and the step is taken back, or one is found.
-/
inductive Runs (selection : Selection) (lookup : Lookup) (direction : Direction) (bound : Int)
    : Position → List Move → Option Observation × Position → Prop where
  | ended {position after : Position}
      (moved : position.move lookup direction.step = (none, after))
    : Runs selection lookup direction bound position [direction.step] (none, after)
  | stopped {position next : Position} {entry : Entry}
      (moved : position.move lookup direction.step = (some entry, next))
      (beyond : judge selection direction bound entry = .beyond)
    : Runs selection lookup direction bound position [direction.step, direction.unstep]
        (none, (next.move lookup direction.unstep).2)
  | found {position next : Position} {entry : Entry} {value : Observation}
      (moved : position.move lookup direction.step = (some entry, next))
      (found : judge selection direction bound entry = .found value)
    : Runs selection lookup direction bound position [direction.step] (some value, next)
  | passed {position next : Position} {entry : Entry} {moves : List Move}
      {result : Option Observation × Position}
      (moved : position.move lookup direction.step = (some entry, next))
      (skipped : judge selection direction bound entry = .skipped)
      (others : Runs selection lookup direction bound next moves result)
    : Runs selection lookup direction bound position (direction.step :: moves) result

variable {selection : Selection} {lookup : Lookup} {direction : Direction} {bound : Int}
  {bucket : Bucket} {position next after : Position} {moves otherMoves : List Move}
  {result otherResult : Option Observation × Position}

/-- Nothing is left open in a scan, by induction on one of two runs. -/
theorem Runs.unique (runs : Runs selection lookup direction bound position moves result)
    (other : Runs selection lookup direction bound position otherMoves otherResult)
    : moves = otherMoves ∧ result = otherResult := by
  induction runs generalizing otherMoves with
  | ended moved =>
      cases other with
      | ended again =>
          cases moved.symm.trans again
          exact ⟨rfl, rfl⟩
      | stopped again | found again | passed again => cases moved.symm.trans again
  | stopped moved beyond =>
      cases other with
      | ended again => cases moved.symm.trans again
      | stopped again =>
          cases moved.symm.trans again
          exact ⟨rfl, rfl⟩
      | found again verdict | passed again verdict =>
          cases moved.symm.trans again
          cases beyond.symm.trans verdict
  | found moved found =>
      cases other with
      | ended again => cases moved.symm.trans again
      | found again verdict =>
          cases moved.symm.trans again
          cases found.symm.trans verdict
          exact ⟨rfl, rfl⟩
      | stopped again verdict | passed again verdict =>
          cases moved.symm.trans again
          cases found.symm.trans verdict
  | passed moved skipped _ ih =>
      cases other with
      | ended again => cases moved.symm.trans again
      | stopped again verdict | found again verdict =>
          cases moved.symm.trans again
          cases skipped.symm.trans verdict
      | passed again _ others =>
          cases moved.symm.trans again
          obtain ⟨rfl, rfl⟩ := ih others
          exact ⟨rfl, rfl⟩

/-- A scan that ends within a number of steps ends as one without a count, by induction on the
number.
-/
theorem exists_runs_of_within {fuel : Nat}
    (ended : within selection lookup direction bound fuel position = some result)
    : ∃ moves, Runs selection lookup direction bound position moves result := by
  induction fuel generalizing position with
  | zero => cases ended
  | succ fuel ih =>
      rw [within] at ended
      rcases moved : position.move lookup direction.step with ⟨_ | entry, next⟩
      · rw [moved] at ended
        cases ended
        exact ⟨_, .ended moved⟩
      · simp only [moved] at ended
        cases verdict : judge selection direction bound entry with
        | skipped =>
            simp only [verdict] at ended
            obtain ⟨moves, runs⟩ := ih ended
            exact ⟨_, .passed moved verdict runs⟩
        | beyond =>
            simp only [verdict] at ended
            cases ended
            exact ⟨_, .stopped moved verdict⟩
        | found value =>
            simp only [verdict] at ended
            cases ended
            exact ⟨_, .found moved verdict⟩

/-- The steps of a scan that finds a value each pass an entry, by induction on its run. -/
theorem Runs.passes {value : Observation}
    (runs : Runs selection (.ofBucket bucket) direction bound position moves (some value, after))
    : ∃ count, 0 < count ∧ Position.Passes direction bucket count position moves after := by
  generalize ended : (some value, after) = result at runs
  induction runs with
  | ended | stopped => cases ended
  | found moved _ =>
      cases ended
      exact ⟨1, Nat.one_pos, .step moved⟩
  | passed moved _ _ ih =>
      obtain ⟨count, positive, others⟩ := ih ended
      exact ⟨1 + count, by omega, (Position.Passes.step moved).append others⟩

/-- A scan makes no more steps than to pass all entries ahead and to run off the end, and takes back
the last one at most, by induction on its run.
-/
theorem Runs.spends
    (runs : Runs selection (.ofBucket bucket) direction bound position moves result)
    : direction.Spends ((position.ahead direction bucket).length + 1) moves := by
  induction runs with
  | ended => exact ⟨1, [], rfl, by omega, .inl rfl⟩
  | stopped => exact ⟨1, [direction.unstep], rfl, by omega, .inr rfl⟩
  | found => exact ⟨1, [], rfl, by omega, .inl rfl⟩
  | passed moved _ _ ih => exact (Position.Passes.step moved).spends ih

/-- A scan that finds a value stops at an entry of the bucket, by induction on its run. -/
theorem Runs.stands {value : Observation}
    (runs : Runs selection (.ofBucket bucket) direction bound position moves (some value, after))
    : ∃ entry ∈ bucket.entries, after = .standing entry.1 := by
  generalize ended : (some value, after) = result at runs
  induction runs with
  | ended | stopped => cases ended
  | found moved _ =>
      cases ended
      exact ⟨_, (Lookup.answers_ofBucket bucket).move moved, Position.eq_standing_of_move moved⟩
  | passed _ _ _ ih => exact ih ended

/-- A scan of a bucket ends, in the one way that its run tells. -/
theorem exists_runs (selection : Selection) (direction : Direction) (bound : Int) (bucket : Bucket)
    (position : Position)
    : ∃ moves,
        Runs selection (.ofBucket bucket) direction bound position moves
          (run selection (.ofBucket bucket) direction bound position) := by
  have enough : (position.ahead direction bucket).length < bucket.size + 1 :=
    Nat.lt_succ_of_le (position.length_ahead_le direction bucket)
  obtain ⟨result, equal, _⟩ := within_ending selection bound enough
  obtain ⟨moves, runs⟩ := exists_runs_of_within equal
  have same : run selection (.ofBucket bucket) direction bound position = result :=
    congrArg (Option.getD · (none, position)) equal
  exact ⟨moves, same ▸ runs⟩

theorem finishes_run (selection : Selection) (direction : Direction) (bound : Int) (bucket : Bucket)
    (position : Position)
    : Finishes (Runs selection (.ofBucket bucket) direction bound position)
        (run selection (.ofBucket bucket) direction bound position)
        (direction.Spends ((position.ahead direction bucket).length + 1)) := by
  obtain ⟨moves, runs⟩ := exists_runs selection direction bound bucket position
  exact .of_unique runs runs.spends Runs.unique

end Scan

end ValueHistory
