import ValueHistory.Proofs.Service.Recording

/-! Shutting a recorder down. Every turn of a worker brings it nearer to the point where nothing is
left for it, so that the workers drain the recorder in whatever order they take their turns, if only
each has enough of them. Then every message is accounted for.
-/

namespace ValueHistory

namespace Recorder

/-- How many turns of a worker are needed at most until nothing is left for it. -/
def turnsLeft (recorder : Recorder) (worker : Nat) : Nat :=
  2 * recorder.queue.length + recorder.workers[worker]?.join.toList.length

theorem turnsLeft_le (recorder : Recorder) (worker : Nat)
    : recorder.turnsLeft worker ≤ 2 * recorder.queue.length + 1 := by
  rw [turnsLeft]
  cases recorder.workers[worker]?.join <;> simp

theorem turnsLeft_eq_zero_iff {recorder : Recorder} {worker : Nat}
    : recorder.turnsLeft worker = 0
      ↔ recorder.queue = [] ∧ recorder.workers[worker]?.join = none := by
  rw [turnsLeft, ← List.length_eq_zero_iff]
  cases recorder.workers[worker]?.join with
  | none => simp only [Option.toList_none, List.length_nil, and_true]; omega
  | some value => simp

end Recorder

namespace Recording

open Recorder (Step)

variable {recording following : Recording}

-----------------------------------------------------------------------------------------
-- Turns of the workers
-----------------------------------------------------------------------------------------

/-- A worker has one turn less left after its own turn, and not more after that of another one. -/
theorem Next.turnsLeft_le {moment : Moment} {turn : Nat}
    (next : Next recording (.work moment turn) following) {worker : Nat}
    (employed : worker < recording.recorder.workers.length)
    : following.recorder.turnsLeft worker
      ≤ recording.recorder.turnsLeft worker - if turn = worker then 1 else 0 := by
  cases next with
  | idled nothing =>
      split
      · next own =>
          subst own
          rcases nothing with missing | ⟨idle, empty⟩
          · rw [List.getElem?_eq_none_iff] at missing
            omega
          · rw [Recorder.turnsLeft, idle, empty]
            exact Nat.zero_le _
      · exact Nat.le_refl _
  | took idle waiting =>
      split
      · next own =>
          subst own
          simp only [Recorder.turnsLeft, List.getElem?_set_self employed, idle, waiting,
            Option.join_some, Option.toList_some, Option.toList_none, List.length_cons,
            List.length_nil]
          omega
      · next other =>
          simp only [Recorder.turnsLeft, List.getElem?_set_ne other, waiting, List.length_cons]
          omega
  | handed holds added =>
      split
      · next own =>
          subst own
          simp only [Recorder.turnsLeft, List.getElem?_set_self employed, holds, Option.join_some,
            Option.toList_some, Option.toList_none, List.length_cons, List.length_nil]
          omega
      · next other =>
          rw [Recorder.turnsLeft, List.getElem?_set_ne other]
          exact Nat.le_refl _

theorem Next.workers_length {step : Step} (next : Next recording step following)
    : following.recorder.workers.length = recording.recorder.workers.length := by
  cases next with
  | refused | queued | idled => rfl
  | took | handed => exact List.length_set

/-- Every turn counts, by induction on the turns. -/
theorem turnsLeft_takeTurns_le (recording : Recording) (turns : List (Moment × Nat)) {worker : Nat}
    (employed : worker < recording.recorder.workers.length)
    : (recording.takeTurns turns).recorder.turnsLeft worker
      ≤ recording.recorder.turnsLeft worker - (turns.map Prod.snd).count worker := by
  induction turns generalizing recording with
  | nil => exact Nat.le_refl _
  | cons turn turns ih =>
      have next := recording.next_after (.work turn.1 turn.2)
      have first := next.turnsLeft_le employed
      have rest := ih _ (next.workers_length.symm ▸ employed)
      have both : (recording.takeTurns (turn :: turns)).recorder.turnsLeft worker
          ≤ (recording.after (.work turn.1 turn.2)).recorder.turnsLeft worker
            - (turns.map Prod.snd).count worker := rest
      rw [List.map_cons, List.count_cons]
      simp only [beq_iff_eq]
      omega

theorem workers_length_takeTurns (recording : Recording) (turns : List (Moment × Nat))
    : (recording.takeTurns turns).recorder.workers.length
      = recording.recorder.workers.length :=
  afterAll_invariant
    (motive := fun following =>
      following.recorder.workers.length = recording.recorder.workers.length)
    (fun same next => next.workers_length.trans same) rfl _

/-- The workers drain the recorder, in whatever order they take their turns, if each has two turns
for every value in the queue and one more.
-/
theorem settles_of_turns (staffed : 0 < recording.recorder.workers.length)
    {turns : List (Moment × Nat)}
    (enough
      : ∀ worker < recording.recorder.workers.length,
          2 * recording.recorder.queue.length < (turns.map Prod.snd).count worker)
    : recording.Settles (recording.takeTurns turns) := by
  have spent (worker : Nat) (employed : worker < recording.recorder.workers.length)
      : (recording.takeTurns turns).recorder.turnsLeft worker = 0 := by
    have left := recording.turnsLeft_takeTurns_le turns employed
    have most := recording.recorder.turnsLeft_le worker
    have turned := enough worker employed
    omega
  refine ⟨turns, rfl, ?_⟩
  rw [Recorder.isDrained, Bool.and_eq_true, List.isEmpty_iff, List.all_eq_true]
  constructor
  · have first := spent 0 staffed
    exact (Recorder.turnsLeft_eq_zero_iff.mp first).1
  · intro held member
    obtain ⟨worker, employed, rfl⟩ := List.mem_iff_getElem.mp member
    have last := spent worker (recording.workers_length_takeTurns turns ▸ employed)
    have idle := (Recorder.turnsLeft_eq_zero_iff.mp last).2
    rw [List.getElem?_eq_getElem employed, Option.join_some] at idle
    rw [idle]
    rfl

-----------------------------------------------------------------------------------------
-- The shutdown
-----------------------------------------------------------------------------------------

theorem takeTurns_append (recording : Recording) (turns rest : List (Moment × Nat))
    : recording.takeTurns (turns ++ rest) = (recording.takeTurns turns).takeTurns rest := by
  rw [takeTurns, List.map_append]
  exact List.foldl_append

/-- A recorder whose workers step one after the other goes on as in a recording. -/
theorem foldl_work (recording : Recording) (moment : Moment) (workers : List Nat)
    : workers.foldl (fun (recorder, history) worker => recorder.work history moment worker)
        (recording.recorder, recording.history)
      = ((recording.takeTurns (workers.map (moment, ·))).recorder,
          (recording.takeTurns (workers.map (moment, ·))).history) := by
  induction workers generalizing recording with
  | nil => rfl
  | cons worker workers ih => exact ih (recording.after (.work moment worker))

/-- Rounds are turns, of which every worker has one in each round. -/
theorem exists_rounds (recording : Recording) (moment : Moment) (count : Nat)
    : ∃ turns,
        recording.recorder.rounds recording.history moment count
          = ((recording.takeTurns turns).recorder, (recording.takeTurns turns).history)
        ∧ ∀ worker < recording.recorder.workers.length,
            (turns.map Prod.snd).count worker = count := by
  induction count generalizing recording with
  | zero => exact ⟨[], rfl, fun _ _ => rfl⟩
  | succ count ih =>
      let round := (List.range recording.recorder.workers.length).map (moment, ·)
      obtain ⟨turns, rounds, each⟩ := ih (recording.takeTurns round)
      refine ⟨round ++ turns, ?_, ?_⟩
      · rw [Recorder.rounds, foldl_work, takeTurns_append]
        exact rounds
      · intro worker employed
        rw [workers_length_takeTurns] at each
        have all : round.map Prod.snd = List.range recording.recorder.workers.length := by
          simp [round, Function.comp_def]
        have once : (round.map Prod.snd).count worker = 1 :=
          all ▸ List.count_eq_one_of_mem List.nodup_range (List.mem_range.mpr employed)
        rw [List.map_append, List.count_append, once, each worker employed, Nat.add_comm]

/-- A shutdown settles the recording. -/
theorem exists_shutdown (recording : Recording) (staffed : 0 < recording.recorder.workers.length)
    (moment : Moment)
    : ∃ final,
        recording.Settles final
        ∧ recording.recorder.shutdown recording.history moment
          = (final.recorder.tally, final.history) := by
  obtain ⟨turns, rounds, each⟩ :=
    recording.exists_rounds moment (2 * (recording.recorder.queue.length + 1))
  refine ⟨recording.takeTurns turns, settles_of_turns staffed ?_, ?_⟩
  · intro worker employed
    rw [each worker employed]
    omega
  · rw [Recorder.shutdown, rounds]

-----------------------------------------------------------------------------------------
-- What becomes of the messages
-----------------------------------------------------------------------------------------

/-- A message is lost only to a full queue. -/
theorem full_of_dropped {recorder : Recorder} {message : Message}
    (dropped : (recorder.submit message).1 = .dropped)
    : recorder.capacity ≤ recorder.queue.length := by
  rw [Recorder.submit] at dropped
  split at dropped
  · cases dropped
  · split at dropped
    · cases dropped
    · split at dropped
      · cases dropped
      · next full => exact Nat.le_of_not_lt full

namespace Accounted

variable {filters : Filters} {capacity workers : Nat} {before : History}

/-- A message raises the count of its outcome. -/
theorem tally_submit (accounted : Accounted filters capacity workers before recording)
    (message : Message)
    : (recording.recorder.submit message).2.tally
      = recording.recorder.tally.submitted (recording.recorder.submit message).1 := by
  have following := accounted.next (recording.next_after (.submit message))
  rw [accounted.tally_eq, ← tally_submitted]
  exact following.tally_eq

section

variable (accounted : Accounted filters capacity workers before recording)
    (drained : recording.recorder.isDrained = true)

include accounted drained

/-- When nothing is left, the values that were handed over are those that were queued. -/
theorem handed_perm : recording.handed.Perm recording.queued := by
  have values := accounted.values
  obtain ⟨empty, idle⟩ := Recorder.isDrained_iff.mp drained
  rw [empty, idle, List.append_nil, List.append_nil] at values
  exact values.symm

/-- When nothing is left, every queued value was stored or refused. -/
theorem count_queued : recording.count .queued = recording.stored + recording.refused := by
  have values := (accounted.handed_perm drained).length_eq
  rw [handed, List.length_map, length_handovers, accounted.length_queued] at values
  exact values.symm

end

end Accounted

/-- In every run of a recorder the queue has no more values than its capacity, and the counts are
those of the outcomes that messages and values had. A message raises the count of its outcome, and
it is lost only to a full queue. However the workers go on after the last message, when nothing is
left each value that was queued has been handed to the history once, and every message is in one of
the counts. The workers get there if each takes enough turns, as they do in a shutdown. Witness: the
log accounts for every value after each step, by induction on the steps, and every round of turns
makes what is left less.
-/
theorem submissions_are_accounted_for (filters : Filters) (settings : RecorderSettings)
    (before : History) (steps : List Step) {reached : Recording}
    (reaches : (start filters settings before).afterAll steps = reached)
    : reached.recorder.queue.length ≤ max 1 settings.queueCapacity
      ∧ reached.recorder.tally = reached.tally
      ∧ (∀ message,
          ∃ outcome recorder,
            reached.recorder.submit message = (outcome, recorder)
            ∧ recorder.tally = reached.recorder.tally.submitted outcome
            ∧ (outcome = .dropped
              → reached.recorder.queue.length = max 1 settings.queueCapacity))
      ∧ (∀ final,
          reached.Settles final
          → final.history = before.operateAll final.additions
            ∧ final.handed.Perm reached.queued
            ∧ final.recorder.tally.accepted
              = final.recorder.tally.stored
                + (final.recorder.tally.failed - reached.count .rejected)
            ∧ (steps.filterMap Step.message?).length
              = final.recorder.tally.filtered + final.recorder.tally.dropped
                + final.recorder.tally.stored + final.recorder.tally.failed)
      ∧ (∀ turns,
          (∀ worker < max 1 settings.workers,
            2 * reached.recorder.queue.length < (turns.map Prod.snd).count worker)
          → reached.Settles (reached.takeTurns turns))
      ∧ ∀ moment,
          ∃ final,
            reached.Settles final
            ∧ reached.recorder.shutdown reached.history moment
              = (final.recorder.tally, final.history) := by
  have accounted := (Accounted.start filters settings before).afterAll steps
  have messages := messages_of_start filters settings before steps
  rw [reaches] at accounted messages
  have staffed : 0 < reached.recorder.workers.length := by
    rw [accounted.workers_eq]
    omega
  refine ⟨accounted.bounded, accounted.tally_eq, ?_, ?_, ?_, reached.exists_shutdown staffed⟩
  · intro message
    refine ⟨_, _, rfl, accounted.tally_submit message, fun dropped => ?_⟩
    have full := full_of_dropped dropped
    rw [accounted.capacity_eq] at full
    exact Nat.le_antisymm accounted.bounded full
  · intro final settles
    have settled := settles.accounted accounted
    have submissions := settles.submissions_eq
    have handed := settled.handed_perm settles.isDrained
    have queued := settled.count_queued settles.isDrained
    have rejected : reached.count .rejected = final.count .rejected := by
      rw [count, count, submissions]
    have total := final.length_submissions
    rw [submissions, ← List.length_map Prod.fst, messages] at total
    rw [Recording.queued, submissions] at handed
    refine ⟨settled.history_eq, handed, ?_, ?_⟩
    · simp only [settled.tally_eq, tally, rejected]
      omega
    · simp only [settled.tally_eq, tally]
      omega
  · intro turns enough
    exact settles_of_turns staffed (accounted.workers_eq ▸ enough)

/-- A lamp sends three messages. There is one place in the queue, so that the second one is lost
before a worker takes the first one; the third one has room, but its name is missing.
-/
def lampSubmissions : List Step :=
  [ .submit (.ofLamp "on" .epoch)
  , .submit (.ofLamp "bright" .epoch)
  , .work ⟨.epoch, 0⟩ 1
  , .submit (.ofLamp "" .epoch) ]

/-- Two workers have seen the messages of the lamp. -/
def lampAtWork : Recording :=
  (start {} ⟨1, 2⟩ { store := .empty, keys := toString }).afterAll lampSubmissions

/-- The other worker takes the last message of the lamp, and is done with it first. -/
def lampSettled : Recording :=
  lampAtWork.takeTurns [(⟨.epoch, 0⟩, 0), (⟨.epoch, 0⟩, 0), (⟨.epoch, 0⟩, 1)]

/-- One message of the lamp is stored, one is lost, and one is refused. -/
theorem lamp_submissions_are_accounted_for
    : lampAtWork.Settles lampSettled
      ∧ lampSettled.handed.Perm lampAtWork.queued
      ∧ lampSettled.recorder.tally = { accepted := 2, dropped := 1, stored := 1, failed := 1 } := by
  obtain ⟨_, _, _, settled, _⟩ :=
    @submissions_are_accounted_for {} ⟨1, 2⟩ { store := .empty, keys := toString }
      lampSubmissions lampAtWork rfl
  have settles : lampAtWork.Settles lampSettled := ⟨_, rfl, rfl⟩
  obtain ⟨_, handed, _⟩ := settled lampSettled settles
  exact ⟨settles, handed, rfl⟩

end Recording

end ValueHistory
