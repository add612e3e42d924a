import Mathlib.Data.List.ReduceOption
import ValueHistory.Proofs.History.LastWrites
import ValueHistory.Service.Recorder

/-! Recordings: runs of a recorder, in which messages are submitted and the workers take their turns
in any order. The log of a recording tells what became of each message and of each value, and the
recorder's counts, its queue and the history are what the log says.
-/

namespace ValueHistory

namespace Tally

/-- The counts after one more message was submitted. -/
def submitted (tally : Tally) : Outcome → Tally
  | .queued => { tally with accepted := tally.accepted + 1 }
  | .filtered => { tally with filtered := tally.filtered + 1 }
  | .rejected => { tally with failed := tally.failed + 1 }
  | .dropped => { tally with dropped := tally.dropped + 1 }

/-- The counts after the history has answered to one more value. -/
def answered (tally : Tally) : Except Failure Unit → Tally
  | .ok () => { tally with stored := tally.stored + 1 }
  | .error _ => { tally with failed := tally.failed + 1 }

end Tally

namespace Recorder

/-- What happens to a recorder: a message is submitted, or it is the turn of a worker. -/
inductive Step where
  | submit (message : Message)
  | work (moment : Moment) (worker : Nat)

/-- The message that a step submits. -/
def Step.message? : Step → Option Message
  | submit message => some message
  | work _ _ => none

/-- The values in the hands of workers. -/
def held (recorder : Recorder) : List Observation :=
  recorder.workers.reduceOption

/-- Nothing is left to store if the queue is empty and no worker holds a value. -/
theorem isDrained_iff {recorder : Recorder}
    : recorder.isDrained = true ↔ recorder.queue = [] ∧ recorder.held = [] := by
  simp [isDrained, held, List.reduceOption]

end Recorder

/-- A value that a worker has handed to the history, and the answer. -/
structure Handover where
  moment : Moment
  value : Observation
  answer : Except Failure Unit

/-- A recorder at work on a history. The log holds the messages with what became of them, and the
values that were handed over, in their order.
-/
structure Recording where
  recorder : Recorder
  history : History
  submissions : List (Message × Outcome) := []
  handovers : List Handover := []

namespace Recording

open Recorder (Step)

/-- A recording in which nothing has happened. -/
def start (filters : Filters) (settings : RecorderSettings) (history : History) : Recording :=
  { recorder := .start filters settings, history }

/-- The recording after a step. A worker that holds a value hands it over. -/
def after (recording : Recording) : Step → Recording
  | .submit message =>
    let (outcome, recorder) := recording.recorder.submit message
    { recording with recorder, submissions := recording.submissions ++ [(message, outcome)] }
  | .work moment worker =>
    let (recorder, history) := recording.recorder.work recording.history moment worker
    let handover? := recording.recorder.workers[worker]?.join.map fun value =>
      { moment, value, answer := (recording.history.add moment value).1 : Handover }
    { recording with
      recorder, history, handovers := recording.handovers ++ handover?.toList }

/-- The recording after steps, one after the other. -/
def afterAll (recording : Recording) (steps : List Step) : Recording :=
  steps.foldl after recording

/-- The recording after workers had their turns, in the given order. -/
def takeTurns (recording : Recording) (turns : List (Moment × Nat)) : Recording :=
  recording.afterAll (turns.map fun turn => .work turn.1 turn.2)

/-- What may be left when the recorder is shut down: no message is submitted any more, and the
workers take turns, in any order, until nothing is left to store.
-/
def Settles (recording final : Recording) : Prop :=
  ∃ turns : List (Moment × Nat),
    recording.takeTurns turns = final ∧ final.recorder.isDrained = true

-----------------------------------------------------------------------------------------
-- What the log tells
-----------------------------------------------------------------------------------------

/-- The value of a message, if it was taken into the queue. -/
def value? (submission : Message × Outcome) : Option Observation :=
  if submission.2 = .queued then submission.1.toObservation.toOption else none

/-- The values that were taken into the queue. -/
def queued (recording : Recording) : List Observation :=
  recording.submissions.filterMap value?

/-- The values that were handed over. -/
def handed (recording : Recording) : List Observation :=
  recording.handovers.map Handover.value

/-- The additions to the history. -/
def additions (recording : Recording) : List (Moment × History.Operation) :=
  recording.handovers.map fun handover => (handover.moment, .event (.add handover.value))

/-- How many messages had an outcome. -/
def count (recording : Recording) (outcome : Outcome) : Nat :=
  (recording.submissions.map Prod.snd).count outcome

/-- How many values were handed over and stored. -/
def stored (recording : Recording) : Nat :=
  recording.handovers.countP fun handover => handover.answer.isOk

/-- How many values were handed over in vain. -/
def refused (recording : Recording) : Nat :=
  recording.handovers.countP fun handover => !handover.answer.isOk

/-- The counts that the log tells. -/
def tally (recording : Recording) : Tally :=
  { accepted := recording.count .queued
    filtered := recording.count .filtered
    dropped := recording.count .dropped
    stored := recording.stored
    failed := recording.count .rejected + recording.refused }

-----------------------------------------------------------------------------------------
-- What a step may do
-----------------------------------------------------------------------------------------

/-- What a step may do to a recording. -/
inductive Next (recording : Recording) : Step → Recording → Prop where
  | refused {message : Message} {outcome : Outcome} (refused : outcome ≠ .queued)
    : Next recording (.submit message)
        { recording with
          recorder :=
            { recording.recorder with tally := recording.recorder.tally.submitted outcome }
          submissions := recording.submissions ++ [(message, outcome)] }
  | queued {message : Message} {value : Observation}
      (passes : recording.recorder.filters.passes message = true)
      (told : message.toObservation = .ok value)
      (room : recording.recorder.queue.length < recording.recorder.capacity)
    : Next recording (.submit message)
        { recording with
          recorder :=
            { recording.recorder with
              queue := recording.recorder.queue ++ [value]
              tally := recording.recorder.tally.submitted .queued }
          submissions := recording.submissions ++ [(message, .queued)] }
  | idled {moment : Moment} {worker : Nat}
      (nothing
        : recording.recorder.workers[worker]? = none
          ∨ recording.recorder.workers[worker]? = some none ∧ recording.recorder.queue = [])
    : Next recording (.work moment worker) recording
  | took {moment : Moment} {worker : Nat} {value : Observation} {queue : List Observation}
      (idle : recording.recorder.workers[worker]? = some none)
      (waiting : recording.recorder.queue = value :: queue)
    : Next recording (.work moment worker)
        { recording with
          recorder :=
            { recording.recorder with
              queue
              workers := recording.recorder.workers.set worker (some value) } }
  | handed {moment : Moment} {worker : Nat} {value : Observation}
      {answer : Except Failure Unit} {history : History}
      (holds : recording.recorder.workers[worker]? = some (some value))
      (added : recording.history.add moment value = (answer, history))
    : Next recording (.work moment worker)
        { recording with
          recorder :=
            { recording.recorder with
              workers := recording.recorder.workers.set worker none
              tally := recording.recorder.tally.answered answer }
          history
          handovers := recording.handovers ++ [⟨moment, value, answer⟩] }

theorem next_after (recording : Recording) (step : Step)
    : Next recording step (recording.after step) := by
  cases step with
  | submit message =>
      cases passes : recording.recorder.filters.passes message with
      | false =>
          simp only [after, Recorder.submit, passes]
          exact .refused (nofun : Outcome.filtered ≠ .queued)
      | true =>
          cases told : message.toObservation with
          | error rejection =>
              simp only [after, Recorder.submit, passes, told]
              exact .refused (nofun : Outcome.rejected ≠ .queued)
          | ok value =>
              by_cases room : recording.recorder.queue.length < recording.recorder.capacity
              · simp only [after, Recorder.submit, passes, told, if_pos room]
                exact .queued passes told room
              · simp only [after, Recorder.submit, passes, told, if_neg room]
                exact .refused (nofun : Outcome.dropped ≠ .queued)
  | work moment worker =>
      cases holds : recording.recorder.workers[worker]? with
      | none =>
          simp only [after, Recorder.work, holds, Option.join_none, Option.map_none,
            Option.toList_none, List.append_nil]
          exact .idled (.inl holds)
      | some held =>
          cases held with
          | none =>
              cases waiting : recording.recorder.queue with
              | nil =>
                  simp only [after, Recorder.work, holds, waiting, Option.join_some,
                    Option.map_none, Option.toList_none, List.append_nil]
                  exact .idled (.inr ⟨holds, waiting⟩)
              | cons value queue =>
                  simp only [after, Recorder.work, holds, waiting, Option.join_some,
                    Option.map_none, Option.toList_none, List.append_nil]
                  exact .took holds waiting
          | some value =>
              rcases added : recording.history.add moment value with ⟨failure | _, history⟩ <;>
              · simp only [after, Recorder.work, holds, added, Option.join_some, Option.map_some,
                  Option.toList_some]
                exact .handed holds added

/-- What no step takes away holds after every run, by induction on the steps. -/
theorem afterAll_invariant {motive : Recording → Prop}
    (kept
      : ∀ {recording step following},
          motive recording → Next recording step following → motive following)
    {recording : Recording} (holds : motive recording) (steps : List Step)
    : motive (recording.afterAll steps) := by
  induction steps generalizing recording with
  | nil => exact holds
  | cons step steps ih => exact ih (kept holds (recording.next_after step))

-----------------------------------------------------------------------------------------
-- What the log tells of a step
-----------------------------------------------------------------------------------------

section

variable {recording : Recording} {recorder : Recorder} {history : History} {message : Message}

theorem value?_of_ne {outcome : Outcome} (refused : outcome ≠ .queued)
    : value? (message, outcome) = none :=
  if_neg refused

theorem value?_of_told {value : Observation} (told : message.toObservation = .ok value)
    : value? (message, .queued) = some value := by
  rw [value?, if_pos rfl, told, Except.toOption]

/-- The queued values are those of the messages that were queued. -/
theorem mem_queued_iff {value : Observation}
    : value ∈ recording.queued
      ↔ ∃ message,
          (message, .queued) ∈ recording.submissions ∧ message.toObservation = .ok value := by
  rw [queued, List.mem_filterMap]
  constructor
  · rintro ⟨⟨message, outcome⟩, submitted, told⟩
    by_cases queued : outcome = .queued
    · subst queued
      refine ⟨message, submitted, ?_⟩
      cases observed : message.toObservation with
      | error rejection => simp [value?, observed, Except.toOption] at told
      | ok own =>
          rw [value?_of_told observed, Option.some.injEq] at told
          rw [told]
    · rw [value?_of_ne queued] at told
      cases told
  · rintro ⟨message, submitted, told⟩
    exact ⟨_, submitted, value?_of_told told⟩

theorem queued_refused {outcome : Outcome} (refused : outcome ≠ .queued)
    : queued { recording with
        recorder, submissions := recording.submissions ++ [(message, outcome)] }
      = recording.queued := by
  simp [queued, List.filterMap_append, value?_of_ne refused]

theorem queued_queued {value : Observation} (told : message.toObservation = .ok value)
    : queued { recording with
        recorder, submissions := recording.submissions ++ [(message, .queued)] }
      = recording.queued ++ [value] := by
  simp [queued, List.filterMap_append, value?_of_told told]

theorem tally_submitted (outcome : Outcome)
    : tally { recording with
        recorder, submissions := recording.submissions ++ [(message, outcome)] }
      = recording.tally.submitted outcome := by
  cases outcome <;> simp [tally, count, stored, refused, Tally.submitted, Nat.add_right_comm]

theorem tally_answered (moment : Moment) (value : Observation) (answer : Except Failure Unit)
    : tally { recording with
        recorder, history, handovers := recording.handovers ++ [⟨moment, value, answer⟩] }
      = recording.tally.answered answer := by
  cases answer <;>
    simp [tally, count, stored, refused, Tally.answered, Except.isOk, Except.toBool, Nat.add_assoc]

end

/-- Exchanging what is in one place of a list exchanges it in what the list holds. -/
theorem reduceOption_set_perm {α : Type} {list : List (Option α)} {place : Nat} {old : Option α}
    (found : list[place]? = some old) (new : Option α)
    : (old.toList ++ (list.set place new).reduceOption).Perm (new.toList ++ list.reduceOption) := by
  have split (head : Option α) (rest : List (Option α))
      : (head :: rest).reduceOption = head.toList ++ rest.reduceOption := by
    cases head <;> rfl
  induction list generalizing place with
  | nil => cases found
  | cons head rest ih =>
      cases place with
      | zero =>
          cases found
          rw [List.set_cons_zero, split, split]
          exact List.perm_append_comm_assoc ..
      | succ place =>
          rw [List.set_cons_succ, split, split]
          calc
            List.Perm (old.toList ++ (head.toList ++ (rest.set place new).reduceOption))
                (head.toList ++ (old.toList ++ (rest.set place new).reduceOption)) :=
              List.perm_append_comm_assoc ..
            List.Perm _ (head.toList ++ (new.toList ++ rest.reduceOption)) :=
              (ih found).append_left _
            List.Perm _ (new.toList ++ (head.toList ++ rest.reduceOption)) :=
              List.perm_append_comm_assoc ..

-----------------------------------------------------------------------------------------
-- What runs preserve
-----------------------------------------------------------------------------------------

/-- What holds of a recording with filters, a capacity and a number of workers that was started on
a history.
-/
structure Accounted (filters : Filters) (capacity workers : Nat) (before : History)
    (recording : Recording) : Prop where
  filters_eq : recording.recorder.filters = filters
  capacity_eq : recording.recorder.capacity = capacity
  workers_eq : recording.recorder.workers.length = workers
  bounded : recording.recorder.queue.length ≤ capacity
  passed
    : ∀ message,
        (message, .queued) ∈ recording.submissions
        → filters.passes message = true ∧ ∃ value, message.toObservation = .ok value
  tally_eq : recording.recorder.tally = recording.tally
  values
    : recording.queued.Perm
        (recording.handed ++ (recording.recorder.held ++ recording.recorder.queue))
  history_eq : recording.history = before.operateAll recording.additions

namespace Accounted

variable {filters : Filters} {capacity workers : Nat} {before : History} {recording : Recording}

theorem start (filters : Filters) (settings : RecorderSettings) (before : History)
    : Accounted filters (max 1 settings.queueCapacity) (max 1 settings.workers) before
        (.start filters settings before) := by
  have idle : (Recorder.start filters settings).held = [] := by
    simp [Recorder.held, Recorder.start, List.reduceOption]
  exact
    { filters_eq := rfl
      capacity_eq := rfl
      workers_eq := List.length_replicate
      bounded := Nat.zero_le _
      passed := fun _ member => absurd member List.not_mem_nil
      tally_eq := rfl
      values := by
        rw [Recording.start, idle]
        exact .nil
      history_eq := rfl }

theorem next (accounted : Accounted filters capacity workers before recording) {step : Step}
    {following : Recording} (next : Next recording step following)
    : Accounted filters capacity workers before following := by
  cases next with
  | idled => exact accounted
  | @refused message outcome refused =>
      exact
        { accounted with
          passed := by
            intro other member
            rcases List.mem_append.mp member with earlier | last
            · exact accounted.passed other earlier
            · cases List.mem_singleton.mp last
              exact absurd rfl refused
          tally_eq := by rw [tally_submitted, ← accounted.tally_eq]
          values := by
            rw [queued_refused refused]
            exact accounted.values }
  | @queued message value passes told room =>
      exact
        { accounted with
          bounded := by
            rw [List.length_append, List.length_singleton]
            exact accounted.capacity_eq ▸ room
          passed := by
            intro other member
            rcases List.mem_append.mp member with earlier | last
            · exact accounted.passed other earlier
            · cases List.mem_singleton.mp last
              exact ⟨accounted.filters_eq ▸ passes, value, told⟩
          tally_eq := by rw [tally_submitted, ← accounted.tally_eq]
          values := by
            rw [queued_queued told, handed, ← List.append_assoc, ← List.append_assoc]
            refine .append_right _ ?_
            rw [List.append_assoc]
            exact accounted.values }
  | @took moment worker value queue idle waiting =>
      have shorter : queue.length ≤ capacity := by
        have bounded := accounted.bounded
        rw [waiting, List.length_cons] at bounded
        exact Nat.le_of_succ_le bounded
      have taken := reduceOption_set_perm idle (some value)
      exact
        { accounted with
          workers_eq := by rw [List.length_set, accounted.workers_eq]
          bounded := shorter
          values := by
            have values := accounted.values
            rw [waiting] at values
            refine values.trans (.append_left _ ?_)
            exact List.perm_middle.trans (taken.symm.append_right queue) }
  | @handed moment worker value answer history holds added =>
      have given := reduceOption_set_perm holds none
      exact
        { accounted with
          workers_eq := by rw [List.length_set, accounted.workers_eq]
          tally_eq := by rw [tally_answered, ← accounted.tally_eq]
          values := by
            rw [handed, List.map_append, List.append_assoc]
            refine accounted.values.trans (.append_left _ ?_)
            exact given.symm.append_right _
          history_eq := by
            rw [additions, List.map_append, History.operateAll, List.foldl_append]
            have same := accounted.history_eq
            rw [History.operateAll, additions] at same
            rw [← same]
            exact (congrArg Prod.snd added).symm }

theorem afterAll (accounted : Accounted filters capacity workers before recording)
    (steps : List Step)
    : Accounted filters capacity workers before (recording.afterAll steps) :=
  afterAll_invariant (fun accounted step => accounted.next step) accounted steps

/-- The log tells as many values in the queue as there are messages with that outcome. -/
theorem length_queued (accounted : Accounted filters capacity workers before recording)
    : recording.queued.length = recording.count .queued := by
  have passed := accounted.passed
  rw [queued, count]
  generalize recording.submissions = submissions at passed
  induction submissions with
  | nil => rfl
  | cons submission submissions ih =>
      have rest := ih fun message member => passed message (List.mem_cons_of_mem _ member)
      rcases submission with ⟨message, outcome⟩
      by_cases queued : outcome = .queued
      · subst queued
        obtain ⟨_, value, told⟩ := passed message List.mem_cons_self
        simp [value?_of_told told, rest]
      · simp [value?_of_ne queued, queued, rest]

end Accounted

/-- Every message has one outcome. -/
theorem length_submissions (recording : Recording)
    : recording.submissions.length
      = recording.count .queued + recording.count .filtered + recording.count .rejected
        + recording.count .dropped := by
  rw [count, count, count, count, ← List.length_map Prod.snd]
  induction recording.submissions.map Prod.snd with
  | nil => rfl
  | cons outcome outcomes ih =>
      rw [List.length_cons, ih]
      cases outcome <;> simp <;> omega

/-- Every value that was handed over was stored or refused. -/
theorem length_handovers (recording : Recording)
    : recording.handovers.length = recording.stored + recording.refused := by
  rw [stored, refused]
  simpa using List.length_eq_countP_add_countP fun handover : Handover => handover.answer.isOk

/-- The messages that were submitted are those of the steps. -/
theorem messages_afterAll (recording : Recording) (steps : List Step)
    : (recording.afterAll steps).submissions.map Prod.fst
      = recording.submissions.map Prod.fst ++ steps.filterMap Step.message? := by
  induction steps generalizing recording with
  | nil => rw [List.filterMap_nil, List.append_nil, Recording.afterAll, List.foldl_nil]
  | cons step steps ih =>
      have following := ih (recording.after step)
      cases step with
      | submit message =>
          simpa [Recording.afterAll, Recording.after, Step.message?] using following
      | work moment worker => exact following

theorem messages_of_start (filters : Filters) (settings : RecorderSettings) (history : History)
    (steps : List Step)
    : ((start filters settings history).afterAll steps).submissions.map Prod.fst
      = steps.filterMap Step.message? :=
  (start filters settings history).messages_afterAll steps

/-- Workers submit nothing. -/
theorem submissions_takeTurns (recording : Recording) (turns : List (Moment × Nat))
    : (recording.takeTurns turns).submissions = recording.submissions := by
  induction turns generalizing recording with
  | nil => rfl
  | cons turn turns ih => exact ih (recording.after (.work turn.1 turn.2))

namespace Settles

variable {filters : Filters} {capacity workers : Nat} {before : History}
    {recording final : Recording}

theorem isDrained (settles : recording.Settles final) : final.recorder.isDrained = true := by
  obtain ⟨_, _, drained⟩ := settles
  exact drained

theorem submissions_eq (settles : recording.Settles final)
    : final.submissions = recording.submissions := by
  obtain ⟨turns, rfl, _⟩ := settles
  exact recording.submissions_takeTurns turns

theorem accounted (settles : recording.Settles final)
    (accounted : Accounted filters capacity workers before recording)
    : Accounted filters capacity workers before final := by
  obtain ⟨turns, rfl, _⟩ := settles
  exact accounted.afterAll _

end Settles

end Recording

/-- A lamp tells that a property of it was set at a time. -/
def Message.ofLamp (name : String) (time : Timestamp) : Message :=
  { kind := .notification, thing := "lamp", name, affordanceName := "Property", sender := "switch"
    time := some time, data := .bool true }

end ValueHistory
