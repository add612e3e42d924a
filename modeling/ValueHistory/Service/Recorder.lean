import ValueHistory.History.Basic
import ValueHistory.Service.Filter

/-! The recorder: messages that pass the filters wait in a queue of bounded length, from which
workers take them one by one and add them to the history. It counts what becomes of each.
-/

namespace ValueHistory

/-- What became of a submitted message. -/
inductive Outcome where
  | queued
  | filtered
  | rejected
  | dropped
deriving DecidableEq, Repr

/-- Counts of messages: taken into the queue, kept out by a filter, lost to a full queue, stored,
and failed before the queue or after it.
-/
structure Tally where
  accepted : Nat := 0
  filtered : Nat := 0
  dropped : Nat := 0
  stored : Nat := 0
  failed : Nat := 0
deriving DecidableEq, Repr

/-- The greatest length of the queue, and the number of workers. -/
structure RecorderSettings where
  queueCapacity : Nat := 1024
  workers : Nat := 2
deriving DecidableEq, Repr

/-- A recorder: its filters, its queue with the oldest observation first, what each worker holds,
and its counts.
-/
structure Recorder where
  filters : Filters
  capacity : Nat
  queue : List Observation := []
  workers : List (Option Observation)
  tally : Tally := {}

namespace Recorder

-----------------------------------------------------------------------------------------
-- Submitting never waits
-----------------------------------------------------------------------------------------

/-- A recorder with an empty queue of at least one place and at least one idle worker. -/
def start (filters : Filters) (settings : RecorderSettings) : Recorder :=
  { filters, capacity := max 1 settings.queueCapacity
    workers := List.replicate (max 1 settings.workers) none }

/-- The greatest number of places that a queue can have, an eighth of all numbers of 64 bits. -/
def maxPlaces : Nat := 18446744073709551615 / 8

/-- Starts a recorder, unless its queue would need more places than it can have. -/
def start? (filters : Filters) (settings : RecorderSettings) : Option Recorder :=
  let recorder := start filters settings
  if recorder.capacity ≤ maxPlaces then some recorder else none

/-- Submits a message. -/
def submit (recorder : Recorder) (message : Message) : Outcome × Recorder :=
  let tally := recorder.tally
  if !recorder.filters.passes message then
    (.filtered, { recorder with tally := { tally with filtered := tally.filtered + 1 } })
  else match message.toObservation with
    | .error _ => (.rejected, { recorder with tally := { tally with failed := tally.failed + 1 } })
    | .ok value =>
      if recorder.queue.length < recorder.capacity then
        (.queued,
          { recorder with
            queue := recorder.queue ++ [value]
            tally := { tally with accepted := tally.accepted + 1 } })
      else (.dropped, { recorder with tally := { tally with dropped := tally.dropped + 1 } })

/-- Submits messages one after the other. -/
def submitAll (recorder : Recorder) : List Message → List Outcome × Recorder
  | [] => ([], recorder)
  | message :: rest =>
    let (outcome, recorder) := recorder.submit message
    let (outcomes, recorder) := submitAll recorder rest
    (outcome :: outcomes, recorder)

-----------------------------------------------------------------------------------------
-- Workers empty the queue
-----------------------------------------------------------------------------------------

/-- A worker's step: an idle one takes the oldest observation of the queue, one that holds an
observation finishes adding it to the history. A step that is not possible changes nothing.
-/
def work (recorder : Recorder) (history : History) (moment : Moment) (worker : Nat)
    : Recorder × History :=
  let tally := recorder.tally
  match recorder.workers[worker]? with
  | none => (recorder, history)
  | some none =>
    match recorder.queue with
    | [] => (recorder, history)
    | value :: queue =>
      ({ recorder with queue, workers := recorder.workers.set worker (some value) }, history)
  | some (some value) =>
    let recorder := { recorder with workers := recorder.workers.set worker none }
    match history.add moment value with
    | (.ok (), history) =>
      ({ recorder with tally := { tally with stored := tally.stored + 1 } }, history)
    | (.error _, history) =>
      ({ recorder with tally := { tally with failed := tally.failed + 1 } }, history)

/-- Whether nothing is left to store. -/
def isDrained (recorder : Recorder) : Bool :=
  recorder.queue.isEmpty && recorder.workers.all Option.isNone

/-- Lets the workers step in turn for a number of rounds. -/
def rounds (recorder : Recorder) (history : History) (moment : Moment) : Nat → Recorder × History
  | 0 => (recorder, history)
  | count + 1 =>
    let (recorder, history) :=
      (List.range recorder.workers.length).foldl
        (fun (recorder, history) worker => recorder.work history moment worker)
        (recorder, history)
    rounds recorder history moment count

/-- Shuts the recorder down: the workers finish all that waits. In two rounds every worker gets
rid of what it holds and of one observation of the queue, so as many pairs of rounds as there are
observations are enough, and one more.
-/
def shutdown (recorder : Recorder) (history : History) (moment : Moment) : Tally × History :=
  let (recorder, history) :=
    recorder.rounds history moment (2 * (recorder.queue.length + 1))
  (recorder.tally, history)

end Recorder

end ValueHistory
