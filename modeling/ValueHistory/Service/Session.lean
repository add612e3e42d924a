import ValueHistory.Service.Recorder
import ValueHistory.Text.Blank
import ValueHistory.Wire.Envelope

/-! Sessions: a client's lines are answered one by one. Queries get the response to their request,
messages go to the recorder without an answer, and lines that are neither get an error. The workers
of the recorder go on meanwhile, also in the course of a query.
-/

namespace ValueHistory

/-- What a session works on. -/
structure Session where
  history : History
  recorder : Recorder

namespace Session

-----------------------------------------------------------------------------------------
-- Workers go on
-----------------------------------------------------------------------------------------

/-- How many steps of workers come before each look-up of a reading, by the bound that is asked for,
and before its end. No reading asks for the same bound twice.
-/
structure Pace where
  ends : Nat := 0
  ceiling : Bound Bytes → Nat := fun _ => 0
  floor : Bound Bytes → Nat := fun _ => 0
  ceiling_le : ∀ bound, ceiling bound ≤ ends := by simp
  floor_le : ∀ bound, floor bound ≤ ends := by simp

/-- The pace of a reading that ends before the first step. -/
def Pace.ahead : Pace := {}

/-- What goes on from the beginning of a line to the next one: the steps of workers, each with its
moment, and the pace of the first and the second reading of a request among them.
-/
structure Meanwhile where
  steps : List (Moment × Nat) := []
  first : Pace := .ahead
  second : Pace := .ahead

/-- Steps of workers, one after the other. -/
def work (session : Session) (steps : List (Moment × Nat)) : Session :=
  steps.foldl
    (fun session (moment, worker) =>
      let (recorder, history) := session.recorder.work session.history moment worker
      { history, recorder })
    session

/-- What a reading sees of a bucket in the course of steps of workers. The size of the bucket, which
limits how long its scans may go on, is the one in the end.
-/
def seen (session : Session) (steps : List (Moment × Nat)) (pace : Pace) (thing : String)
    (lookup : Lookup) : Lookup :=
  let after (count : Nat) : Lookup :=
    ((session.work (steps.take count)).history.store.lookup thing).toOption.getD lookup
  { ceiling := fun bound => (after (pace.ceiling bound)).ceiling bound
    floor := fun bound => (after (pace.floor bound)).floor bound
    size := (after pace.ends).size }

/-- What a request sees of the buckets. -/
def view (session : Session) (meanwhile : Meanwhile) : View :=
  { first := session.seen meanwhile.steps meanwhile.first
    second := session.seen meanwhile.steps meanwhile.second }

-----------------------------------------------------------------------------------------
-- Lines are answered
-----------------------------------------------------------------------------------------

variable (complaint : List Char → String)

/-- The response to a line that is no envelope. What the JSON library says of a text that is no
document is passed in.
-/
def malformed (text : List Char) (cause : Malformed) : Response :=
  .error ("malformed request: " ++ cause.message (complaint text))

/-- Treats one line, and answers it where an answer is due. -/
def line (session : Session) (moment : Moment) (text : String) (view : View := .still)
    : Option Response × Session :=
  let text := Text.trim text.toList
  if text.isEmpty then (none, session)
  else match Envelope.read text with
    | .error cause => (some (malformed complaint text cause), session)
    | .ok (.query client request) =>
      let (response, history) := session.history.dispatch moment client request view
      (some response, { session with history })
    | .ok (.publish message) =>
      (none, { session with recorder := (session.recorder.submit message).2 })

/-- Treats lines until one is not text in UTF-8, and tells whether there was one. The clock, and
what goes on meanwhile, depend on the number of the line.
-/
def run (clock : Nat → Moment) (schedule : Nat → Meanwhile) (number : Nat) (session : Session)
    : List Bytes → List Response × Bool × Session
  | [] => ([], true, session)
  | bytes :: rest =>
    match bytes.toString? with
    | none => ([], false, session)
    | some text =>
      let (response, left) :=
        session.line complaint (clock number) text (session.view (schedule number))
      let (responses, complete, session) :=
        run clock schedule (number + 1) (left.work (schedule number).steps) rest
      (response.toList ++ responses, complete, session)

/-- The lines of an input; what follows the last line feed is a line if it is not empty. -/
def lines : Bytes → List Bytes
  | [] => []
  | byte :: rest =>
    if byte = 10 then [] :: lines rest
    else match lines rest with
      | [] => [[byte]]
      | line :: later => (byte :: line) :: later

end Session

end ValueHistory
