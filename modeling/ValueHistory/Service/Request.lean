import ValueHistory.History.Basic

/-! Requests of clients and the responses to them. A client learns of a cursor that it may not use
only that there is none.
-/

namespace ValueHistory

/-- What a client may do with a cursor of its own. -/
inductive CursorCall where
  | first
  | last
  | next
  | prev
  | page (direction : Direction) (bound : Timestamp) (limit : Int)
  | seek (time : Timestamp)
  | release
deriving DecidableEq

/-- A request: for a new cursor, on a cursor, or to read a range of a history in one go. -/
inductive Request where
  | create (thing : String) (name : Option String)
  | onCursor (key : String) (call : CursorCall)
  | read (thing : String) (name : Option String) (start : Timestamp) (seconds limit : Int)
deriving DecidableEq

/-- A response. -/
inductive Response where
  | cursor (key : String)
  | value (value : Option Observation) (valid : Bool)
  | page (page : Page)
  | released
  | error (message : String)

namespace Response

/-- The response with a value that may be missing. -/
def ofValue (value : Option Observation) : Response :=
  .value value value.isSome

/-- What a client is told of a cursor that it may not use. -/
def cursorNotFound : String := "cursor not found"

/-- The response to a request that failed. -/
def ofFailure (failure : Failure) : Response :=
  .error (if failure.isUnknownCursor then cursorNotFound else failure.message)

end Response

namespace History

/-- An answer turned into a response. -/
def respond {α : Type} (outcome : Outcome α) (response : α → Response) : Outcome Response :=
  (outcome.1.map response, outcome.2)

/-- Does what a client asks of a cursor. -/
def call (history : History) (moment : Moment) (client key : String)
    : CursorCall → (view : View := .still) → Outcome Response
  | .first, view => respond (history.first moment client key view) .ofValue
  | .last, view => respond (history.last moment client key view) .ofValue
  | .next, view => respond (history.next moment client key view) .ofValue
  | .prev, view => respond (history.prev moment client key view) .ofValue
  | .page direction bound limit, view =>
    respond (history.page moment client key direction bound limit view) .page
  | .seek time, view => respond (history.seek moment client key time view) .ofValue
  | .release, _ => respond (history.releaseCursor client key) fun _ => .released

/-- Carries out a request. -/
def execute (history : History) (moment : Moment) (client : String)
    : Request → (view : View := .still) → Outcome Response
  | .create thing name, _ => respond (history.createCursor moment client thing name) .cursor
  | .onCursor key call, view => history.call moment client key call view
  | .read thing name start seconds limit, view =>
    respond (history.read moment thing name start seconds limit view) .page

/-- Carries out a request and answers in any case. -/
def dispatch (history : History) (moment : Moment) (client : String) (request : Request)
    (view : View := .still) : Response × History :=
  match history.execute moment client request view with
  | (.ok response, history) => (response, history)
  | (.error failure, history) => (.ofFailure failure, history)

end History

end ValueHistory
