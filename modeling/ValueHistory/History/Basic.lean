import ValueHistory.Registry
import ValueHistory.Store.Basic

/-! The history of Things: values are added to a store, read through leased cursors or in one go,
and counted. Every operation answers with a value or a failure and leaves a history behind.
-/

namespace ValueHistory

/-- A reading of the clocks: the time of day, and the nanoseconds that leases go by. -/
structure Moment where
  now : Timestamp
  ticks : Nat

/-- What an operation sees of the buckets while values are added in the course of it: what stands,
in its first and in its second reading, for the look-up of a Thing at the beginning.
-/
structure View where
  first : String → Lookup → Lookup := fun _ lookup => lookup
  second : String → Lookup → Lookup := fun _ lookup => lookup

/-- The view of an operation in the course of which nothing is added. -/
def View.still : View := {}

@[simp]
theorem View.first_still (thing : String) (lookup : Lookup)
    : View.still.first thing lookup = lookup := rfl

@[simp]
theorem View.second_still (thing : String) (lookup : Lookup)
    : View.still.second thing lookup = lookup := rfl

/-- One minute, the time a cursor is kept without use where nobody sets another. -/
def defaultLifespan : Nat := 60000000000

/-- A store with the registry of its cursors. The keys are what cursors will be called, one after
the other; `issued` counts those given out.
-/
structure History where
  store : Store
  registry : Registry := .empty
  lifespan : Nat := defaultLifespan
  defaultLimit : Nat := defaultPageLimit
  keys : Nat → String
  issued : Nat := 0

namespace History

/-- The answer of an operation and the history after it. -/
abbrev Outcome (α : Type) := Except Failure α × History

-----------------------------------------------------------------------------------------
-- Settings of a history
-----------------------------------------------------------------------------------------

/-- The history with another time to live for its cursors to come. -/
def withLifespan (history : History) (lifespan : Nat) : History :=
  { history with lifespan }

/-- The history with another default number of values of a page, one at least. -/
def withDefaultLimit (history : History) (limit : Nat) : History :=
  { history with defaultLimit := max 1 limit }

-----------------------------------------------------------------------------------------
-- Adding and counting
-----------------------------------------------------------------------------------------

/-- Opens a bucket and goes on with the store after it. -/
def opening {α : Type} (history : History) (thing : String) (next : History → Outcome α)
    : Outcome α :=
  match history.store.openBucket thing with
  | .error failure => (.error (.store failure), history)
  | .ok store => next { history with store }

/-- Adds an entry as it is, or replaces the one with its key. -/
def put (history : History) (thing : String) (entry : Entry) : Outcome Unit :=
  history.opening thing fun history =>
    match history.store.set thing entry.1 entry.2 with
    | .error failure => (.error (.store failure), history)
    | .ok store => (.ok (), { history with store })

/-- Adds a value, if it is valid. -/
def add (history : History) (moment : Moment) (value : Observation) : Outcome Unit :=
  match value.check moment.now with
  | .error rejection => (.error (.invalid rejection), history)
  | .ok value =>
    match value.encode with
    | .error rejection => (.error (.invalid rejection), history)
    | .ok entry => history.put value.thing entry

/-- The number of entries of a Thing. -/
def count (history : History) (thing : String) : Outcome Nat :=
  history.opening thing fun history =>
    match history.store.size thing with
    | .error failure => (.error (.store failure), history)
    | .ok size => (.ok size, history)

-----------------------------------------------------------------------------------------
-- Leased cursors
-----------------------------------------------------------------------------------------

/-- Leases a fresh cursor to a client, and answers its key. -/
def createCursor (history : History) (moment : Moment) (client thing : String)
    (name : Option String) : Outcome String :=
  history.opening thing fun history =>
    let key := history.keys history.issued
    let registry :=
      history.registry.add client key (.opened thing name) history.lifespan moment.ticks
    (.ok key, { history with registry, issued := history.issued + 1 })

/-- Ends the lease of a cursor. -/
def releaseCursor (history : History) (client key : String) : Outcome Unit :=
  let (answer, registry) := history.registry.release client key
  (answer, { history with registry })

/-- Uses a client's cursor, which renews its lease. -/
def withCursor {α : Type} (history : History) (moment : Moment) (client key : String)
    (use : Cursor → Lookup → α × Cursor) (view : View := .still) : Outcome α :=
  let (found, registry) := history.registry.get client key true moment.ticks
  let history := { history with registry }
  match found with
  | .error failure => (.error failure, history)
  | .ok lease =>
    match history.store.lookup lease.cursor.selection.thing with
    | .error failure => (.error (.store failure), history)
    | .ok lookup =>
      let seen := view.first lease.cursor.selection.thing lookup
      let (answer, cursor) := use lease.cursor seen
      (.ok answer, { history with registry := registry.keep key lease cursor })

/-- The first value of a cursor. -/
def first (history : History) (moment : Moment) (client key : String)
    (view : View := .still) : Outcome (Option Observation) :=
  history.withCursor moment client key (fun cursor lookup => cursor.first lookup moment.now) view

/-- The last value of a cursor. -/
def last (history : History) (moment : Moment) (client key : String)
    (view : View := .still) : Outcome (Option Observation) :=
  history.withCursor moment client key (fun cursor lookup => cursor.last lookup) view

/-- The next value of a cursor. -/
def next (history : History) (moment : Moment) (client key : String)
    (view : View := .still) : Outcome (Option Observation) :=
  history.withCursor moment client key (fun cursor lookup => cursor.next lookup moment.now) view

/-- The value before the one a cursor stands at. -/
def prev (history : History) (moment : Moment) (client key : String)
    (view : View := .still) : Outcome (Option Observation) :=
  history.withCursor moment client key (fun cursor lookup => cursor.prev lookup) view

/-- The first value of a cursor from a time on. -/
def seek (history : History) (moment : Moment) (client key : String) (time : Timestamp)
    (view : View := .still) : Outcome (Option Observation) :=
  history.withCursor moment client key
    (fun cursor lookup => cursor.seek lookup moment.now time) view

/-- A page of a cursor's values in a direction up to a time. -/
def page (history : History) (moment : Moment) (client key : String) (direction : Direction)
    (bound : Timestamp) (limit : Int) (view : View := .still) : Outcome Page :=
  history.withCursor moment client key
    (fun cursor lookup =>
      cursor.page lookup direction bound (effectiveLimit limit history.defaultLimit))
    view

-----------------------------------------------------------------------------------------
-- Reading in one go
-----------------------------------------------------------------------------------------

/-- Reads a Thing's values from a time on for a number of seconds, or back in time where the
number is not positive, without a lease.
-/
def read (history : History) (moment : Moment) (thing : String) (name : Option String)
    (start : Timestamp) (seconds limit : Int) (view : View := .still) : Outcome Page :=
  history.opening thing fun history =>
    match history.store.lookup thing with
    | .error failure => (.error (.store failure), history)
    | .ok lookup =>
      let direction := if 0 < seconds then Direction.forward else .backward
      let page :=
        (Cursor.opened thing name).readRange (view.first thing lookup) moment.now start
          (start.addSeconds seconds) direction (effectiveLimit limit history.defaultLimit)
          (view.second thing lookup)
      (.ok page, history)

/-- Removes the expired leases, and counts them. -/
def sweep (history : History) (moment : Moment) : Nat × History :=
  let (count, registry) := history.registry.sweep moment.ticks
  (count, { history with registry })

end History

end ValueHistory
