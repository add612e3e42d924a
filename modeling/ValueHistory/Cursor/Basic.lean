import ValueHistory.Cursor.Scan

/-! Cursors on the history of a Thing: the moves to the first and last value, to a time, and to
the neighbours, and pages of values up to a time. Moves forward are bounded by the present, moves
backward by 1970.
-/

namespace ValueHistory

/-- The number of values of a page where nobody sets one. -/
def defaultPageLimit : Nat := 1000

/-- The number of values that a request for a page means: the default one unless it is positive. -/
def effectiveLimit (limit : Int) (default : Nat) : Nat :=
  if limit ≤ 0 then default else limit.toNat

/-- A cursor: what it selects and where it stands. -/
structure Cursor where
  selection : Selection
  position : Position := .unplaced
deriving DecidableEq, Repr

namespace Cursor

/-- A fresh cursor on a Thing's values, or on those with one name. -/
def opened (thing : String) (name : Option String) : Cursor :=
  { selection := .of thing name }

/-- The cursor at another position, with the answer that led there. -/
def place {α : Type} (cursor : Cursor) (answer : α × Position) : α × Cursor :=
  (answer.1, { cursor with position := answer.2 })

/-- A move over the entries as they are stored. -/
def move (cursor : Cursor) (lookup : Lookup) (move : Move) : Option Entry × Cursor :=
  cursor.place (cursor.position.move lookup move)

/-- A move, and from the entry it finds on to the first value within the bound. -/
def moveAndSettle (cursor : Cursor) (lookup : Lookup) (move : Move) (direction : Direction)
    (bound : Timestamp) : Option Observation × Cursor :=
  cursor.place
    (Scan.settle cursor.selection lookup direction bound.millis (cursor.position.move lookup move))

/-- The first value. -/
def first (cursor : Cursor) (lookup : Lookup) (now : Timestamp) : Option Observation × Cursor :=
  cursor.moveAndSettle lookup .first .forward now

/-- The last value. -/
def last (cursor : Cursor) (lookup : Lookup) : Option Observation × Cursor :=
  cursor.moveAndSettle lookup .last .backward .epoch

/-- The first value from a time on. -/
def seek (cursor : Cursor) (lookup : Lookup) (now time : Timestamp)
    : Option Observation × Cursor :=
  cursor.moveAndSettle lookup (.seek (Key.ofTime time)) .forward now

/-- The next value up to the present. -/
def next (cursor : Cursor) (lookup : Lookup) (now : Timestamp) : Option Observation × Cursor :=
  cursor.place (Scan.run cursor.selection lookup .forward now.millis cursor.position)

/-- The value before. -/
def prev (cursor : Cursor) (lookup : Lookup) : Option Observation × Cursor :=
  cursor.place
    (Scan.run cursor.selection lookup .backward Timestamp.epoch.millis cursor.position)

/-- A page of values in a direction up to a time; the limit zero means the default one. -/
def page (cursor : Cursor) (lookup : Lookup) (direction : Direction) (bound : Timestamp)
    (limit : Nat) : Page × Cursor :=
  cursor.place
    (Scan.page cursor.selection lookup direction bound.millis
      (if limit = 0 then defaultPageLimit else limit) cursor.position)

/-- The value at or after a time, and the page that follows it up to another time, later or
earlier. The bucket may have become another one by the time of the page.
-/
def readRange (cursor : Cursor) (lookup : Lookup) (now start bound : Timestamp)
    (direction : Direction) (limit : Nat) (later : Lookup := lookup) : Page :=
  let (hit, cursor) := cursor.seek lookup now start
  let (page, _) := cursor.page later direction bound limit
  { page with values := hit.toList ++ page.values }

end Cursor

end ValueHistory
