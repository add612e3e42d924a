import ValueHistory.Store.Bucket

/-! Positions of cursors. A position is kept by the key it stands at and not by a count, so that
it stays meaningful while entries come and go.
-/

namespace ValueHistory

/-- Where a cursor stands: nowhere yet, before all entries, at a key, or after all entries. -/
inductive Position where
  | unplaced
  | beforeFirst
  | standing (key : Bytes)
  | afterLast
deriving DecidableEq, Repr

/-- The moves of a cursor. -/
inductive Move where
  | first
  | last
  | next
  | prev
  | seek (key : Bytes)
deriving DecidableEq, Repr

namespace Position

/-- The position after a move: at the entry found, or beyond the end where there was none. -/
def land (found : Option Entry) (otherwise : Position) : Option Entry × Position :=
  match found with
  | some entry => (some entry, .standing entry.1)
  | none => (none, otherwise)

/-- The entry after the position. -/
def next (lookup : Lookup) : Position → Option Entry × Position
  | unplaced | beforeFirst => land (lookup.ceiling .unbounded) .afterLast
  | .standing key => land (lookup.ceiling (.excluding key)) .afterLast
  | afterLast => (none, .afterLast)

/-- The entry before the position. -/
def prev (lookup : Lookup) : Position → Option Entry × Position
  | unplaced | afterLast => land (lookup.floor .unbounded) .beforeFirst
  | .standing key => land (lookup.floor (.excluding key)) .beforeFirst
  | beforeFirst => (none, .beforeFirst)

/-- The entry that a move finds, and the position after it. -/
def move (lookup : Lookup) (position : Position) : Move → Option Entry × Position
  | .first => land (lookup.ceiling .unbounded) .afterLast
  | .last => land (lookup.floor .unbounded) .beforeFirst
  | .next => position.next lookup
  | .prev => position.prev lookup
  | .seek key => land (lookup.ceiling (.including key)) .afterLast

end Position

end ValueHistory
