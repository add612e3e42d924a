import ValueHistory.Entry.Codec
import ValueHistory.Store.Position

/-! Scanning a bucket for observations. A scan steps from entry to entry, passes over what is not
an observation of the wanted name, and ends in front of the first key beyond its bound, so that
the next scan finds that key again.
-/

namespace ValueHistory

/-- The two ways along a bucket. -/
inductive Direction where
  | forward
  | backward
deriving DecidableEq, Repr

namespace Direction

/-- The move to the next entry on the way. -/
def step : Direction → Move
  | forward => .next
  | backward => .prev

/-- The move that takes a step back. -/
def unstep : Direction → Move
  | forward => .prev
  | backward => .next

/-- Whether a time lies beyond a bound on the way, both in milliseconds. -/
def crosses (bound millis : Int) : Direction → Bool
  | forward => bound < millis
  | backward => millis < bound

end Direction

/-- What a scan looks for: the observations of a Thing, or those with one name. -/
structure Selection where
  thing : String
  name : Option String
deriving DecidableEq, Repr

namespace Selection

/-- The selection of a name; an empty name selects all. -/
def of (thing : String) (name : Option String) : Selection :=
  { thing, name := name.filter fun name => name ≠ "" }

/-- Whether a name is selected. -/
def selects (selection : Selection) (name : String) : Bool :=
  match selection.name with
  | none => true
  | some wanted => wanted = name

/-- The observation of an entry, if the entry has one and it is selected. -/
def accept? (selection : Selection) (entry : Entry) : Option Observation :=
  match Key.parse? entry.1 with
  | none => none
  | some key =>
    if selection.selects key.name then
      match Entry.decode selection.thing entry with
      | .ok value => value
      | .error _ => none
    else none

end Selection

namespace Scan

-----------------------------------------------------------------------------------------
-- What a scan makes of an entry
-----------------------------------------------------------------------------------------

/-- What a scan does with an entry: it is passed over, it lies beyond the bound, or it is the
observation looked for.
-/
inductive Verdict where
  | skipped
  | beyond
  | found (value : Observation)

/-- Judges an entry. The bound is looked at before the name, and both before the payload. -/
def judge (selection : Selection) (direction : Direction) (bound : Int) (entry : Entry) : Verdict :=
  match Key.parse? entry.1 with
  | none => .skipped
  | some key =>
    if direction.crosses bound key.millis then .beyond
    else match selection.accept? entry with
      | some value => .found value
      | none => .skipped

-----------------------------------------------------------------------------------------
-- Scans of one value and of pages
-----------------------------------------------------------------------------------------

/-- Scans from a position for the next observation within the bound, in at most `fuel` steps; no
result means that the steps did not suffice.
-/
def within (selection : Selection) (lookup : Lookup) (direction : Direction) (bound : Int)
    : Nat → Position → Option (Option Observation × Position)
  | 0, _ => none
  | fuel + 1, position =>
    match position.move lookup direction.step with
    | (none, position) => some (none, position)
    | (some entry, position) =>
      match judge selection direction bound entry with
      | .skipped => within selection lookup direction bound fuel position
      | .beyond => some (none, (position.move lookup direction.unstep).2)
      | .found value => some (some value, position)

/-- Scans from a position for the next observation within the bound. Every step passes a key, so
one step more than there are keys is enough.
-/
def run (selection : Selection) (lookup : Lookup) (direction : Direction) (bound : Int)
    (position : Position) : Option Observation × Position :=
  (within selection lookup direction bound (lookup.size + 1) position).getD (none, position)

/-- The observation at the entry that a move found, or else the next one on the way. -/
def settle (selection : Selection) (lookup : Lookup) (direction : Direction) (bound : Int)
    : Option Entry × Position → Option Observation × Position
  | (none, position) => (none, position)
  | (some entry, position) =>
    match selection.accept? entry with
    | some value => (some value, position)
    | none => run selection lookup direction bound position

/-- Up to `limit` observations within the bound. -/
def take (selection : Selection) (lookup : Lookup) (direction : Direction) (bound : Int)
    : Nat → Position → List Observation × Bool × Position
  | 0, position => ([], true, position)
  | limit + 1, position =>
    match run selection lookup direction bound position with
    | (none, position) => ([], false, position)
    | (some value, position) =>
      let (values, full, position) := take selection lookup direction bound limit position
      (value :: values, full, position)

/-- A page of up to `limit` observations within the bound, and whether more are left. To find out
the scan looks one ahead and steps back again.
-/
def page (selection : Selection) (lookup : Lookup) (direction : Direction) (bound : Int)
    (limit : Nat) (position : Position) : Page × Position :=
  match take selection lookup direction bound limit position with
  | (values, false, position) => ({ values, remaining := false }, position)
  | (values, true, position) =>
    match run selection lookup direction bound position with
    | (none, position) => ({ values, remaining := false }, position)
    | (some _, position) =>
      ({ values, remaining := true }, (position.move lookup direction.unstep).2)

end Scan

end ValueHistory
