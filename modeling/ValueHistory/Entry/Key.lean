import ValueHistory.Observation.Validity
import ValueHistory.Text.Bytes
import ValueHistory.Text.Decimal
import ValueHistory.Text.Split

/-! Keys of stored entries: the milliseconds, padded so that keys sort by time, the name of the
affordance, its tag and the sender, with a slash between them.
-/

namespace ValueHistory

/-- The number of digits to which the milliseconds of a key are padded. -/
def keyDigits : Nat := 15

/-- The parts of a key. -/
structure Key where
  millis : Int
  name : String
  tag : String
  sender : String
deriving DecidableEq, Repr

namespace Key

/-- The first part of a key, for a time before 1970 that of 1970 itself. -/
def timeText (time : Timestamp) : List Char :=
  Decimal.padded keyDigits (max 0 time.millis).toNat

/-- The key at which the entries of a time begin. -/
def ofTime (time : Timestamp) : Bytes :=
  Bytes.ofString (String.ofList (timeText time))

/-- The parts of a key, if it is a text of exactly four parts with a 64-bit integer as the first
one. The tag is not judged here.
-/
def parse? (key : Bytes) : Option Key := do
  let text ← key.toString?
  match Text.split keySeparator text.toList with
  | [millis, name, tag, sender] =>
    (Decimal.integer64? millis).map fun millis =>
      { millis, name := String.ofList name, tag := String.ofList tag
        sender := String.ofList sender }
  | _ => none

end Key

end ValueHistory
