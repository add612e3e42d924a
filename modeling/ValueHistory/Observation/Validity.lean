import ValueHistory.Observation.Basic
import ValueHistory.Text.Quoted

/-! Which observations may be stored: the identifying texts are there, those that go into the
key hold no separator, and the time is not before 1970. A missing time becomes the present.
-/

namespace ValueHistory

/-- The character between the parts of a key. -/
def keySeparator : Char := '/'

/-- Why an observation is not accepted. -/
inductive Rejection where
  | missingField (field : String)
  | keySeparator (field value : String)
  | unknownAffordance (name : String)
  | beforeEpoch (time : Timestamp)
deriving DecidableEq

namespace Rejection

/-- The text for a reader. -/
def message : Rejection → String
  | missingField field => field ++ " is required"
  | keySeparator field value => field ++ " must not contain '/': " ++ Text.quote value
  | unknownAffordance name => "unknown affordance type " ++ Text.quote name
  | beforeEpoch time => "timestamp " ++ time.describe ++ " is before the Unix epoch"

end Rejection

namespace Observation

/-- Accepts an observation, with the present as its time where it has none, or says why not. The
checks run in this order and the first that fails decides.
-/
def check (now : Timestamp) (value : Observation) : Except Rejection Observation :=
  let time := value.time.getD now
  if value.thing = "" then .error (.missingField "thing_id")
  else if value.name = "" then .error (.missingField "name")
  else if value.sender = "" then .error (.missingField "sender_id")
  else if keySeparator ∈ value.name.toList then .error (.keySeparator "name" value.name)
  else if keySeparator ∈ value.sender.toList then .error (.keySeparator "sender_id" value.sender)
  else if time.nanos < 0 then .error (.beforeEpoch time)
  else .ok { value with time := some time }

end Observation

end ValueHistory
