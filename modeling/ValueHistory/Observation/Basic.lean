import ValueHistory.Affordance
import ValueHistory.Json.Basic
import ValueHistory.Time.Timestamp

/-! Observations: a value of one affordance of a Thing, told by a sender at a time. -/

namespace ValueHistory

/-- A value of a Thing's affordance. Without a time it is taken to be of now. -/
structure Observation where
  thing : String
  name : String
  affordance : Affordance
  sender : String
  time : Option Timestamp := none
  data : Json := .null

/-- Values read in one go, and whether more of them are left in the window. -/
structure Page where
  values : List Observation
  remaining : Bool

end ValueHistory
