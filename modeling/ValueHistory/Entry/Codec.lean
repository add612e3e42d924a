import ValueHistory.Entry.Key
import ValueHistory.Failure
import ValueHistory.Json.Data
import ValueHistory.Json.Printer
import ValueHistory.Store.Bucket

/-! Observations as stored entries. Writing puts all but the Thing and the data into the key;
reading is more lenient than writing, so that entries with fewer parts, without padding or
without a payload still read as observations.
-/

namespace ValueHistory

/-- The text of the key of an observation at a time. -/
def Observation.keyText (value : Observation) (time : Timestamp) : List Char :=
  Text.join keySeparator
    [Key.timeText time, value.name.toList, value.affordance.tag.toList, value.sender.toList]

/-- The entry of an observation, which needs a time. -/
def Observation.encode (value : Observation) : Except Rejection Entry :=
  match value.time with
  | none => .error (.missingField "timestamp")
  | some time => .ok (Bytes.ofString (String.ofList (value.keyText time)), value.data.toBytes)

namespace Entry

/-- The data of a payload; an empty one stands for null. -/
def payloadData? (payload : Bytes) : Option Json :=
  if payload.isEmpty then some .null else Json.ofBytes? payload

/-- The kind of affordance that the parts of a key tell, an event where they tell none. -/
def affordance? (parts : List (List Char)) : Option Affordance :=
  match parts[2]? with
  | some tag => Affordance.ofTag? (String.ofList tag)
  | none => some .event

/-- The observation of an entry, or nothing where the key is not one of an observation at all. An
unknown tag and a payload that is not JSON are failures.
-/
def decode (thing : String) (entry : Entry) : Except Failure (Option Observation) :=
  match entry.1.toString? with
  | none => .ok none
  | some key =>
    let parts := Text.split keySeparator key.toList
    match parts with
    | millis :: name :: _ =>
      match (Decimal.integer64? millis).bind Timestamp.ofMillis? with
      | none => .ok none
      | some time =>
        match affordance? parts with
        | none => .error (.unknownTag key)
        | some affordance =>
          match payloadData? entry.2 with
          | none => .error (.undecodable key)
          | some data =>
            .ok (some
              { thing, name := String.ofList name, affordance
                sender := String.ofList (parts.getD 3 []), time := some time, data })
    | _ => .ok none

end Entry

end ValueHistory
