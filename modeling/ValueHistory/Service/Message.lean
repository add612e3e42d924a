import ValueHistory.Observation.Validity

/-! Messages that a hub passes on. Their kind of affordance is a text of the sender and need not
name any.
-/

namespace ValueHistory

/-- What a message is: a notification of a Thing, or a request to one. -/
inductive MessageKind where
  | notification
  | request
deriving DecidableEq, Repr

namespace MessageKind

/-- The lower-case name. -/
def name : MessageKind → String
  | notification => "notification"
  | request => "request"

/-- The kind with exactly the given name. -/
def ofName? (text : String) : Option MessageKind :=
  [notification, request].find? fun kind => kind.name = text

end MessageKind

/-- A message about an affordance of a Thing. -/
structure Message where
  kind : MessageKind
  thing : String
  name : String
  affordanceName : String
  sender : String
  time : Option Timestamp
  data : Json

namespace Message

/-- The kind of affordance, if the text names one in any letter case. -/
def affordance? (message : Message) : Option Affordance :=
  Affordance.ofName? message.affordanceName

/-- The observation that the message tells, if the kind of affordance is known. -/
def toObservation (message : Message) : Except Rejection Observation :=
  match message.affordance? with
  | none => .error (.unknownAffordance message.affordanceName)
  | some affordance =>
    .ok
      { thing := message.thing, name := message.name, affordance, sender := message.sender
        time := message.time, data := message.data }

end Message

end ValueHistory
