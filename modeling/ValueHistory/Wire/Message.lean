import ValueHistory.Service.Message
import ValueHistory.Wire.Observation

/-! Messages as JSON documents. -/

namespace ValueHistory

open Json (Document Mode)

/-- The kind of message that a document names. -/
def MessageKind.ofDocument? (mode : Mode) (document : Document) : Option MessageKind :=
  (document.choice? mode).bind MessageKind.ofName?

/-- The name of a kind of message. -/
def MessageKind.toJson (kind : MessageKind) : Json :=
  .string kind.name

namespace Message

/-- The fields of a message. -/
def fields : List Json.Field :=
  [ { name := "kind" }, { name := "thing_id" }, { name := "name" }, { name := "affordance_type" }
  , { name := "sender_id" }, { name := "timestamp", lacking := .allowed }
  , { name := "data", lacking := .allowed } ]

/-- Reads a message. -/
def ofDocument? (mode : Mode) (document : Document) : Option Message := do
  match ← document.fields? fields with
  | [some kind, some thing, some name, some affordance, some sender, time, data] =>
    some
      { kind := ← MessageKind.ofDocument? mode.inside kind
        thing := ← thing.text?
        name := ← name.text?
        affordanceName := ← affordance.text?
        sender := ← sender.text?
        time := ← Timestamp.ofField? time
        data := ← Json.ofField? mode.inside data }
  | _ => none

/-- Writes a message. -/
def toJson? (message : Message) : Option Json :=
  (Timestamp.orNull? message.time).map fun time =>
    .object
      [ ("kind", message.kind.toJson), ("thing_id", .string message.thing)
      , ("name", .string message.name), ("affordance_type", .string message.affordanceName)
      , ("sender_id", .string message.sender), ("timestamp", time), ("data", message.data) ]

end Message

end ValueHistory
