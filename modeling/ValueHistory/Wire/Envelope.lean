import ValueHistory.Wire.Message
import ValueHistory.Wire.Request

/-! Envelopes: the lines that clients send. An envelope is an object with either a client and its
request, or a message to publish; where it could be both it is a request.
-/

namespace ValueHistory

open Json (Document Mode)

/-- What a client sends. -/
inductive Envelope where
  | query (client : String) (request : Request)
  | publish (message : Message)

/-- Why a line is no envelope: it is not one JSON document, or the document is something else. -/
inductive Malformed where
  | notJson
  | notEnvelope
deriving DecidableEq, Repr

/-- The text for a reader, with the complaint of the JSON library about a text that is no document.
-/
def Malformed.message (complaint : String) : Malformed → String
  | notJson => complaint
  | notEnvelope => "data did not match any variant of untagged enum Envelope"

namespace Envelope

/-- The way to read an envelope: operations may be given by their numbers. -/
def mode : Mode := { numbered := true }

/-- Reads a client and its request. -/
def readQuery? (document : Document) : Option Envelope := do
  match ← document.fields? [{ name := "client_id" }, { name := "request" }] with
  | [some client, some request] =>
    some (.query (← client.text?) (← Request.ofDocument? mode.inside request))
  | _ => none

/-- Reads a message to publish. -/
def readPublish? (document : Document) : Option Envelope := do
  match ← document.fields? [{ name := "publish" }] with
  | [some message] => (Message.ofDocument? mode.inside message).map .publish
  | _ => none

/-- Reads an envelope from a document. -/
def ofDocument? : Document → Option Envelope
  | .object members =>
    readQuery? (.object members) <|> readPublish? (.object members)
  | _ => none

/-- Reads the envelope that a text is. The document at its beginning is judged as an envelope
before what follows it is looked at.
-/
def read (text : List Char) : Except Malformed Envelope :=
  match Document.readFirst? text with
  | none => .error .notJson
  | some (document, rest) =>
    if !document.isSound then .error .notJson
    else match ofDocument? document with
      | none => .error .notEnvelope
      | some envelope => if (Json.skipBlanks rest).isEmpty then .ok envelope else .error .notJson

end Envelope

end ValueHistory
