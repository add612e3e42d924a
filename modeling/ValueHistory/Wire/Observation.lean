import ValueHistory.Json.Record
import ValueHistory.Observation.Basic
import ValueHistory.Time.Rfc3339

/-! Observations and pages as JSON documents. Writing fails only for a time that has no notation,
and then for the whole document.
-/

namespace ValueHistory

open Json (Document Mode)

/-- The time that a document notes. -/
def Timestamp.ofDocument? (document : Document) : Option Timestamp :=
  document.text?.bind fun text => Rfc3339.read? text.toList

/-- The notation of a time. -/
def Timestamp.toJson? (time : Timestamp) : Option Json :=
  (Rfc3339.write? time).map fun text => .string (String.ofList text)

/-- The notation of a time that may be missing. -/
def Timestamp.orNull? : Option Timestamp → Option Json
  | none => some .null
  | some time => time.toJson?

/-- A time or null; a missing field is null too. -/
def Timestamp.ofField? : Option Document → Option (Option Timestamp)
  | none => some none
  | some document => document.orNull? Timestamp.ofDocument?

/-- Free data; a missing field is null. -/
def Json.ofField? (mode : Mode) : Option Document → Option Json
  | none => some .null
  | some document => document.toJson? mode.room

/-- The kind of affordance that a document names. -/
def Affordance.ofDocument? (mode : Mode) (document : Document) : Option Affordance :=
  (document.choice? mode).bind Affordance.ofExactName?

/-- The name of a kind of affordance. -/
def Affordance.toJson (affordance : Affordance) : Json :=
  .string affordance.name

namespace Observation

/-- The fields of an observation. -/
def fields : List Json.Field :=
  [ { name := "thing_id" }, { name := "name" }, { name := "affordance_type" }
  , { name := "sender_id" }, { name := "timestamp", lacking := .allowed }
  , { name := "data", lacking := .allowed } ]

/-- Reads an observation. -/
def ofDocument? (mode : Mode) (document : Document) : Option Observation := do
  match ← document.fields? fields with
  | [some thing, some name, some affordance, some sender, time, data] =>
    some
      { thing := ← thing.text?
        name := ← name.text?
        affordance := ← Affordance.ofDocument? mode.inside affordance
        sender := ← sender.text?
        time := ← Timestamp.ofField? time
        data := ← Json.ofField? mode.inside data }
  | _ => none

/-- Writes an observation. -/
def toJson? (value : Observation) : Option Json :=
  (Timestamp.orNull? value.time).map fun time =>
    .object
      [ ("thing_id", .string value.thing), ("name", .string value.name)
      , ("affordance_type", value.affordance.toJson), ("sender_id", .string value.sender)
      , ("timestamp", time), ("data", value.data) ]

/-- Writes an observation, or null where there is none. -/
def orNull? : Option Observation → Option Json
  | none => some .null
  | some value => value.toJson?

end Observation

namespace Page

/-- The fields of a page. -/
def fields : List Json.Field := [{ name := "values" }, { name := "items_remaining" }]

/-- Reads a page from the values of its fields. -/
def ofFields? (mode : Mode) : List (Option Document) → Option Page
  | [some values, some remaining] => do
    some
      { values := ← values.list? (Observation.ofDocument? mode.inside.inside)
        remaining := ← remaining.truth? }
  | _ => none

/-- Reads a page. -/
def ofDocument? (mode : Mode) (document : Document) : Option Page :=
  (document.fields? fields).bind (ofFields? mode)

/-- The members of a page. -/
def members? (page : Page) : Option (List (String × Json)) :=
  (page.values.mapM Observation.toJson?).map fun values =>
    [("values", .array values), ("items_remaining", .bool page.remaining)]

/-- Writes a page. -/
def toJson? (page : Page) : Option Json :=
  page.members?.map .object

end Page

end ValueHistory
