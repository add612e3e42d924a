import ValueHistory.Settings.Source
import ValueHistory.Wire.Observation

/-! Settings and counts as JSON documents. -/

namespace ValueHistory

open Json (Document)

/-- The values of fields that may all be missing. -/
def Json.Document.optionalFields? (names : List String) (document : Document)
    : Option (List (Option Document)) :=
  document.fields? (names.map fun name => { name, lacking := .allowed })

/-- JSON as a notation of settings. -/
def Json.Document.settingsSource : Settings.Source Document :=
  { fields? := Document.optionalFields?
    text? := Document.text?
    truth? := Document.truth?
    unsigned? := Document.unsigned?
    items? := Document.list? some
    affordance? := Affordance.ofDocument? {} }

/-- Writes texts. -/
def Json.ofTexts (texts : List String) : Json :=
  .array (texts.map .string)

/-- Writes a filter. -/
def Filter.toJson (filter : Filter) : Json :=
  .object
    [ ("enabled", .bool filter.enabled), ("include_things", .ofTexts filter.includeThings)
    , ("exclude_things", .ofTexts filter.excludeThings)
    , ("include_names", .ofTexts filter.includeNames)
    , ("exclude_names", .ofTexts filter.excludeNames)
    , ("affordance_types", .ofTexts (filter.affordances.map Affordance.name)) ]

/-- Writes filters. -/
def Filters.toJson (filters : Filters) : Json :=
  .object
    [("notifications", filters.notifications.toJson), ("requests", filters.requests.toJson)]

/-- Writes settings. -/
def Settings.toJson (settings : Settings) : Json :=
  .object
    [ ("storage", .object
        [ ("backend", .string settings.storage.backend)
        , ("path", .string settings.storage.path) ])
    , ("history", .object
        [ ("cursor_lifespan_secs", .ofNat settings.history.cursorLifespan)
        , ("sweep_interval_secs", .ofNat settings.history.sweepInterval)
        , ("default_limit", .ofNat settings.history.defaultLimit) ])
    , ("recorder", .object
        [ ("queue_capacity", .ofNat settings.recorder.queueCapacity)
        , ("workers", .ofNat settings.recorder.workers) ])
    , ("filters", settings.filters.toJson) ]

/-- Reads counts. -/
def Tally.ofDocument? (document : Document) : Option Tally := do
  let fields : List Json.Field :=
    [ { name := "accepted" }, { name := "filtered" }, { name := "dropped" }, { name := "stored" }
    , { name := "failed" } ]
  match ← document.fields? fields with
  | [some accepted, some filtered, some dropped, some stored, some failed] =>
    some
      { accepted := ← accepted.unsigned?
        filtered := ← filtered.unsigned?
        dropped := ← dropped.unsigned?
        stored := ← stored.unsigned?
        failed := ← failed.unsigned? }
  | _ => none

/-- Writes counts. -/
def Tally.toJson (tally : Tally) : Json :=
  .object
    [ ("accepted", .ofNat tally.accepted), ("filtered", .ofNat tally.filtered)
    , ("dropped", .ofNat tally.dropped), ("stored", .ofNat tally.stored)
    , ("failed", .ofNat tally.failed) ]

end ValueHistory
