import ValueHistory.Settings.Basic

/-! Settings out of documents of any notation. Whatever a document leaves out keeps its default,
section by section and field by field.
-/

namespace ValueHistory.Settings

/-- What has to be known of a notation to find settings in its documents: the values of a record's
fields, and single values.
-/
structure Source (δ : Type) where
  fields? : List String → δ → Option (List (Option δ))
  text? : δ → Option String
  truth? : δ → Option Bool
  unsigned? : δ → Option Nat
  affordance? : δ → Option Affordance
  items? : δ → Option (List δ)

/-- The value of a field that is there, or else the default. -/
def overlay {δ α : Type} (read : δ → Option α) (default : α) : Option δ → Option α
  | none => some default
  | some document => read document

namespace Source

variable {δ : Type} (source : Source δ)

/-- A list of texts. -/
def texts? (document : δ) : Option (List String) :=
  (source.items? document).bind fun items => items.mapM source.text?

/-- A list of kinds of affordance. -/
def affordances? (document : δ) : Option (List Affordance) :=
  (source.items? document).bind fun items => items.mapM source.affordance?

/-- The section of the store, over the given defaults. -/
def storage? (default : StorageSettings) (document : δ) : Option StorageSettings := do
  match ← source.fields? ["backend", "path"] document with
  | [backend, path] =>
    some
      { backend := ← overlay source.text? default.backend backend
        path := ← overlay source.text? default.path path }
  | _ => none

/-- The section of the history, over the defaults. -/
def history? (document : δ) : Option HistorySettings := do
  let default : HistorySettings := {}
  let fields := ["cursor_lifespan_secs", "sweep_interval_secs", "default_limit"]
  match ← source.fields? fields document with
  | [lifespan, interval, limit] =>
    some
      { cursorLifespan := ← overlay source.unsigned? default.cursorLifespan lifespan
        sweepInterval := ← overlay source.unsigned? default.sweepInterval interval
        defaultLimit := ← overlay source.unsigned? default.defaultLimit limit }
  | _ => none

/-- The section of the recorder, over the defaults. -/
def recorder? (document : δ) : Option RecorderSettings := do
  let default : RecorderSettings := {}
  match ← source.fields? ["queue_capacity", "workers"] document with
  | [capacity, workers] =>
    some
      { queueCapacity := ← overlay source.unsigned? default.queueCapacity capacity
        workers := ← overlay source.unsigned? default.workers workers }
  | _ => none

/-- One filter, over the filter that lets everything pass. -/
def filter? (document : δ) : Option Filter := do
  let default : Filter := {}
  let fields :=
    [ "enabled", "include_things", "exclude_things", "include_names", "exclude_names"
    , "affordance_types" ]
  match ← source.fields? fields document with
  | [enabled, includeThings, excludeThings, includeNames, excludeNames, affordances] =>
    some
      { enabled := ← overlay source.truth? default.enabled enabled
        includeThings := ← overlay source.texts? default.includeThings includeThings
        excludeThings := ← overlay source.texts? default.excludeThings excludeThings
        includeNames := ← overlay source.texts? default.includeNames includeNames
        excludeNames := ← overlay source.texts? default.excludeNames excludeNames
        affordances := ← overlay source.affordances? default.affordances affordances }
  | _ => none

/-- The section of the filters, over the defaults. -/
def filters? (document : δ) : Option Filters := do
  let default : Filters := {}
  match ← source.fields? ["notifications", "requests"] document with
  | [notifications, requests] =>
    some
      { notifications := ← overlay source.filter? default.notifications notifications
        requests := ← overlay source.filter? default.requests requests }
  | _ => none

/-- The settings, over the given defaults. -/
def settings? (default : Settings) (document : δ) : Option Settings := do
  match ← source.fields? ["storage", "history", "recorder", "filters"] document with
  | [storage, history, recorder, filters] =>
    some
      { storage := ← overlay (source.storage? default.storage) default.storage storage
        history := ← overlay source.history? default.history history
        recorder := ← overlay source.recorder? default.recorder recorder
        filters := ← overlay source.filters? default.filters filters }
  | _ => none

end Source

end ValueHistory.Settings
