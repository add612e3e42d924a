import ValueHistory.Service.Recorder

/-! The settings of the service, their defaults, and which values make sense. -/

namespace ValueHistory

/-- Which store is used, and where its file is. -/
structure StorageSettings where
  backend : String := Backend.sqlite.name
  path : String
deriving DecidableEq, Repr

/-- How long unused cursors are kept and how often they are swept out, in seconds, and the number
of values of a page where nobody sets one.
-/
structure HistorySettings where
  cursorLifespan : Nat := 60
  sweepInterval : Nat := 30
  defaultLimit : Nat := defaultPageLimit
deriving DecidableEq, Repr

/-- The settings. -/
structure Settings where
  storage : StorageSettings
  history : HistorySettings := {}
  recorder : RecorderSettings := {}
  filters : Filters := {}
deriving DecidableEq, Repr

/-- The longest span that cursors may be kept or go without a sweep, in seconds. -/
def maxInterval : Nat := 3600

/-- The greatest default number of values of a page. -/
def maxDefaultLimit : Nat := 100000

/-- The greatest number of workers. -/
def maxWorkers : Nat := 64

namespace StorageSettings

/-- The store must be of a known kind, and one in a file needs a path. -/
def errors (settings : StorageSettings) : List SettingError :=
  match Backend.ofName settings.backend with
  | .ok .memory => []
  | .ok .sqlite =>
    if settings.path = "" then
      [{ field := "storage.path", message := "database path cannot be empty" }]
    else []
  | .error _ =>
    [ { field := "storage.backend"
        message :=
          "unknown backend '" ++ settings.backend ++ "': expected 'sqlite' or 'memory'" } ]

end StorageSettings

namespace HistorySettings

/-- An interval must be between one second and one hour. -/
def intervalErrors (field : String) (seconds : Nat) : List SettingError :=
  if seconds < 1 then
    [{ field, message := toString seconds ++ " is too short (minimum 1 second)" }]
  else if maxInterval < seconds then
    [{ field, message := toString seconds ++ " is too long (maximum 3600 seconds / 1 hour)" }]
  else []

/-- Both intervals and the limit must be in their ranges. -/
def errors (settings : HistorySettings) : List SettingError :=
  intervalErrors "history.cursor_lifespan_secs" settings.cursorLifespan
    ++ intervalErrors "history.sweep_interval_secs" settings.sweepInterval
    ++ if settings.defaultLimit = 0 || maxDefaultLimit < settings.defaultLimit then
        [ { field := "history.default_limit"
            message :=
              "default limit " ++ toString settings.defaultLimit
                ++ " out of range (1-100000)" } ]
      else []

/-- The time that cursors are kept without use, in nanoseconds. -/
def lifespan (settings : HistorySettings) : Nat :=
  settings.cursorLifespan * 1000000000

/-- The time between two sweeps, in nanoseconds. -/
def sweepPeriod (settings : HistorySettings) : Nat :=
  settings.sweepInterval * 1000000000

end HistorySettings

namespace RecorderSettings

/-- The queue needs a place, and the number of workers must be in its range. -/
def errors (settings : RecorderSettings) : List SettingError :=
  (if settings.queueCapacity = 0 then
    [{ field := "recorder.queue_capacity", message := "queue capacity must be at least 1" }]
  else [])
    ++ if settings.workers = 0 || maxWorkers < settings.workers then
        [ { field := "recorder.workers"
            message := "worker count " ++ toString settings.workers ++ " out of range (1-64)" } ]
      else []

end RecorderSettings

namespace Settings

/-- The settings where none are given, with the path of the database. -/
def default (databasePath : String) : Settings :=
  { storage := { path := databasePath } }

/-- All that is wrong with the settings. -/
def errors (settings : Settings) : List SettingError :=
  settings.storage.errors ++ settings.history.errors ++ settings.recorder.errors
    ++ settings.filters.errors

/-- Accepts settings with which nothing is wrong. -/
def check (settings : Settings) : Except SettingsFailure Unit :=
  if settings.errors.isEmpty then .ok () else .error (.invalid settings.errors)

end Settings

end ValueHistory
