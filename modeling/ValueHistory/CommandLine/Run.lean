import ValueHistory.CommandLine.Arguments
import ValueHistory.Json.Data
import ValueHistory.Service.Session
import ValueHistory.Settings.File
import ValueHistory.Settings.Paths

/-! Running a command: settings are found and checked, the store is opened, and the command does
its work on the history in it. The file system, the clocks and the lines of a session are passed
in, so that the same run works on real files and on a model of them.
-/

namespace ValueHistory

/-- What a run needs of its surroundings: the settings file, the database file, the clocks, and
someone to hold a session.
-/
structure Surroundings (m : Type → Type) where
  environment : Environment
  keys : Nat → String
  exists? : String → m Bool
  read? : String → m (Option Bytes)
  openDatabase : String → m (Except StoreFailure Database)
  saveDatabase : String → Database → m Unit
  moment : m Moment
  serve : Session → m (List Json × Bool × Session)

/-- Why a run ends without success. -/
inductive Problem where
  | arguments
  | settings (failure : SettingsFailure)
  | store (failure : StoreFailure)
  | history (failure : Failure)
  | data
  | input
  | output
  | aborted
deriving DecidableEq

namespace Problem

/-- The exit code. -/
def code : Problem → Nat
  | arguments => 2
  | aborted => 101
  | _ => 1

/-- The text for a reader. -/
def message : Problem → String
  | arguments => "the arguments make no sense"
  | settings failure => failure.message
  | store failure => failure.message
  | history failure => failure.message
  | data => "the data is not JSON"
  | input => "the input is not UTF-8"
  | output => "the output has no notation"
  | aborted => "the recorder cannot be started"

end Problem

/-- The end of a run: what it printed, and why it failed if it did. -/
structure Ending where
  output : List Json := []
  problem : Option Problem := none

namespace Invocation

/-- The settings with those that the arguments give in place of others. -/
def override (invocation : Invocation) (settings : Settings) : Settings :=
  { settings with
    storage :=
      { backend := invocation.backend.getD settings.storage.backend
        path := invocation.database.getD settings.storage.path } }

variable {m : Type → Type} [Monad m] (surroundings : Surroundings m)

/-- Reads the settings file: the one that the arguments name, or the usual one if it is there. -/
def readSettings (invocation : Invocation) : m (Except SettingsFailure Settings) := do
  let default := Settings.default surroundings.environment.databasePath
  match invocation.settings with
  | some path => return Settings.ofFile default (← surroundings.read? path)
  | none =>
    let path := surroundings.environment.settingsPath
    if ← surroundings.exists? path then
      return Settings.ofFile default (← surroundings.read? path)
    else return .ok default

/-- Finds the settings of a run and accepts only ones that make sense. -/
def findSettings (invocation : Invocation) : m (Except SettingsFailure Settings) := do
  let read ← invocation.readSettings surroundings
  return read.bind fun settings =>
    let settings := invocation.override settings
    settings.check.map fun _ => settings

end Invocation

namespace Settings

variable {m : Type → Type} [Monad m] (surroundings : Surroundings m)

/-- Opens the store of the settings. What bringing a database to the schema leaves of it is kept,
whether it succeeds or fails.
-/
def openStore (settings : Settings) : m (Except StoreFailure Store) := do
  match Backend.ofName settings.storage.backend with
  | .error failure => return .error failure
  | .ok .memory => return .ok (.inMemory .empty)
  | .ok .sqlite =>
    match ← surroundings.openDatabase settings.storage.path with
    | .error failure => return .error failure
    | .ok database =>
      let (answer, left) := database.upgrade
      surroundings.saveDatabase settings.storage.path left
      return answer.map fun _ => .inDatabase left

/-- The history in a store as the settings want it. -/
def historyOver (settings : Settings) (store : Store) (keys : Nat → String) : History :=
  (({ store, keys } : History).withLifespan settings.history.lifespan).withDefaultLimit
    settings.history.defaultLimit

/-- Opens the history of the settings. -/
def openHistory (settings : Settings) : m (Except StoreFailure History) := do
  let store ← settings.openStore surroundings
  return store.map fun store => settings.historyOver store surroundings.keys

/-- Keeps what a history has in a database. -/
def saveHistory (settings : Settings) (history : History) : m Unit :=
  match history.store with
  | .inMemory _ => pure ()
  | .inDatabase database => surroundings.saveDatabase settings.storage.path database

end Settings

namespace Command

variable {m : Type → Type} [Monad m] (surroundings : Surroundings m)

/-- The end of a run with a page. -/
def ofPage (answer : Except Failure Page) : Ending :=
  match answer with
  | .error failure => { problem := some (.history failure) }
  | .ok page =>
    match page.toJson? with
    | some json => { output := [json] }
    | none => { problem := some .output }

/-- Runs a command on a history, and returns the history after it. -/
def run (settings : Settings) (history : History) : Command → m (Ending × History)
  | .read thing name start seconds limit => do
    let moment ← surroundings.moment
    let (answer, history) :=
      history.read moment thing name (start.getD moment.now) seconds limit
    return (ofPage answer, history)
  | .add thing name data affordance sender time => do
    match Json.read? data.toList with
    | none => return ({ problem := some .data }, history)
    | some data =>
      let (answer, history) :=
        history.add (← surroundings.moment) { thing, name, affordance, sender, time, data }
      match answer with
      | .ok () => return ({}, history)
      | .error failure => return ({ problem := some (.history failure) }, history)
  | .serve => do
    match Recorder.start? settings.filters settings.recorder with
    | none => return ({ problem := some .aborted }, history)
    | some recorder =>
      let (output, complete, session) ← surroundings.serve { history, recorder }
      let (_, history) := session.recorder.shutdown session.history (← surroundings.moment)
      return ({ output, problem := if complete then none else some .input }, history)

end Command

/-- Runs what an invocation asks for. -/
def Invocation.run {m : Type → Type} [Monad m] (surroundings : Surroundings m)
    (invocation : Invocation) : m Ending := do
  match ← invocation.findSettings surroundings with
  | .error failure => return { problem := some (.settings failure) }
  | .ok settings =>
    match ← settings.openHistory surroundings with
    | .error failure => return { problem := some (.store failure) }
    | .ok history =>
      let (ending, history) ← invocation.command.run surroundings settings history
      settings.saveHistory surroundings history
      return ending

end ValueHistory
