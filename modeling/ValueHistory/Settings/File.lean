import ValueHistory.Settings.Source
import ValueHistory.Text.Bytes
import ValueHistory.Toml.Printer
import ValueHistory.Toml.Reader

/-! The settings file, a document in TOML. -/

namespace ValueHistory

namespace Toml

/-- The value of a key. -/
def member? (members : List (String × Toml)) (key : String) : Option Toml :=
  (members.find? fun member => member.1 = key).map (·.2)

/-- The values of a record's fields: of a table by their keys, of an array in their order. Members
that are no fields must be readable, while items beyond the fields are passed over unread. A time is
a record without fields.
-/
def fields? (names : List String) : Toml → Option (List (Option Toml))
  | table members =>
    if membersReadable (members.filter fun member => !names.contains member.1) then
      some (names.map (member? members))
    else none
  | array items => some (names.zipIdx.map fun name => items[name.2]?)
  | time => some (names.map fun _ => none)
  | _ => none

/-- A text. -/
def text? : Toml → Option String
  | string value => some value
  | _ => none

/-- A truth value. -/
def truth? : Toml → Option Bool
  | truth value => some value
  | _ => none

/-- An integer of 64 bits without a sign. -/
def unsigned? : Toml → Option Nat
  | integer value => if Decimal.fitsUnsigned64 value then some value.toNat else none
  | _ => none

/-- The name of a choice: a text, or a table with the name as its key and nothing in it. -/
def choice? : Toml → Option String
  | string name => some name
  | table [(name, table [])] => some name
  | table [(name, array [])] => some name
  | _ => none

/-- The items of an array. -/
def items? : Toml → Option (List Toml)
  | array items => some items
  | _ => none

/-- TOML as a notation of settings. -/
def settingsSource : Settings.Source Toml :=
  { fields?, text?, truth?, unsigned?, items?
    affordance? := fun document => document.choice?.bind Affordance.ofExactName? }

end Toml

namespace Settings

-----------------------------------------------------------------------------------------
-- Reading a file
-----------------------------------------------------------------------------------------

/-- Reads a settings file over the defaults; no content means that there is no such file. -/
def ofFile (default : Settings) (content : Option Bytes) : Except SettingsFailure Settings :=
  match content.bind Bytes.toString? with
  | none => .error .unreadable
  | some text =>
    match (Toml.read? text.toList).bind (Toml.settingsSource.settings? default) with
    | none => .error .malformed
    | some settings => .ok settings

/-- Reads a settings file and accepts only settings that make sense. -/
def ofFileChecked (default : Settings) (content : Option Bytes)
    : Except SettingsFailure Settings := do
  let settings ← ofFile default content
  settings.check
  return settings

-----------------------------------------------------------------------------------------
-- Writing a file
-----------------------------------------------------------------------------------------

/-- A line of a settings file. -/
def fileLine (key : String) (value : List Char) : List Char :=
  key.toList ++ " = ".toList ++ value ++ ['\n']

/-- The lines of a filter. -/
def filterLines (filter : Filter) : List Char :=
  fileLine "enabled" (Toml.renderTruth filter.enabled)
    ++ fileLine "include_things" (Toml.renderTexts filter.includeThings)
    ++ fileLine "exclude_things" (Toml.renderTexts filter.excludeThings)
    ++ fileLine "include_names" (Toml.renderTexts filter.includeNames)
    ++ fileLine "exclude_names" (Toml.renderTexts filter.excludeNames)
    ++ fileLine "affordance_types" (Toml.renderTexts (filter.affordances.map Affordance.name))

/-- The settings as the text of a file: every section with all its fields. -/
def toFile (settings : Settings) : String :=
  String.ofList
    ("[storage]\n".toList
      ++ fileLine "backend" (Toml.renderText settings.storage.backend)
      ++ fileLine "path" (Toml.renderText settings.storage.path)
      ++ "\n[history]\n".toList
      ++ fileLine "cursor_lifespan_secs" (Decimal.digits settings.history.cursorLifespan)
      ++ fileLine "sweep_interval_secs" (Decimal.digits settings.history.sweepInterval)
      ++ fileLine "default_limit" (Decimal.digits settings.history.defaultLimit)
      ++ "\n[recorder]\n".toList
      ++ fileLine "queue_capacity" (Decimal.digits settings.recorder.queueCapacity)
      ++ fileLine "workers" (Decimal.digits settings.recorder.workers)
      ++ "\n[filters.notifications]\n".toList ++ filterLines settings.filters.notifications
      ++ "\n[filters.requests]\n".toList ++ filterLines settings.filters.requests)

end Settings

end ValueHistory
