/-! Where the service keeps its files unless it is told otherwise: below the directories that the
environment gives for data and settings, or below the home directory.
-/

namespace ValueHistory

/-- What the environment tells of directories. -/
structure Environment where
  home : String
  dataHome : Option String := none
  settingsHome : Option String := none
deriving DecidableEq, Repr

namespace Environment

/-- A path below a directory. -/
def joinPath (directory name : String) : String :=
  if directory = "" || directory.toList.getLast? = some '/' then directory ++ name
  else directory ++ "/" ++ name

/-- A directory that the environment gives; only an absolute path counts. -/
def absolute? (directory : Option String) : Option String :=
  directory.filter fun path => path.toList.head? = some '/'

/-- The directory of data. -/
def dataDirectory (environment : Environment) : String :=
  (absolute? environment.dataHome).getD (joinPath environment.home ".local/share")

/-- The directory of settings. -/
def settingsDirectory (environment : Environment) : String :=
  (absolute? environment.settingsHome).getD (joinPath environment.home ".config")

/-- The path of the database. -/
def databasePath (environment : Environment) : String :=
  joinPath (joinPath environment.dataDirectory "thingstore") "history.db"

/-- The path of the settings file. -/
def settingsPath (environment : Environment) : String :=
  joinPath (joinPath environment.settingsDirectory "thingstore") "server.toml"

end Environment

end ValueHistory
