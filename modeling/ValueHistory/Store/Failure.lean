/-! Why a store does not answer. -/

namespace ValueHistory

/-- A failure of a store: the database does not work, its directory cannot be made, no backend
has the name, or the database is of a later schema than this library knows.
-/
inductive StoreFailure where
  | database
  | createDirectory
  | unknownBackend (name : String)
  | unsupportedSchema (found supported : Int)
deriving DecidableEq, Repr

namespace StoreFailure

/-- The text for a reader. -/
def message : StoreFailure → String
  | database => "Database error"
  | createDirectory => "Failed to create database directory"
  | unknownBackend name => "Unknown backend: " ++ name
  | unsupportedSchema found supported =>
    "Database schema version " ++ toString found ++ " is newer than supported version "
      ++ toString supported

end StoreFailure

end ValueHistory
