/-! What is wrong with settings. -/

namespace ValueHistory

/-- Something wrong with one setting. -/
structure SettingError where
  field : String
  message : String
deriving DecidableEq, Repr

/-- The text for a reader. -/
def SettingError.describe (error : SettingError) : String :=
  error.field ++ ": " ++ error.message

/-- Why there are no settings to work with: their file cannot be read, is not a settings document,
cannot be written, or holds values that make no sense together.
-/
inductive SettingsFailure where
  | unreadable
  | malformed
  | unwritable
  | invalid (errors : List SettingError)
deriving DecidableEq, Repr

/-- The text for a reader. -/
def SettingsFailure.message : SettingsFailure → String
  | unreadable => "Failed to read config file"
  | malformed => "Failed to parse config file"
  | unwritable => "Failed to write config file"
  | invalid errors =>
    "Configuration validation failed:\n"
      ++ "\n".intercalate (errors.map fun error => "  - " ++ error.describe)

end ValueHistory
