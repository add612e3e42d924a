import ValueHistory.Observation.Validity
import ValueHistory.Store.Failure

/-! What can go wrong in a history. -/

namespace ValueHistory

/-- A failure: a rejected observation, a cursor that is not there or belongs to another client, a
stored entry that cannot be understood, or a store that does not answer.
-/
inductive Failure where
  | invalid (rejection : Rejection)
  | cursorNotFound (key : String)
  | notAuthorized (key : String)
  | unknownTag (key : String)
  | undecodable (key : String)
  | store (failure : StoreFailure)
deriving DecidableEq

namespace Failure

/-- The text for a reader. -/
def message : Failure → String
  | invalid rejection => "Invalid value: " ++ rejection.message
  | cursorNotFound key => "Cursor not found: " ++ key
  | notAuthorized key => "Cursor " ++ key ++ " is not owned by the caller"
  | unknownTag key => "Unknown affordance tag in key " ++ key
  | undecodable key => "Failed to decode payload of " ++ key
  | store failure => "Storage error: " ++ failure.message

/-- Whether the caller may only learn that it has no such cursor. -/
def isUnknownCursor : Failure → Bool
  | cursorNotFound _ | notAuthorized _ => true
  | _ => false

end Failure

end ValueHistory
