import ValueHistory.Affordance
import ValueHistory.Text.Quoted

/-! Texts that name no kind of affordance. -/

namespace ValueHistory

/-- A name or a tag that belongs to no kind of affordance. -/
inductive UnknownAffordance where
  | name (text : String)
  | tag (text : String)
deriving DecidableEq, Repr

/-- The text for a reader. -/
def UnknownAffordance.message : UnknownAffordance → String
  | name text => "Unknown affordance type: " ++ text
  | tag text => "Unknown affordance tag: " ++ Text.quote text

namespace Affordance

/-- The kind with the given name in any letter case, or what is wrong with the name. -/
def ofName (text : String) : Except UnknownAffordance Affordance :=
  match ofName? text with
  | some kind => .ok kind
  | none => .error (.name text)

/-- The kind with the given tag, or what is wrong with the tag. -/
def ofTag (text : String) : Except UnknownAffordance Affordance :=
  match ofTag? text with
  | some kind => .ok kind
  | none => .error (.tag text)

end Affordance

end ValueHistory
