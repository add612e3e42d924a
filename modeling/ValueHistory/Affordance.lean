/-! Affordances: what a Thing offers and values belong to. Each kind has a name and a tag of one
letter, the tag being what stands in stored keys.
-/

namespace ValueHistory

/-- The kinds of affordance: state that can be read, notices a Thing emits, and calls on it. -/
inductive Affordance where
  | property
  | event
  | action
deriving DecidableEq, Repr

namespace Affordance

/-- Every kind of affordance. -/
def all : List Affordance := [property, event, action]

/-- The lower-case name. -/
def name : Affordance → String
  | property => "property"
  | event => "event"
  | action => "action"

/-- The tag in stored keys. -/
def tag : Affordance → String
  | property => "p"
  | event => "e"
  | action => "a"

/-- The kind with exactly the given name. -/
def ofExactName? (text : String) : Option Affordance :=
  all.find? fun kind => kind.name = text

/-- The kind with the given name in any ASCII letter case. -/
def ofName? (text : String) : Option Affordance :=
  ofExactName? (String.ofList (text.toList.map Char.toLower))

/-- The kind with exactly the given tag. -/
def ofTag? (text : String) : Option Affordance :=
  all.find? fun kind => kind.tag = text

theorem ofExactName?_name (kind : Affordance) : ofExactName? kind.name = some kind := by
  cases kind <;> decide

theorem ofTag?_tag (kind : Affordance) : ofTag? kind.tag = some kind := by
  cases kind <;> decide

end Affordance

end ValueHistory
