import ValueHistory.Json.Basic

/-! JSON documents as they are written, before anything is made of them: numbers keep their
digits, objects keep repeated keys in their order, and texts may hold surrogates that stand for
no character. What a reader does not ask for is never judged.
-/

namespace ValueHistory

/-- A number as it is written: its sign, the digits before the point and those after it, and its
exponent if it has one.
-/
structure Json.Numeral where
  negative : Bool
  row : List Char
  fraction : List Char := []
  exponent : Option Int := none
deriving DecidableEq, Repr

/-- A JSON document. A text is absent where its escapes spell no characters. -/
inductive Json.Document where
  | null
  | bool (value : Bool)
  | number (value : Json.Numeral)
  | string (value : Option String)
  | array (items : List Json.Document)
  | object (members : List (Option String × Json.Document))
deriving Repr

end ValueHistory
