import ValueHistory.Decimal.Double

/-! Free data: the JSON values that things report and that stored payloads hold. The readers of
this library leave the members of an object in ascending key order, each key once.
-/

namespace ValueHistory

/-- A number: an integer of up to 64 bits, or a double. -/
inductive Json.Number where
  | integer (value : Int)
  | real (value : Double)
deriving DecidableEq, Repr

/-- A JSON value. -/
inductive Json where
  | null
  | bool (value : Bool)
  | number (value : Json.Number)
  | string (value : String)
  | array (items : List Json)
  | object (members : List (String × Json))
deriving Repr

namespace Json

/-- The value of an integer. -/
def ofInt (value : Int) : Json :=
  .number (.integer value)

/-- The value of a natural number. -/
def ofNat (value : Nat) : Json :=
  ofInt value

/-- The value of a text, or null where there is none. -/
def ofText? : Option String → Json
  | some value => .string value
  | none => .null

mutual

/-- How many arrays and objects lie around the innermost value. -/
def depth : Json → Nat
  | array items => depthOfItems items + 1
  | object members => depthOfMembers members + 1
  | _ => 0
termination_by structural value => value

/-- The greatest depth among the items of an array. -/
def depthOfItems : List Json → Nat
  | [] => 0
  | item :: rest => max item.depth (depthOfItems rest)
termination_by structural items => items

/-- The greatest depth among the members of an object. -/
def depthOfMembers : List (String × Json) → Nat
  | [] => 0
  | (_, value) :: rest => max value.depth (depthOfMembers rest)
termination_by structural members => members

end

end Json

end ValueHistory
