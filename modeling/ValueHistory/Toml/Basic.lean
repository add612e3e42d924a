/-! Documents in TOML, the notation of settings files. -/

namespace ValueHistory

/-- A value in TOML. Fractional numbers and times are told from other values and not kept, since
no setting is one. A number can have the form of one and still no value, when it is out of range or
has digits beyond its base; that is an error only where someone reads it.
-/
inductive Toml where
  | string (value : String)
  | integer (value : Int)
  | real
  | unreadable
  | truth (value : Bool)
  | time
  | array (items : List Toml)
  | table (members : List (String × Toml))
deriving Repr

namespace Toml

mutual

/-- Whether every number in a value can be read. -/
def isReadable : Toml → Bool
  | .unreadable => false
  | .array items => areReadable items
  | .table members => membersReadable members
  | _ => true
termination_by structural value => value

/-- Whether every number in the items of an array can be read. -/
def areReadable : List Toml → Bool
  | [] => true
  | item :: items => item.isReadable && areReadable items
termination_by structural items => items

/-- Whether every number in the members of a table can be read. -/
def membersReadable : List (String × Toml) → Bool
  | [] => true
  | (_, value) :: members => value.isReadable && membersReadable members
termination_by structural members => members

end

end Toml

end ValueHistory
