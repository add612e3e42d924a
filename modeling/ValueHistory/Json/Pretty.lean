import ValueHistory.Json.Printer

/-! The notation of JSON values for human readers: an item or member a line, two blanks a level. -/

namespace ValueHistory.Json

/-- The beginning of a line at a level. -/
def indentation (level : Nat) : List Char :=
  '\n' :: List.replicate (2 * level) ' '

mutual

/-- The notation of a value that begins at a level. -/
def indented (level : Nat) : Json → List Char
  | array [] => ['[', ']']
  | array (item :: rest) =>
    '[' :: indentation (level + 1) ++ indented (level + 1) item
      ++ indentedItems (level + 1) rest ++ indentation level ++ [']']
  | object [] => ['\x7b', '\x7d']
  | object ((key, value) :: rest) =>
    '\x7b' :: indentation (level + 1) ++ renderText key ++ ':' :: ' '
      :: indented (level + 1) value ++ indentedMembers (level + 1) rest ++ indentation level
      ++ ['\x7d']
  | value => render value
termination_by structural value => value

/-- The items after the first one, each on its line. -/
def indentedItems (level : Nat) : List Json → List Char
  | [] => []
  | item :: rest =>
    ',' :: indentation level ++ indented level item ++ indentedItems level rest
termination_by structural items => items

/-- The members after the first one, each on its line. -/
def indentedMembers (level : Nat) : List (String × Json) → List Char
  | [] => []
  | (key, value) :: rest =>
    ',' :: indentation level ++ renderText key ++ ':' :: ' ' :: indented level value
      ++ indentedMembers level rest
termination_by structural members => members

end

/-- The notation of a value as a text of many lines. -/
def pretty (value : Json) : String :=
  String.ofList (indented 0 value)

end ValueHistory.Json
