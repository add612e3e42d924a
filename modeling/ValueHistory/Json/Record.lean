import ValueHistory.Json.Data

/-! Records with known fields in JSON documents. A record is an object, where unknown keys are
passed over and a known key may stand only once, or an array of the fields in their order. The
readers here take the fields apart and leave their values to the reader of each field.
-/

namespace ValueHistory.Json

/-- What it means that a record lacks a field: the record is refused, the field may be left out
of an object but not of an array, or it may be left out of either.
-/
inductive Lacking where
  | refused
  | named
  | allowed
deriving DecidableEq, Repr

/-- A field of a record. -/
structure Field where
  name : String
  lacking : Lacking := .refused
deriving DecidableEq, Repr

/-- How a document is read: how many arrays and objects may still lie around free data, and what
else than a plain text may name a choice.
-/
structure Mode where
  room : Nat := maxDepth
  emptyIsNull : Bool := false
  numbered : Bool := false
deriving DecidableEq, Repr

/-- The way to read what a record or an array encloses. -/
def Mode.inside (mode : Mode) : Mode :=
  { mode with room := mode.room - 1 }

namespace Document

-----------------------------------------------------------------------------------------
-- The fields of a record, by their keys or by their order
-----------------------------------------------------------------------------------------

/-- The value of a field in an object, if the key does not stand there twice. -/
def member? (field : Field) (members : List (Option String × Document))
    : Option (Option Document) :=
  match members.filter fun member => member.1 = some field.name with
  | [] => if field.lacking = .refused then none else some none
  | [member] => some (some member.2)
  | _ => none

/-- The values of the fields as an array gives them, if it has no more items than fields. -/
def itemsOfFields? : List Field → List Document → Option (List (Option Document))
  | [], [] => some []
  | [], _ :: _ => none
  | field :: fields, [] =>
    if field.lacking = .allowed then (itemsOfFields? fields []).map (none :: ·) else none
  | _ :: fields, item :: items => (itemsOfFields? fields items).map (some item :: ·)

/-- The values of the fields of a record, absent where the record may and does lack them. -/
def fields? (fields : List Field) : Document → Option (List (Option Document))
  | object members =>
    if members.all (·.1.isSome) then fields.mapM (member? · members) else none
  | array items => itemsOfFields? fields items
  | _ => none

-----------------------------------------------------------------------------------------
-- Single values
-----------------------------------------------------------------------------------------

/-- A text. -/
def text? : Document → Option String
  | string value => value
  | _ => none

/-- A truth value. -/
def truth? : Document → Option Bool
  | bool value => some value
  | _ => none

/-- An integer, in integer notation. -/
def integer? : Document → Option Int
  | number numeral =>
    match numeral.toNumber? with
    | some (.integer value) => some value
    | _ => none
  | _ => none

/-- An integer of 64 bits with a sign. -/
def signed? (document : Document) : Option Int :=
  document.integer?.filter fun value => Decimal.fitsInteger64 value

/-- An integer of 64 bits without a sign. -/
def unsigned? (document : Document) : Option Nat :=
  document.integer?.bind fun value => if 0 ≤ value then some value.toNat else none

/-- Reads null as nothing, and everything else by a reader. -/
def orNull? {α : Type} (read : Document → Option α) : Document → Option (Option α)
  | null => some none
  | document => (read document).map some

/-- The items of an array, each read by a reader. -/
def list? {α : Type} (read : Document → Option α) : Document → Option (List α)
  | array items => items.mapM read
  | _ => none

-----------------------------------------------------------------------------------------
-- Choices and tags
-----------------------------------------------------------------------------------------

/-- The name of a choice: a text, or an object that gives it null, where the mode allows it also
an empty object.
-/
def choice? (mode : Mode) : Document → Option String
  | string name => name
  | object [(name, null)] => name
  | object [(name, object [])] => if mode.emptyIsNull then name else none
  | _ => none

/-- One of the tags of a tagged record: its text, or where the mode allows it its number in the
list.
-/
def tag? (mode : Mode) (tags : List String) : Document → Option String
  | string tag => tag.filter (· ∈ tags)
  | document => if mode.numbered then document.unsigned?.bind (tags[·]?) else none

/-- Whether a document is a well-formed value all through. -/
def isSound (document : Document) : Bool :=
  (document.toJson? maxDepth).isSome

/-- Takes the tag of a tagged record apart from its fields: the one member of the tag's key, or
the first item of an array. The whole document has to be sound.
-/
def tagged? (mode : Mode) (key : String) (tags : List String) (document : Document)
    : Option (String × Document) :=
  if !document.isSound then none
  else match document with
    | object members =>
      match members.filter fun member => member.1 = some key with
      | [(_, tag)] =>
        (tag? mode tags tag).map (·, object (members.filter fun member => member.1 ≠ some key))
      | _ => none
    | array (tag :: items) => (tag? mode tags tag).map (·, array items)
    | _ => none

end Document

end ValueHistory.Json
