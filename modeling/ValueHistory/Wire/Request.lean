import ValueHistory.Service.Request
import ValueHistory.Wire.Observation

/-! Requests and responses as JSON documents. Both are tagged records: the field `op` of a request
tells the operation, the field `status` of a response the kind of answer.
-/

namespace ValueHistory

open Json (Document Mode)

namespace Request

/-- The operations, in the order of their numbers. -/
def operations : List String :=
  [ "create_cursor", "first", "last", "next", "prev", "next_n", "prev_n", "seek"
  , "release_cursor", "read_history" ]

/-- A text or null; a missing field is null too. -/
def nameOf? : Option Document → Option (Option String)
  | none => some none
  | some document => document.orNull? Document.text?

/-- A 64-bit integer with a sign; a missing field is zero. -/
def numberOf? : Option Document → Option Int
  | none => some 0
  | some document => document.signed?

/-- Reads a call that has no argument but the cursor. -/
def readCall? (call : CursorCall) (document : Document) : Option Request := do
  match ← document.fields? [{ name := "cursor_key" }] with
  | [some key] => some (.onCursor (← key.text?) call)
  | _ => none

/-- Reads a call for a page. -/
def readPage? (direction : Direction) (document : Document) : Option Request := do
  let fields : List Json.Field :=
    [{ name := "cursor_key" }, { name := "until" }, { name := "limit", lacking := .allowed }]
  match ← document.fields? fields with
  | [some key, some bound, limit] =>
    let bound ← Timestamp.ofDocument? bound
    some (.onCursor (← key.text?) (.page direction bound (← numberOf? limit)))
  | _ => none

/-- Reads a call that moves a cursor to a time. -/
def readSeek? (document : Document) : Option Request := do
  match ← document.fields? [{ name := "cursor_key" }, { name := "timestamp" }] with
  | [some key, some time] =>
    some (.onCursor (← key.text?) (.seek (← Timestamp.ofDocument? time)))
  | _ => none

/-- Reads a request for a new cursor. -/
def readCreate? (document : Document) : Option Request := do
  match ← document.fields? [{ name := "thing_id" }, { name := "name", lacking := .allowed }] with
  | [some thing, name] => some (.create (← thing.text?) (← nameOf? name))
  | _ => none

/-- Reads a request for a range. -/
def readRange? (document : Document) : Option Request := do
  let fields : List Json.Field :=
    [ { name := "thing_id" }, { name := "name", lacking := .allowed }, { name := "timestamp" }
    , { name := "duration_secs", lacking := .allowed }, { name := "limit", lacking := .allowed } ]
  match ← document.fields? fields with
  | [some thing, name, some start, seconds, limit] =>
    let start ← Timestamp.ofDocument? start
    some (.read (← thing.text?) (← nameOf? name) start (← numberOf? seconds) (← numberOf? limit))
  | _ => none

/-- Reads the fields of an operation. -/
def ofFields? (operation : String) (document : Document) : Option Request :=
  if operation = "create_cursor" then readCreate? document
  else if operation = "first" then readCall? .first document
  else if operation = "last" then readCall? .last document
  else if operation = "next" then readCall? .next document
  else if operation = "prev" then readCall? .prev document
  else if operation = "next_n" then readPage? .forward document
  else if operation = "prev_n" then readPage? .backward document
  else if operation = "seek" then readSeek? document
  else if operation = "release_cursor" then readCall? .release document
  else readRange? document

/-- Reads a request. -/
def ofDocument? (mode : Mode) (document : Document) : Option Request :=
  (document.tagged? mode "op" operations).bind fun (operation, fields) =>
    ofFields? operation fields

/-- The members of a request that only names a cursor. -/
def callMembers (operation key : String) : List (String × Json) :=
  [("op", .string operation), ("cursor_key", .string key)]

/-- Writes a request. -/
def toJson? : Request → Option Json
  | create thing name =>
    some (.object
      [("op", .string "create_cursor"), ("thing_id", .string thing), ("name", .ofText? name)])
  | onCursor key .first => some (.object (callMembers "first" key))
  | onCursor key .last => some (.object (callMembers "last" key))
  | onCursor key .next => some (.object (callMembers "next" key))
  | onCursor key .prev => some (.object (callMembers "prev" key))
  | onCursor key .release => some (.object (callMembers "release_cursor" key))
  | onCursor key (.page direction bound limit) =>
    let operation := match direction with
      | .forward => "next_n"
      | .backward => "prev_n"
    bound.toJson?.map fun bound =>
      .object (callMembers operation key ++ [("until", bound), ("limit", .ofInt limit)])
  | onCursor key (.seek time) =>
    time.toJson?.map fun time => .object (callMembers "seek" key ++ [("timestamp", time)])
  | read thing name start seconds limit =>
    start.toJson?.map fun start =>
      .object
        [ ("op", .string "read_history"), ("thing_id", .string thing), ("name", .ofText? name)
        , ("timestamp", start), ("duration_secs", .ofInt seconds), ("limit", .ofInt limit) ]

end Request

namespace Response

/-- The kinds of answer. -/
def statuses : List String := ["cursor", "value", "page", "released", "error"]

/-- Reads the answer with a value. -/
def readValue? (mode : Mode) (document : Document) : Option Response := do
  match ← document.fields? [{ name := "value", lacking := .named }, { name := "valid" }] with
  | [found, some valid] =>
    let found ← match found with
      | none => some none
      | some document => document.orNull? (Observation.ofDocument? mode.inside)
    some (.value found (← valid.truth?))
  | _ => none

/-- Reads an answer of one text. -/
def readText? (field : String) (document : Document) : Option String := do
  match ← document.fields? [{ name := field }] with
  | [some text] => text.text?
  | _ => none

/-- Whether a document holds no items; any object will do. -/
def holdsNoItems : Document → Bool
  | .object _ => true
  | .array items => items.isEmpty
  | _ => false

/-- Reads the fields of a kind of answer. -/
def ofFields? (mode : Mode) (status : String) (document : Document) : Option Response :=
  if status = "cursor" then (readText? "cursor_key" document).map .cursor
  else if status = "value" then readValue? mode document
  else if status = "page" then (Page.ofDocument? mode document).map .page
  else if status = "released" then if holdsNoItems document then some .released else none
  else (readText? "message" document).map .error

/-- Reads a response. Below the tag an empty object counts as null. -/
def ofDocument? (mode : Mode) (document : Document) : Option Response :=
  (document.tagged? mode "status" statuses).bind fun (status, fields) =>
    ofFields? { mode with emptyIsNull := true } status fields

/-- Writes a response. -/
def toJson? : Response → Option Json
  | cursor key => some (.object [("status", .string "cursor"), ("cursor_key", .string key)])
  | value found valid =>
    (Observation.orNull? found).map fun found =>
      .object [("status", .string "value"), ("value", found), ("valid", .bool valid)]
  | page content =>
    content.members?.map fun members => .object (("status", .string "page") :: members)
  | released => some (.object [("status", .string "released")])
  | error message => some (.object [("status", .string "error"), ("message", .string message)])

end Response

end ValueHistory
