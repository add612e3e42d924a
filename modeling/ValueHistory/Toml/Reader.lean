import ValueHistory.Toml.Scalar
import ValueHistory.Toml.Tree

/-! Reading documents in TOML. Arrays and inline tables may go over several lines, with comments
and a comma after the last item. The headers and keys outside of them stay on their lines.
-/

namespace ValueHistory.Toml

-----------------------------------------------------------------------------------------
-- Blanks, comments and keys
-----------------------------------------------------------------------------------------

/-- The greatest number of arrays and inline tables inside one another. -/
def maxNesting : Nat := 80

/-- The greatest number of parts of a key. -/
def maxKeyParts : Nat := 80

/-- Skips blanks on one line. -/
def skipBlanks (text : List Char) : List Char :=
  text.dropWhile fun c => c = ' ' || c = '\t'

/-- Skips a comment, if there is one, up to the line end. -/
def skipComment (text : List Char) : List Char :=
  match text with
  | '#' :: rest => rest.dropWhile isPlain
  | text => text

/-- Skips blanks, comments and line ends. -/
def skipSpace : Nat → List Char → List Char
  | 0, text => text
  | fuel + 1, text =>
    let text := skipComment (skipBlanks text)
    match lineEnd? text with
    | some rest => skipSpace fuel rest
    | none => text

/-- Skips blanks, comments and line ends as far as they go. -/
def skipAll (text : List Char) : List Char :=
  skipSpace (text.length + 1) text

/-- The characters of keys without quotes. -/
def isBare (c : Char) : Bool :=
  c.isAlphanum || c = '_' || c = '-'

/-- Reads one part of a key. -/
def readKeyPart? (text : List Char) : Option (String × List Char) :=
  match text with
  | [] => none
  | c :: rest =>
    if c = '\x22' || c = '\x27' then
      (readLine? c (c = '\x22') rest.length rest).map fun (part, rest) => (String.ofList part, rest)
    else
      let part := text.takeWhile isBare
      if part.isEmpty then none else some (String.ofList part, text.dropWhile isBare)

/-- Reads the parts of a key, with the last one and the text after it apart. The fuel is the
greatest number of parts.
-/
def readKeyParts? : Nat → List Char → Option (List String × String × List Char)
  | 0, _ => none
  | fuel + 1, text => do
    let (part, text) ← readKeyPart? (skipBlanks text)
    match skipBlanks text with
    | '.' :: rest =>
      let (path, key, rest) ← readKeyParts? fuel rest
      some (part :: path, key, rest)
    | rest => some ([], part, rest)

/-- Reads a key as its tables and its last part. -/
def readKey? (text : List Char) : Option (List String × String × List Char) :=
  readKeyParts? maxKeyParts text

-----------------------------------------------------------------------------------------
-- Values, items and members bound each other by fuel
-----------------------------------------------------------------------------------------

mutual

/-- Reads a value below a number of arrays and inline tables. The fuel bounds the steps. -/
def readValue? (room : Nat) : Nat → List Char → Option (Toml × List Char)
  | 0, _ => none
  | fuel + 1, text =>
    match text with
    | [] => none
    | c :: rest =>
      if c = '\x22' || c = '\x27' then
        (readQuoted? text).map fun (value, rest) => (.string (String.ofList value), rest)
      else if c = '[' then
        if room = 0 then none
        else (readItems? (room - 1) fuel (skipAll rest)).map fun (items, rest) =>
          (.array items, rest)
      else if c = '\x7b' then
        if room = 0 then none
        else (readMembers? (room - 1) fuel [] (skipAll rest)).map fun (members, rest) =>
          (.table (finishMembers members), rest)
      else readUnquoted? text

/-- Reads the items of an array up to its closing bracket. -/
def readItems? (room : Nat) : Nat → List Char → Option (List Toml × List Char)
  | 0, _ => none
  | fuel + 1, text =>
    match text with
    | ']' :: rest => some ([], rest)
    | text => do
      let (item, text) ← readValue? room fuel text
      match skipAll text with
      | ',' :: rest =>
        let (items, rest) ← readItems? room fuel (skipAll rest)
        some (item :: items, rest)
      | ']' :: rest => some ([item], rest)
      | _ => none

/-- Reads the members of an inline table up to its closing brace. A key and its value may stand on
lines of their own.
-/
def readMembers? (room : Nat) : Nat → Members → List Char → Option (Members × List Char)
  | 0, _, _ => none
  | fuel + 1, members, text =>
    match text with
    | '\x7d' :: rest => some (members, rest)
    | text => do
      let (path, key, text) ← readKey? text
      let text ← Rfc3339.literal? '=' (skipAll text)
      let (value, text) ← readValue? room fuel (skipAll text)
      let members ← members.assign key value path
      match skipAll text with
      | ',' :: rest => readMembers? room fuel members (skipAll rest)
      | '\x7d' :: rest => some (members, rest)
      | _ => none

end

-----------------------------------------------------------------------------------------
-- The lines of a document
-----------------------------------------------------------------------------------------

/-- A document in the making: all its members, and the table that keys without a header go to. -/
structure Draft where
  members : Members := []
  path : List String := []

/-- Reads a header. -/
def readHeader? (draft : Draft) (text : List Char) : Option (Draft × List Char) :=
  match text with
  | '[' :: rest => do
    let (path, key, text) ← readKey? rest
    let text ← Rfc3339.literal? ']' text
    let text ← Rfc3339.literal? ']' text
    let members ← draft.members.openItem path key
    some ({ members, path := path ++ [key] }, text)
  | text => do
    let (path, key, text) ← readKey? text
    let text ← Rfc3339.literal? ']' text
    let members ← draft.members.openTable path key
    some ({ members, path := path ++ [key] }, text)

/-- Reads a key with its value. -/
def readPair? (draft : Draft) (text : List Char) : Option (Draft × List Char) := do
  let (path, key, text) ← readKey? text
  let text ← Rfc3339.literal? '=' text
  let text := skipBlanks text
  let (value, text) ← readValue? maxNesting (2 * text.length + 2) text
  let members ← draft.members.below (fun members => members.assign key value path) draft.path
  some ({ draft with members }, text)

/-- Reads lines up to the end of the text. After a header or a value the line has to end. -/
def readLinesOf? : Nat → Draft → List Char → Option Draft
  | 0, _, _ => none
  | fuel + 1, draft, text =>
    match skipAll text with
    | [] => some draft
    | text =>
      let read := match text with
        | '[' :: rest => readHeader? draft rest
        | text => readPair? draft text
      match read with
      | none => none
      | some (draft, text) =>
        match skipComment (skipBlanks text) with
        | [] => some draft
        | text =>
          match lineEnd? text with
          | some rest => readLinesOf? fuel draft rest
          | none => none

/-- Reads a document, as the members of its root table. A byte order mark at its beginning is
passed over.
-/
def read? (text : List Char) : Option Toml :=
  let text := match text with
    | '\uFEFF' :: rest => rest
    | text => text
  (readLinesOf? (text.length + 1) {} text).map fun draft => .table (finishMembers draft.members)

end ValueHistory.Toml
