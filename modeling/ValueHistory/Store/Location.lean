import ValueHistory.Text.Hex
import ValueHistory.Text.Split

/-! Where a database is kept, as a text tells it: the path of a file, a name for a database in
memory alone, or an address with options that begins with `file:`.
-/

namespace ValueHistory

/-- What may be done with the file of a database: it is only read, it is changed as well, or it is
even made if it is not there.
-/
inductive Access where
  | reading
  | changing
  | making
deriving DecidableEq, Repr

/-- Where a database is kept: nowhere, so that it ends with its use, or in a file. -/
inductive Location where
  | nowhere
  | file (path : String) (access : Access)
deriving DecidableEq, Repr

namespace Location

/-- A place by its path; no path and one special path mean no file. -/
def ofPath (path : String) (access : Access) : Location :=
  if path = "" || path = ":memory:" then .nowhere else .file path access

-----------------------------------------------------------------------------------------
-- Addresses
-----------------------------------------------------------------------------------------

/-- The bytes of a part of an address. A percent sign with two hexadecimal digits is one byte, and
the part ends before a zero byte.
-/
def bytesOf : List Char → Bytes
  | '%' :: high :: low :: rest =>
    match Hex.value? high, Hex.value? low with
    | some high, some low =>
      if high = 0 && low = 0 then [] else UInt8.ofNat (16 * high + low) :: bytesOf rest
    | _, _ => Bytes.ofString "%" ++ bytesOf (high :: low :: rest)
  | c :: rest => Bytes.ofString (String.singleton c) ++ bytesOf rest
  | [] => []

/-- The text of a part of an address. -/
def textOf? (part : List Char) : Option String :=
  (bytesOf part).toString?

/-- What the options of an address have told so far: whether memory is wanted in place of a file,
whether the files of the system are passed by altogether, and what may be done with the file.
-/
structure Options where
  inMemory : Bool := false
  withoutFiles : Bool := false
  access : Access := .making
deriving DecidableEq, Repr

/-- Whether one way to use a file allows nothing that another one does not. -/
def isWithin : Access → Access → Bool
  | .reading, _ => true
  | .changing, access => access ≠ .reading
  | .making, access => access = .making

/-- Takes the option that restricts the use of the file. Memory can always be had in its place, and
after it any use of the file again.
-/
def Options.restrict? (options : Options) (mode : String) : Option Options :=
  let restricted (access : Access) : Option Options :=
    if options.inMemory || isWithin access options.access then
      some { options with inMemory := false, access }
    else none
  if mode = "memory" then some { options with inMemory := true }
  else if mode = "ro" then restricted .reading
  else if mode = "rw" then restricted .changing
  else if mode = "rwc" then restricted .making
  else none

/-- Takes the option that names the file system. -/
def Options.keepIn? (options : Options) (system : String) : Option Options :=
  if system = "memdb" then some { options with withoutFiles := true }
  else if ["unix", "unix-dotfile", "unix-excl", "unix-none"].contains system then
    some { options with withoutFiles := false }
  else none

/-- Takes one option. Three of them have fixed values, and unknown options do nothing. -/
def Options.take? (options : Options) (option : List Char) : Option Options :=
  let value? := textOf? ((option.dropWhile (· ≠ '=')).drop 1)
  match textOf? (option.takeWhile (· ≠ '=')) with
  | some "mode" => value?.bind options.restrict?
  | some "vfs" => value?.bind options.keepIn?
  | some "cache" => if value? = some "shared" || value? = some "private" then some options else none
  | _ => some options

/-- The place of an address after its scheme. Only this machine may be named before the path, and
what follows a number sign does not count.
-/
def ofAddress? (address : List Char) : Option Location := do
  let path ← match address with
    | '/' :: '/' :: rest =>
      let host := rest.takeWhile (· ≠ '/')
      if host.isEmpty || host = "localhost".toList then some (rest.dropWhile (· ≠ '/')) else none
    | path => some path
  let path := path.takeWhile (· ≠ '#')
  let query := (path.dropWhile (· ≠ '?')).drop 1
  let options ← (Text.split '&' query).foldlM Options.take? {}
  let path ← textOf? (path.takeWhile (· ≠ '?'))
  some
    (if options.inMemory || options.withoutFiles then .nowhere else ofPath path options.access)

/-- The place that a text tells; none for an address that makes no sense. -/
def ofText? (text : String) : Option Location :=
  match text.toList with
  | 'f' :: 'i' :: 'l' :: 'e' :: ':' :: address => ofAddress? address
  | _ => some (ofPath text .making)

end Location

end ValueHistory
