import ValueHistory.Store.Database
import ValueHistory.Text.PathName

/-! A file system as far as the service is concerned with it: directories, plain files, and files
that hold a database.
-/

namespace ValueHistory

/-- The names from the root of the file system down to a file. -/
abbrev Path := List String

/-- What stands at a path. -/
inductive DiskNode where
  | directory
  | file (content : Bytes)
  | database (database : Database)

/-- The file system, with the directory that relative paths begin at. The root is always there. -/
structure Disk where
  nodes : OrderedMap Path DiskNode := .empty
  current : Path := []

/-- Where a path leads: to something, to nothing in a directory that is there, to nothing because a
directory on the way is not there, or nowhere because something on the way cannot be passed.
-/
inductive Place where
  | found (path : Path)
  | free (path : Path)
  | missing
  | barred
deriving DecidableEq, Repr

namespace Disk

-----------------------------------------------------------------------------------------
-- Paths are followed name by name
-----------------------------------------------------------------------------------------

/-- The greatest size of a name in bytes. -/
def maxName : Nat := 255

/-- The greatest size of the text of a path in bytes. -/
def maxText : Nat := 4095

/-- What stands at a path, if anything does. -/
def node? (disk : Disk) (path : Path) : Option DiskNode :=
  if path.isEmpty then some .directory else disk.nodes.get? path

/-- Whether a directory stands at a path. -/
def isDirectory (disk : Disk) (path : Path) : Bool :=
  match disk.node? path with
  | some .directory => true
  | _ => false

/-- The directory that the path of a text begins at. -/
def start (disk : Disk) (text : String) : Path :=
  if PathName.isAbsolute text then [] else disk.current

/-- Follows names from a directory. Only a directory can be passed, also on the way back to the one
above it.
-/
def walk (disk : Disk) (path : Path) : List String → Place
  | [] => .found path
  | name :: rest =>
    let next := path ++ [name]
    if name = ".." then walk disk path.dropLast rest
    else if maxName < name.utf8ByteSize then .barred
    else match disk.node? next with
      | some .directory => walk disk next rest
      | some _ => if rest.isEmpty then .found next else .barred
      | none => if rest.isEmpty then .free next else .missing

/-- Whether a text can be a path at all. -/
def isPath (text : String) : Bool :=
  text ≠ "" && text.utf8ByteSize ≤ maxText && !text.toList.contains '\x00'

/-- Where the path of a text leads. The path of a directory does not lead to a file. -/
def locate (disk : Disk) (text : String) : Place :=
  if isPath text then
    match disk.walk (disk.start text) (PathName.names text) with
    | .found path =>
      if PathName.meansDirectory text && !disk.isDirectory path then .barred else .found path
    | place => place
  else .barred

/-- What stands where a text points. -/
def at? (disk : Disk) (text : String) : Option DiskNode :=
  match disk.locate text with
  | .found path => disk.node? path
  | _ => none

/-- Whether anything stands where a text points. -/
def exists? (disk : Disk) (text : String) : Bool :=
  (disk.at? text).isSome

/-- Whether a file of either kind stands where a text points. -/
def isFile (disk : Disk) (text : String) : Bool :=
  match disk.at? text with
  | some (.file _) | some (.database _) => true
  | _ => false

-----------------------------------------------------------------------------------------
-- Plain files and directories
-----------------------------------------------------------------------------------------

/-- The content of the plain file where a text points. -/
def read? (disk : Disk) (text : String) : Option Bytes :=
  match disk.at? text with
  | some (.file content) => some content
  | _ => none

/-- Puts a node at a path. -/
def put (disk : Disk) (path : Path) (node : DiskNode) : Disk :=
  { disk with nodes := disk.nodes.insert path node }

/-- Makes the directories of names from a directory on, as far as nothing is in the way. It is told
whether all of them are there now.
-/
def makeBelow (disk : Disk) (path : Path) : List String → Bool × Disk
  | [] => (true, disk)
  | name :: rest =>
    let next := path ++ [name]
    if name = ".." then makeBelow disk path.dropLast rest
    else if maxName < name.utf8ByteSize then (false, disk)
    else match disk.node? next with
      | some .directory => makeBelow disk next rest
      | some _ => (false, disk)
      | none => makeBelow (disk.put next .directory) next rest

/-- Makes the directory of a file, unless anything is there. -/
def makeParent (disk : Disk) (text : String) : Bool × Disk :=
  let parent := PathName.parent text
  if parent = "" then (true, disk)
  else match disk.locate parent with
    | .found _ => (true, disk)
    | .barred => (false, disk)
    | _ => disk.makeBelow (disk.start parent) (PathName.names parent)

/-- Writes a plain file, making the directories it lies in. -/
def write? (disk : Disk) (text : String) (content : Bytes) : Option Disk :=
  match disk.makeParent text with
  | (false, _) => none
  | (true, disk) =>
    match disk.locate text with
    | .found path => if disk.isDirectory path then none else some (disk.put path (.file content))
    | .free path =>
      if PathName.meansDirectory text then none else some (disk.put path (.file content))
    | _ => none

-----------------------------------------------------------------------------------------
-- Databases
-----------------------------------------------------------------------------------------

/-- The greatest size of the path of a database in bytes, with the slash before each name. -/
def maxDatabasePath : Nat := 512

/-- What the files beside a database, in which changes under way are kept, add to its name. -/
def companions : List String := ["-journal", "-wal", "-shm"]

/-- The size of a path in bytes, with the slash before each name. -/
def pathSize (path : Path) : Nat :=
  path.foldl (fun size name => size + 1 + name.utf8ByteSize) 0

/-- Adds a name to the path of a database. Two dots take the last name away, whatever stands there;
any other name must lead somewhere or be free.
-/
def extend? (disk : Disk) (path : Path) (name : String) : Option Path :=
  let next := path ++ [name]
  if name = ".." then some path.dropLast
  else if maxDatabasePath ≤ pathSize next || disk.walk [] next = .barred then none
  else some next

/-- Whether a file of changes under way can be kept at a path. -/
def canAccompany (disk : Disk) (path : Path) : Bool :=
  pathSize path ≤ maxDatabasePath && path.all (fun name => name.utf8ByteSize ≤ maxName)
    && !disk.isDirectory path

/-- The path of a database. There must be room for the files beside it, which have longer names. -/
def databasePath? (disk : Disk) (text : String) : Option Path := do
  if text.toList.contains '\x00' then none
  let path ← (PathName.names text).foldlM disk.extend? (disk.start text)
  let name ← path.getLast?
  if companions.all fun added => disk.canAccompany (path.dropLast ++ [name ++ added]) then
    some path
  else none

/-- The database in the file at a path. A file of one byte at most is a database that nobody has
written to, and so is a new file; no other plain file is one.
-/
def databaseAt (disk : Disk) (path : Path) (access : Access) : Except StoreFailure Database :=
  match disk.walk [] path with
  | .free _ => if access = .making then .ok .blank else .error .database
  | .found path =>
    match disk.node? path with
    | some (.database database) => .ok database
    | some (.file content) => if content.length ≤ 1 then .ok .blank else .error .database
    | _ => .error .database
  | _ => .error .database

/-- Opens the database where a text points, if its directory is there. -/
def databaseOf (disk : Disk) (text : String) : Except StoreFailure Database :=
  match Location.ofText? text with
  | none => .error .database
  | some .nowhere => .ok .blank
  | some (.file path access) =>
    match disk.databasePath? path with
    | none => .error .database
    | some path => (disk.databaseAt path access).bind (Database.under access)

/-- Opens the database where a text points, after the directory that it names has been made. -/
def openDatabase (disk : Disk) (text : String) : Except StoreFailure Database × Disk :=
  let (made, disk) := disk.makeParent text
  (if made then disk.databaseOf text else .error .createDirectory, disk)

/-- Keeps a database in the file that a path leads to. -/
def keepAt (disk : Disk) (path : Path) (database : Database) : Disk :=
  match disk.walk [] path with
  | .found path | .free path => disk.put path (.database database)
  | _ => disk

/-- Keeps a database where a text points. -/
def saveDatabase (disk : Disk) (text : String) (database : Database) : Disk :=
  match Location.ofText? text with
  | some (.file path access) =>
    match disk.databasePath? path with
    | some path => if access = .reading then disk else disk.keepAt path database
    | none => disk
  | _ => disk

end Disk

end ValueHistory
