import Std.Time.DateTime.Timestamp
import ValueHistory.CommandLine.Keys
import ValueHistory.CommandLine.Run
import ValueHistory.Json.Pretty
import ValueHistory.Store.Image
import ValueHistory.Text.PathName

/-! The command line program: real files, real clocks, and sessions on standard input and output. -/

namespace ValueHistory

-----------------------------------------------------------------------------------------
-- Clocks and files
-----------------------------------------------------------------------------------------

/-- The clocks now. -/
def readClocks : IO Moment := do
  let now ← Std.Time.Timestamp.now
  let ticks ← IO.monoNanosNow
  let time := Timestamp.ofNanos? now.toNanosecondsSinceUnixEpoch.toInt 0
  return { now := time.getD .epoch, ticks }

/-- Whether a path can be opened. -/
def canOpen (path : String) : IO Bool := do
  try
    let _ ← IO.FS.Handle.mk path .read
    return true
  catch _ => return false

/-- The content of a file, if it can be read. -/
def contentOf? (path : String) : IO (Option Bytes) := do
  try
    let content ← IO.FS.readBinFile path
    return some content.data.toList
  catch _ => return none

/-- Makes sure that the directory of a file is there. -/
def makeParent (path : String) : IO Bool := do
  let parent := PathName.parent path
  if parent = "" || (← canOpen parent) then return true
  else
    try
      IO.FS.createDirAll parent
      return true
    catch _ => return false

/-- Keeps a database in a file, if it is in one that may be changed. -/
def saveFile (place : String) (database : Database) : IO Unit := do
  match Location.ofText? place with
  | some (.file path access) =>
    if access ≠ .reading then IO.FS.writeBinFile path ⟨database.toFile.toArray⟩
  | _ => return

/-- Opens the database in a file, or a new one. -/
def openFile (place : String) : IO (Except StoreFailure Database) := do
  if !(← makeParent place) then return .error .createDirectory
  else match Location.ofText? place with
    | none => return .error .database
    | some .nowhere => return .ok .blank
    | some (.file path access) =>
      match ← contentOf? path with
      | some content => return (Database.ofFile content).bind (Database.under access)
      | none =>
        if access ≠ .making || (← canOpen path) then return .error .database
        else
          try
            saveFile place .blank
            return .ok .blank
          catch _ => return .error .database

-----------------------------------------------------------------------------------------
-- Sessions
-----------------------------------------------------------------------------------------

/-- One line of standard input, or nothing where it is not text. -/
def nextLine? (input : IO.FS.Stream) : IO (Option String) := do
  try
    let line ← input.getLine
    return some line
  catch _ => return none

/-- What a client is told of a line that is no document. -/
def complaint : List Char → String :=
  fun _ => "the line is not JSON"

/-- Answers lines as they come, and lets the workers and the sweeper do their work between them. -/
partial def serveLines (input output : IO.FS.Stream) (session : Session)
    : IO (List Json × Bool × Session) := do
  match ← nextLine? input with
  | none => return ([], false, session)
  | some "" => return ([], true, session)
  | some line =>
    let moment ← readClocks
    let (response, session) := session.line complaint moment line
    match response.bind Response.toJson? with
    | some json =>
      output.putStrLn json.compact
      output.flush
    | none => pure ()
    let steps := (List.range session.recorder.workers.length).map fun worker => (moment, worker)
    let session := session.work (steps ++ steps)
    let (_, history) := session.history.sweep moment
    serveLines input output { session with history }

/-- The surroundings of the program. -/
def surroundings : IO (Surroundings IO) := do
  let seed ← IO.getRandomBytes 16
  let home := (← IO.getEnv "HOME").getD ""
  let dataHome ← IO.getEnv "XDG_DATA_HOME"
  let settingsHome ← IO.getEnv "XDG_CONFIG_HOME"
  let input ← IO.getStdin
  let output ← IO.getStdout
  return {
    environment := { home, dataHome, settingsHome }
    keys := cursorKey (seed.data.toList.foldl (fun total byte => 256 * total + byte.toNat) 0)
    exists? := canOpen
    read? := contentOf?
    openDatabase := openFile
    saveDatabase := saveFile
    moment := readClocks
    serve := serveLines input output
  }

/-- The text of the request for help. -/
def usage : String :=
  "thingstore [-c FILE] [-d FILE] [-b BACKEND] [serve | read THING | add THING NAME DATA]"

/-- The answer to the request for the version. -/
def versionText : String :=
  "thingstore 0.1.0"

end ValueHistory

open ValueHistory in
def main (arguments : List String) : IO UInt32 := do
  match Arguments.ofList arguments with
  | .help =>
    IO.println usage
    return 0
  | .version =>
    IO.println versionText
    return 0
  | .refused =>
    IO.eprintln usage
    return 2
  | .run invocation =>
    let ending ← invocation.run (← surroundings)
    for json in ending.output do
      IO.println json.pretty
    match ending.problem with
    | none => return 0
    | some problem =>
      IO.eprintln ("Error: " ++ problem.message)
      return (UInt32.ofNat problem.code)
