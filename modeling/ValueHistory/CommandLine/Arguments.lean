import ValueHistory.Affordance
import ValueHistory.Text.Decimal
import ValueHistory.Text.Split
import ValueHistory.Time.Rfc3339

/-! The arguments of the command line: three options that may stand before or after the command,
and a command with its own words and options. The arguments are judged one by one in their order, so
a request for help is heard only if nothing before it is wrong.
-/

namespace ValueHistory

/-- A command. -/
inductive Command where
  | serve
  | read (thing : String) (name : Option String) (start : Option Timestamp) (seconds limit : Int)
  | add (thing name data : String) (affordance : Affordance) (sender : String)
      (time : Option Timestamp)

/-- What the arguments ask for. -/
structure Invocation where
  settings : Option String
  database : Option String
  backend : Option String
  command : Command

/-- The meaning of arguments: a command to run, a request for help or for the version, or nothing
that makes sense.
-/
inductive Arguments where
  | run (invocation : Invocation)
  | help
  | version
  | refused

namespace Arguments

-----------------------------------------------------------------------------------------
-- Options and words of one level
-----------------------------------------------------------------------------------------

/-- An option, by its long name and possibly a letter, with a test of its values. A value that
begins with a hyphen must be joined to the option, except a negative number where one is expected.
-/
structure Flag where
  name : String
  letter : Option Char := none
  negative : Bool := false
  accepts : String → Bool := fun _ => true

/-- What may stand at one level of the arguments: options, commands, a number of words, and perhaps
the request for the version.
-/
structure Level where
  flags : List Flag
  commands : List String := []
  words : Nat := 0
  tellsVersion : Bool := false

/-- What has been found at one level of the arguments: options with their values, words, and the
command with the arguments that follow it.
-/
structure Found where
  values : List (String × String) := []
  words : List String := []
  command : Option (String × List String) := none

/-- Why the arguments of a level are not taken further apart: help or the version is asked for, or
they are wrong.
-/
inductive Stop where
  | help
  | version
  | refused
deriving DecidableEq, Repr

/-- Whether a text can be the value of an option that it is not joined to. -/
def isValue (flag : Flag) (text : String) : Bool :=
  match text.toList with
  | '-' :: c :: _ => flag.negative && c.isDigit
  | _ => true

/-- The value of an option. -/
def Found.value? (found : Found) (name : String) : Option String :=
  (found.values.find? fun value => value.1 = name).map (·.2)

/-- Notes an option with its value. It must be the first one, and a value that makes sense. -/
def Found.note (found : Found) (flag : Flag) (value : String) : Except Stop Found :=
  if (found.value? flag.name).isSome || !flag.accepts value then .error .refused
  else .ok { found with values := found.values ++ [(flag.name, value)] }

/-- Notes words, if the level has room for them. -/
def Found.noteWords (found : Found) (level : Level) (words : List String) : Except Stop Found :=
  if level.words < found.words.length + words.length then .error .refused
  else .ok { found with words := found.words ++ words }

/-- How an argument is to be taken: as a word, an option whose value follows, an option with its
value, a request that ends the reading, the mark after which all are words, or as nothing that is
known.
-/
inductive Token where
  | word
  | option (flag : Flag)
  | joined (flag : Flag) (value : String)
  | request (stop : Stop)
  | mark
  | unknown

/-- Takes an argument by its beginning. A request has no value. -/
def token (level : Level) (argument : String) : Token :=
  match argument.toList with
  | ['-', '-'] => .mark
  | '-' :: '-' :: body =>
    let name := String.ofList (body.takeWhile (· ≠ '='))
    let value? := match body.dropWhile (· ≠ '=') with
      | [] => none
      | _ :: value => some (String.ofList value)
    match level.flags.find? (fun flag => flag.name = name), value? with
    | some flag, some value => .joined flag value
    | some flag, none => .option flag
    | none, some _ => .unknown
    | none, none =>
      if name = "help" then .request .help
      else if name = "version" && level.tellsVersion then .request .version
      else .unknown
  | '-' :: c :: body =>
    match level.flags.find? (fun flag => flag.letter = some c), body with
    | some flag, [] => .option flag
    | some flag, '=' :: value => .joined flag (String.ofList value)
    | some flag, value => .joined flag (String.ofList value)
    | none, _ =>
      if c = 'h' then .request .help
      else if c = 'V' && level.tellsVersion then .request .version
      else .unknown
  | _ => .word

/-- Takes the arguments of a level apart, up to a command if the level has any. -/
def scan (level : Level) (found : Found) : List String → Except Stop Found
  | [] => .ok found
  | argument :: rest =>
    if level.commands.contains argument then .ok { found with command := some (argument, rest) }
    else match token level argument with
      | .word => do scan level (← found.noteWords level [argument]) rest
      | .mark => found.noteWords level rest
      | .request stop => .error stop
      | .unknown => .error .refused
      | .joined flag value => do scan level (← found.note flag value) rest
      | .option flag =>
        match rest with
        | value :: rest =>
          if isValue flag value then do scan level (← found.note flag value) rest
          else .error .refused
        | [] => .error .refused

-----------------------------------------------------------------------------------------
-- The values of options
-----------------------------------------------------------------------------------------

/-- A time in its notation. -/
def time? (text : String) : Option Timestamp :=
  Rfc3339.read? text.toList

/-- A 64-bit integer. -/
def number? (text : String) : Option Int :=
  Decimal.integer64? text.toList

/-- The options that may stand anywhere. -/
def everywhere : List Flag :=
  [ { name := "config", letter := 'c', accepts := (· ≠ "") }
  , { name := "database", letter := 'd', accepts := (· ≠ "") }
  , { name := "backend", letter := 'b' } ]

/-- The options of the command to read. -/
def readFlags : List Flag :=
  [ { name := "name" }
  , { name := "from", accepts := fun text => (time? text).isSome }
  , { name := "duration", negative := true, accepts := fun text => (number? text).isSome }
  , { name := "limit", accepts := fun text => (number? text).isSome } ]

/-- The options of the command to add. -/
def addFlags : List Flag :=
  [ { name := "affordance-type", accepts := fun text => (Affordance.ofName? text).isSome }
  , { name := "sender" }
  , { name := "timestamp", accepts := fun text => (time? text).isSome } ]

-----------------------------------------------------------------------------------------
-- The commands
-----------------------------------------------------------------------------------------

/-- The names of the commands. -/
def commands : List String := ["serve", "read", "add", "help"]

/-- The level before the command. -/
def outermost : Level :=
  { flags := everywhere, commands, tellsVersion := true }

/-- The level after each command, apart from the one for help. -/
def level? (command : String) : Option Level :=
  if command = "serve" then some { flags := everywhere }
  else if command = "read" then some { flags := everywhere ++ readFlags, words := 1 }
  else if command = "add" then some { flags := everywhere ++ addFlags, words := 3 }
  else none

/-- The command to read a Thing's values. -/
def read (found : Found) : Except Stop Command :=
  match found.words with
  | [thing] =>
    let seconds := (found.value? "duration").bind number?
    let limit := (found.value? "limit").bind number?
    .ok
      (.read thing (found.value? "name") ((found.value? "from").bind time?)
        (seconds.getD (-3600)) (limit.getD 0))
  | _ => .error .refused

/-- The command to add a value. -/
def add (found : Found) : Except Stop Command :=
  match found.words with
  | [thing, name, data] =>
    let affordance := (found.value? "affordance-type").bind Affordance.ofName?
    .ok
      (.add thing name data (affordance.getD .property)
        ((found.value? "sender").getD "cli") ((found.value? "timestamp").bind time?))
  | _ => .error .refused

/-- The command of a name, by what was found after it. -/
def command (name : String) (found : Found) : Except Stop Command :=
  if name = "read" then read found
  else if name = "add" then add found
  else .ok .serve

/-- What the command for help is asked: help in general or on one command. -/
def helpOn : List String → Stop
  | [] => .help
  | [name] => if commands.contains name then .help else .refused
  | _ => .refused

/-- What the arguments ask for. Without a command it is to serve; an option after the command goes
before the same option ahead of it.
-/
def invocation (arguments : List String) : Except Stop Invocation := do
  let outer ← scan outermost {} arguments
  let (name, rest) := outer.command.getD ("serve", [])
  match level? name with
  | none => .error (helpOn rest)
  | some level =>
    let inner ← scan level {} rest
    let either (option : String) : Option String := inner.value? option <|> outer.value? option
    return {
      settings := either "config"
      database := either "database"
      backend := either "backend"
      command := ← command name inner
    }

/-- Takes the arguments apart. -/
def ofList (arguments : List String) : Arguments :=
  match invocation arguments with
  | .ok invocation => .run invocation
  | .error .help => .help
  | .error .version => .version
  | .error .refused => .refused

end Arguments

end ValueHistory
