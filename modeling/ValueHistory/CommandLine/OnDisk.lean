import ValueHistory.CommandLine.Run
import ValueHistory.Disk

/-! Runs on a model of the file system, at a given moment and with the whole input at hand. -/

namespace ValueHistory

/-- The session on an input that is there from the beginning. Workers do nothing before its end. -/
def Session.ofInput (complaint : List Char → String) (moment : Moment) (input : Bytes)
    (session : Session) : List Json × Bool × Session :=
  let (responses, complete, session) :=
    session.run complaint (fun _ => moment) (fun _ => {}) 0 (Session.lines input)
  (responses.filterMap Response.toJson?, complete, session)

/-- A file system model as the surroundings of a run. -/
def Disk.surroundings (environment : Environment) (keys : Nat → String)
    (complaint : List Char → String) (moment : Moment) (input : Bytes)
    : Surroundings (StateM Disk) :=
  { environment, keys
    exists? := fun path => return (← get).exists? path
    read? := fun path => return (← get).read? path
    openDatabase := fun path => modifyGet fun disk => disk.openDatabase path
    saveDatabase := fun path database => modify fun disk => disk.saveDatabase path database
    moment := return moment
    serve := fun session => return session.ofInput complaint moment input }

end ValueHistory
