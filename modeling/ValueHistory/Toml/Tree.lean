import ValueHistory.Toml.Basic

/-! Tables in the making. A table can be written in parts all over a document, under a header of
its own, through the headers of its subtables or through keys with dots, and which of these may go
together depends on how it was begun.
-/

namespace ValueHistory.Toml

/-- How a table was begun: by its own header, by the header of a table below it, or by a key with
dots.
-/
inductive Begun where
  | header
  | implied
  | dotted
deriving DecidableEq, Repr

/-- What a key stands for while a document is read: a finished value, a table that may still
grow, or a list of tables of which the last one may.
-/
inductive Node where
  | value (value : Toml)
  | table (begun : Begun) (members : List (String × Node))
  | tables (earlier : List Toml) (members : List (String × Node))

/-- The members of a table in the making. -/
abbrev Members := List (String × Node)

mutual

/-- The value that a node has become. -/
def Node.finish : Node → Toml
  | .value value => value
  | .table _ members => .table (finishMembers members)
  | .tables earlier members => .array (earlier ++ [.table (finishMembers members)])
termination_by structural node => node

/-- The members that a table has in the end. -/
def finishMembers : Members → List (String × Toml)
  | [] => []
  | (key, node) :: rest => (key, node.finish) :: finishMembers rest
termination_by structural members => members

end

namespace Members

/-- Puts another node in the place of a key's node, or a first one at the end. -/
def alter (key : String) (change : Option Node → Option Node) : Members → Option Members
  | [] => (change none).map fun node => [(key, node)]
  | (other, node) :: rest =>
    if other = key then (change (some node)).map fun node => (key, node) :: rest
    else (alter key change rest).map ((other, node) :: ·)

/-- Changes the table at the end of a header's path, making the tables on the way. -/
def below (change : Members → Option Members) : List String → Members → Option Members
  | [], members => change members
  | key :: path, members =>
    alter key
      (fun
        | none => (below change path []).map (.table .implied)
        | some (.table begun inner) => (below change path inner).map (.table begun)
        | some (.tables earlier inner) => (below change path inner).map (.tables earlier)
        | some (.value _) => none)
      members

/-- Begins the table of a header. It must be new, or known only through tables below it. -/
def openTable (path : List String) (key : String) : Members → Option Members :=
  below
    (alter key fun
      | none => some (.table .header [])
      | some (.table .implied inner) => some (.table .header inner)
      | some _ => none)
    path

/-- Begins another table of a list of tables. -/
def openItem (path : List String) (key : String) : Members → Option Members :=
  below
    (alter key fun
      | none => some (.tables [] [])
      | some (.tables earlier inner) =>
        some (.tables (earlier ++ [.table (finishMembers inner)]) [])
      | some _ => none)
    path

/-- Sets a key, with dots before it or not. The key and its table must be new, or the table begun in
the same way; on the way to it there may also be tables that are only implied, and the last tables
of lists.
-/
def assign (key : String) (value : Toml) : List String → Members → Option Members
  | [], members =>
    alter key
      (fun
        | none => some (.value value)
        | some _ => none)
      members
  | outer :: path, members =>
    alter outer
      (fun
        | none => (assign key value path []).map (.table .dotted)
        | some (.table .dotted inner) => (assign key value path inner).map (.table .dotted)
        | some (.table .implied inner) =>
          if path.isEmpty then none else (assign key value path inner).map (.table .implied)
        | some (.tables earlier inner) =>
          if path.isEmpty then none else (assign key value path inner).map (.tables earlier)
        | some _ => none)
      members

end Members

end ValueHistory.Toml
