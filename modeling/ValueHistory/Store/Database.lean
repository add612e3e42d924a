import ValueHistory.Store.Failure
import ValueHistory.Store.Location
import ValueHistory.Store.Position
import ValueHistory.Text.Decimal

/-! The store that lives in a database: a table of buckets, and one table with the rows of all
buckets under the pair of bucket and key. The database carries a version number that tells which
steps of the schema it has been through; each step is a transaction of statements.
-/

namespace ValueHistory

/-- The tables. A row belongs to a bucket that is listed in the other table. -/
structure Tables where
  buckets : OrderedMap String Unit
  rows : OrderedMap (String × Bytes) Bytes

/-- What the name of a table stands for: nothing, a table of other hands, or ours. -/
inductive Named (α : Type) where
  | nothing
  | foreign
  | table (content : α)

/-- The content of our table. -/
def Named.content? {α : Type} : Named α → Option α
  | table content => some content
  | _ => none

/-- What stands under the names of our two tables. -/
structure Schema where
  buckets : Named (OrderedMap String Unit) := .nothing
  rows : Named (OrderedMap (String × Bytes) Bytes) := .nothing

/-- Our tables, if both are there. -/
def Schema.tables (schema : Schema) : Option Tables := do
  some { buckets := ← schema.buckets.content?, rows := ← schema.rows.content? }

/-- A database with its version. -/
structure Database where
  version : Int
  schema : Schema := {}

namespace Database

/-- A database nobody has written to. -/
def blank : Database := { version := 0 }

/-- A database of other hands that was given a version and nothing else. A number that is no 32-bit
integer cannot be given, so that the version stays zero.
-/
def ofVersion (version : Int) : Database :=
  if -2147483648 ≤ version && version ≤ 2147483647 then { version } else blank

/-- Our tables, if both are there. -/
def tables (database : Database) : Option Tables :=
  database.schema.tables

/-- The database with other content of our tables. -/
def holding (database : Database) (tables : Tables) : Database :=
  { database with schema := { buckets := .table tables.buckets, rows := .table tables.rows } }

@[simp]
theorem tables_holding (database : Database) (tables : Tables)
    : (database.holding tables).tables = some tables := rfl

-----------------------------------------------------------------------------------------
-- Steps of the schema
-----------------------------------------------------------------------------------------

/-- A statement that changes the schema. -/
abbrev Statement := Schema → Except StoreFailure Schema

/-- Makes the table of buckets, which fails where its name is taken. -/
def createBuckets : Statement := fun schema =>
  match schema.buckets with
  | .nothing => .ok { schema with buckets := .table .empty }
  | _ => .error .database

/-- Makes the table of rows, which fails where its name is taken. -/
def createRows : Statement := fun schema =>
  match schema.rows with
  | .nothing => .ok { schema with rows := .table .empty }
  | _ => .error .database

/-- A step of the schema, statement by statement. -/
abbrev Migration := List Statement

/-- The steps of the schema in their order; step number `n` leads to version `n`. -/
def migrations : List Migration := [[createBuckets, createRows]]

/-- The version of a database that has been through all steps. -/
def schemaVersion : Int := migrations.length

/-- Runs statements one by one up to the first that fails. What the ones before it have made is
there.
-/
def attempt (schema : Schema) : List Statement → Except StoreFailure Unit × Schema
  | [] => (.ok (), schema)
  | statement :: later =>
    match statement schema with
    | .ok schema => attempt schema later
    | .error failure => (.error failure, schema)

/-- Runs a step in a transaction, and sets the version that it leads to. Where a statement fails,
what the ones before it have made is taken back.
-/
def transact (database : Database) (step : Migration) (version : Int)
    : Except StoreFailure Unit × Database :=
  match attempt database.schema step with
  | (.ok (), schema) => (.ok (), { version, schema })
  | (.error failure, _) => (.error failure, database)

/-- Runs steps one by one up to the first that fails. -/
def migrate (database : Database) : List Migration → Nat → Except StoreFailure Unit × Database
  | [], _ => (.ok (), database)
  | step :: later, version =>
    match database.transact step version with
    | (.ok (), database) => migrate database later (version + 1)
    | (.error failure, database) => (.error failure, database)

/-- The number of steps that a database of a version has behind it. A negative version counts
from the far end of the unsigned 64-bit numbers.
-/
def stepsDone (version : Int) : Nat :=
  (version % (Decimal.maxUnsigned64 + 1)).toNat

/-- Brings a database to the schema of this library, and returns what is left of it. One of a later
schema is refused, and the steps that its version counts are not run again.
-/
def upgrade (database : Database) : Except StoreFailure Unit × Database :=
  if schemaVersion < database.version then
    (.error (.unsupportedSchema database.version schemaVersion), database)
  else
    let done := stepsDone database.version
    migrate database (migrations.drop done) (done + 1)

/-- A database as far as its file may be used. One that is only read must have been set up, and then
nothing can be asked of it, since any use of a bucket lists it first.
-/
def under (access : Access) (database : Database) : Except StoreFailure Database :=
  if access ≠ .reading then .ok database
  else if database.version < schemaVersion then .error .database
  else .ok { database with schema := {} }

/-- The tables, without which nothing can be asked. -/
def tables? (database : Database) : Except StoreFailure Tables :=
  match database.tables with
  | some tables => .ok tables
  | none => .error .database

end Database

namespace Tables

/-- Lists a bucket unless it is listed already. -/
def openBucket (tables : Tables) (name : String) : Tables :=
  { tables with buckets := tables.buckets.insert name () }

/-- The payload of a row. -/
def get (tables : Tables) (name : String) (key : Bytes) : Option Bytes :=
  tables.rows.get? (name, key)

/-- Adds or replaces a row, if its bucket is listed. -/
def set (tables : Tables) (name : String) (key payload : Bytes) : Except StoreFailure Tables :=
  match tables.buckets.get? name with
  | some _ => .ok { tables with rows := tables.rows.insert (name, key) payload }
  | none => .error .database

/-- Removes a row. -/
def delete (tables : Tables) (name : String) (key : Bytes) : Tables :=
  { tables with rows := tables.rows.erase (name, key) }

/-- The rows of a bucket as entries, in the order of their keys. -/
def entries (tables : Tables) (name : String) : List Entry :=
  (tables.rows.entries.filter fun row => row.1.1 = name).map fun row => (row.1.2, row.2)

/-- What cursors ask of a bucket, answered from the table of all rows. -/
def lookup (tables : Tables) (name : String) : Lookup :=
  let entries := tables.entries name
  { ceiling := fun bound => entries.find? fun entry => bound.liesBelow entry.1
    floor := fun bound => (entries.filter fun entry => bound.liesAbove entry.1).getLast?
    size := entries.length }

end Tables

end ValueHistory
