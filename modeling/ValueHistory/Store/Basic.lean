import ValueHistory.Store.Database
import ValueHistory.Store.Memory

/-! Stores of either kind under one set of operations. A bucket is opened before it is used; the
database can fail where memory cannot.
-/

namespace ValueHistory

/-- The kinds of store. -/
inductive Backend where
  | memory
  | sqlite
deriving DecidableEq, Repr

namespace Backend

/-- The name of a kind. -/
def name : Backend → String
  | memory => "memory"
  | sqlite => "sqlite"

/-- The kind of a name. -/
def ofName (text : String) : Except StoreFailure Backend :=
  if text = "memory" then .ok memory
  else if text = "sqlite" then .ok sqlite
  else .error (.unknownBackend text)

end Backend

/-- A store: buckets of entries in memory or in a database. -/
inductive Store where
  | inMemory (memory : Memory)
  | inDatabase (database : Database)

namespace Store

/-- The kind of a store. -/
def backend : Store → Backend
  | inMemory _ => .memory
  | inDatabase _ => .sqlite

/-- Does something with the tables of a database. -/
def withTables {α : Type} (database : Database) (ask : Tables → Except StoreFailure α)
    : Except StoreFailure α :=
  database.tables?.bind ask

/-- The store with the tables replaced. -/
def ofTables (database : Database) (tables : Tables) : Store :=
  .inDatabase (database.holding tables)

/-- Makes sure that a bucket is there. -/
def openBucket (store : Store) (name : String) : Except StoreFailure Store :=
  match store with
  | inMemory memory => .ok (.inMemory (memory.openBucket name))
  | inDatabase database =>
    withTables database fun tables => .ok (ofTables database (tables.openBucket name))

/-- The payload of a key. -/
def get (store : Store) (name : String) (key : Bytes) : Except StoreFailure (Option Bytes) :=
  match store with
  | inMemory memory => .ok (memory.get name key)
  | inDatabase database => withTables database fun tables => .ok (tables.get name key)

/-- Adds or replaces the payload of a key. -/
def set (store : Store) (name : String) (key payload : Bytes) : Except StoreFailure Store :=
  match store with
  | inMemory memory => .ok (.inMemory (memory.set name key payload))
  | inDatabase database =>
    withTables database fun tables => (tables.set name key payload).map (ofTables database)

/-- Removes a key. -/
def delete (store : Store) (name : String) (key : Bytes) : Except StoreFailure Store :=
  match store with
  | inMemory memory => .ok (.inMemory (memory.delete name key))
  | inDatabase database =>
    withTables database fun tables => .ok (ofTables database (tables.delete name key))

/-- What cursors ask of a bucket. -/
def lookup (store : Store) (name : String) : Except StoreFailure Lookup :=
  match store with
  | inMemory memory => .ok (memory.lookup name)
  | inDatabase database => withTables database fun tables => .ok (tables.lookup name)

/-- The number of entries of a bucket. -/
def size (store : Store) (name : String) : Except StoreFailure Nat :=
  (store.lookup name).map (·.size)

/-- A move of a cursor over a bucket. -/
def move (store : Store) (name : String) (position : Position) (move : Move)
    : Except StoreFailure (Option Entry × Position) :=
  (store.lookup name).map fun lookup => position.move lookup move

end Store

end ValueHistory
