import ValueHistory.Json.Data
import ValueHistory.Json.Printer
import ValueHistory.Store.Database
import ValueHistory.Text.Hex

/-! The content of a database file: its version and its tables in JSON, keys and payloads in
hexadecimal digits.
-/

namespace ValueHistory

namespace Named

/-- What the name of a table stands for as a value, by the values of its rows. -/
def toJson {κ ν : Type} [KeyOrder κ] (row : κ × ν → Json) : Named (OrderedMap κ ν) → Json
  | nothing => .null
  | foreign => .bool false
  | table content => .array (content.entries.map row)

/-- What the name of a table stands for, in a value. -/
def ofJson? {κ ν : Type} [KeyOrder κ] (row? : Json → Option (κ × ν))
    : Json → Option (Named (OrderedMap κ ν))
  | .null => some .nothing
  | .bool false => some .foreign
  | .array rows => (rows.mapM row?).map fun rows => .table (.ofList rows)
  | _ => none

end Named

namespace Schema

/-- A byte string as a value. -/
def ofBytes (bytes : Bytes) : Json :=
  .string (String.ofList (Hex.encode bytes))

/-- A row as a value. -/
def ofRow (row : (String × Bytes) × Bytes) : Json :=
  .array [.string row.1.1, ofBytes row.1.2, ofBytes row.2]

/-- The name of a bucket in a value. -/
def bucketOf? : Json → Option (String × Unit)
  | .string name => some (name, ())
  | _ => none

/-- The row in a value. -/
def rowOf? : Json → Option ((String × Bytes) × Bytes)
  | .array [.string bucket, .string key, .string payload] => do
    some ((bucket, ← Hex.decode? key.toList), ← Hex.decode? payload.toList)
  | _ => none

end Schema

namespace Database

/-- The content of the file of a database. -/
def toFile (database : Database) : Bytes :=
  let members :=
    [ ("buckets", database.schema.buckets.toJson fun bucket => .string bucket.1)
    , ("rows", database.schema.rows.toJson Schema.ofRow)
    , ("version", .ofInt database.version) ]
  (Json.object members).toBytes

/-- The database in a file. A file of one byte at most is one that nobody has written to. -/
def ofFile (content : Bytes) : Except StoreFailure Database :=
  if content.length ≤ 1 then .ok .blank
  else match Json.ofBytes? content with
    | some (.object
        [("buckets", buckets), ("rows", rows), ("version", .number (.integer version))]) =>
      match Named.ofJson? Schema.bucketOf? buckets, Named.ofJson? Schema.rowOf? rows with
      | some buckets, some rows => .ok { version, schema := { buckets, rows } }
      | _, _ => .error .database
    | _ => .error .database

end Database

end ValueHistory
