import ValueHistory.Store.Position

/-! The store that lives in memory: an ordered map for every bucket. -/

namespace ValueHistory

/-- The buckets by their names. -/
structure Memory where
  buckets : OrderedMap String Bucket

namespace Memory

/-- The store without buckets. -/
def empty : Memory := ⟨.empty⟩

/-- The entries of a bucket; one that was never opened has none. -/
def bucket (memory : Memory) (name : String) : Bucket :=
  (memory.buckets.get? name).getD .empty

/-- Makes sure that a bucket is there. -/
def openBucket (memory : Memory) (name : String) : Memory :=
  ⟨memory.buckets.insert name (memory.bucket name)⟩

/-- The payload of a key. -/
def get (memory : Memory) (name : String) (key : Bytes) : Option Bytes :=
  (memory.bucket name).get? key

/-- Adds or replaces the payload of a key. -/
def set (memory : Memory) (name : String) (key payload : Bytes) : Memory :=
  ⟨memory.buckets.insert name ((memory.bucket name).insert key payload)⟩

/-- Removes a key. -/
def delete (memory : Memory) (name : String) (key : Bytes) : Memory :=
  ⟨memory.buckets.insert name ((memory.bucket name).erase key)⟩

/-- What cursors ask of a bucket. -/
def lookup (memory : Memory) (name : String) : Lookup :=
  .ofBucket (memory.bucket name)

end Memory

end ValueHistory
