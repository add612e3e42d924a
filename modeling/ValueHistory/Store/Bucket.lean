import ValueHistory.OrderedMap.Basic

/-! Buckets of entries, and what a cursor asks of one. -/

namespace ValueHistory

/-- A key and its payload. -/
abbrev Entry := Bytes × Bytes

/-- The entries of one Thing, in the order of their keys. -/
abbrev Bucket := OrderedMap Bytes Bytes

/-- What a cursor asks of a bucket: the first entry from a bound on, the last entry up to a
bound, and the number of entries.
-/
structure Lookup where
  ceiling : Bound Bytes → Option Entry
  floor : Bound Bytes → Option Entry
  size : Nat

/-- A bucket looked up in its list of entries. -/
def Lookup.ofBucket (bucket : Bucket) : Lookup :=
  { ceiling := bucket.ceiling, floor := bucket.floor, size := bucket.size }

end ValueHistory
