import ValueHistory.Proofs.OrderedMap.Entries
import ValueHistory.Store.Basic

/-! What a store holds, bucket by bucket. Both kinds of store answer a cursor from the same view of
their buckets, and an entry that is put into one bucket changes that bucket and no other.
-/

namespace ValueHistory

open KeyOrder

namespace Tables

/-- The rows of a bucket are in the order of their keys, since their pairs share the name. -/
theorem ascending_entries (tables : Tables) (name : String)
    : (tables.entries name).Pairwise fun a b => before a.1 b.1 = true := by
  refine List.pairwise_map.mpr (List.pairwise_filter.mpr (tables.rows.ascending.imp ?_))
  intro a b front aNamed bNamed
  simp only [decide_eq_true_eq] at aNamed bNamed
  simp only [before, Bool.or_eq_true, Bool.and_eq_true, decide_eq_true_eq] at front ⊢
  rcases front with front | ⟨_, front⟩
  · rw [aNamed, bNamed] at front
    exact absurd front (by simp [lexBefore_irrefl])
  · exact front

/-- The rows of a bucket. -/
def bucket (tables : Tables) (name : String) : Bucket :=
  ⟨tables.entries name, tables.ascending_entries name⟩

theorem mem_bucket_iff {tables : Tables} {name : String} {entry : Entry}
    : entry ∈ (tables.bucket name).entries ↔ ((name, entry.1), entry.2) ∈ tables.rows.entries := by
  simp only [bucket, entries, List.mem_map, List.mem_filter, decide_eq_true_eq]
  constructor
  · rintro ⟨⟨⟨other, key⟩, payload⟩, ⟨member, rfl⟩, rfl⟩
    exact member
  · intro member
    exact ⟨_, ⟨member, rfl⟩, rfl⟩

/-- A row that is added or replaced changes its own bucket only. -/
theorem bucket_insert_row (tables : Tables) (name other : String) (key payload : Bytes)
    : { tables with rows := tables.rows.insert (name, key) payload }.bucket other
      = if other = name then (tables.bucket name).insert key payload
        else tables.bucket other := by
  refine OrderedMap.eq_of_mem_iff fun entry => ?_
  rw [mem_bucket_iff, OrderedMap.mem_insert_iff]
  split
  · next same =>
      subst same
      rw [OrderedMap.mem_insert_iff, mem_bucket_iff]
      simp [Prod.ext_iff]
  · next different =>
      rw [mem_bucket_iff]
      simp [different]

/-- A row that is removed changes its own bucket only. -/
theorem bucket_delete (tables : Tables) (name other : String) (key : Bytes)
    : (tables.delete name key).bucket other
      = if other = name then (tables.bucket name).erase key else tables.bucket other := by
  apply OrderedMap.eq_of_mem_iff
  intro entry
  rw [mem_bucket_iff, delete, OrderedMap.mem_erase_iff]
  split
  · next same =>
      subst same
      simp [OrderedMap.mem_erase_iff, mem_bucket_iff]
  · next different => simp [mem_bucket_iff, different]

/-- A payload that is found among all rows is that of the key in its bucket. -/
theorem get_eq (tables : Tables) (name : String) (key : Bytes)
    : tables.get name key = (tables.bucket name).get? key := by
  apply Option.ext
  intro payload
  rw [get, OrderedMap.get?_eq_some_iff, OrderedMap.get?_eq_some_iff, mem_bucket_iff]

end Tables

namespace Memory

/-- What a bucket holds after another map has been put in the place of one. -/
theorem bucket_insert (memory : Memory) (name other : String) (content : Bucket)
    : (Memory.mk (memory.buckets.insert name content)).bucket other
      = if other = name then content else memory.bucket other := by
  simp only [bucket, OrderedMap.get?_insert]
  split <;> rfl

end Memory

namespace Store

/-- The entries of a bucket of either kind of store. -/
def bucket : Store → String → Bucket
  | inMemory memory, name => memory.bucket name
  | inDatabase database, name => (database.tables.map (·.bucket name)).getD .empty

/-- A store that answers: a database has its tables. -/
def Works : Store → Prop
  | inMemory _ => True
  | inDatabase database => database.tables.isSome = true

/-- The store in memory that holds nothing yet. -/
def empty : Store := .inMemory .empty

/-- A working store answers a cursor from the entries of its bucket. -/
theorem lookup_of_works {store : Store} (works : store.Works) (name : String)
    : store.lookup name = .ok (.ofBucket (store.bucket name)) := by
  cases store with
  | inMemory memory => rfl
  | inDatabase database =>
      obtain ⟨tables, present⟩ := Option.isSome_iff_exists.mp works
      simp only [lookup, withTables, Database.tables?, bucket, present]
      rfl

/-- A working store finds the payload of a key in the bucket. -/
theorem get_of_works {store : Store} (works : store.Works) (name : String) (key : Bytes)
    : store.get name key = .ok ((store.bucket name).get? key) := by
  cases store with
  | inMemory memory => rfl
  | inDatabase database =>
      obtain ⟨tables, present⟩ := Option.isSome_iff_exists.mp works
      simp only [get, withTables, Database.tables?, bucket, present, Tables.get_eq]
      rfl

/-- A working store counts the entries of the bucket. -/
theorem size_of_works {store : Store} (works : store.Works) (name : String)
    : store.size name = .ok (store.bucket name).size := by
  rw [size, lookup_of_works works]
  rfl

/-- A working store moves a cursor over the entries of the bucket. -/
theorem move_of_works {store : Store} (works : store.Works) (name : String) (position : Position)
    (move : Move)
    : store.move name position move
      = .ok (position.move (.ofBucket (store.bucket name)) move) := by
  rw [Store.move, lookup_of_works works]
  rfl

-----------------------------------------------------------------------------------------
-- Changes of one bucket
-----------------------------------------------------------------------------------------

/-- A bucket that takes entries: a database has it in the table of buckets. -/
def IsOpen : Store → String → Prop
  | inMemory _, _ => True
  | inDatabase database, name =>
    ∃ tables, database.tables = some tables ∧ tables.buckets.get? name = some ()

/-- A store after a change of one bucket. No other bucket has changed, and every bucket that was
open is so still.
-/
structure Changes (before after : Store) (name : String) (content : Bucket) : Prop where
  works : after.Works
  contents : ∀ other, after.bucket other = if other = name then content else before.bucket other
  stays : ∀ other, before.IsOpen other → after.IsOpen other

/-- A change of rows alone keeps the buckets open. -/
theorem isOpen_ofTables {database : Database} {tables : Tables}
    (present : database.tables = some tables) (changed : Tables)
    (same : changed.buckets = tables.buckets) {name : String}
    (isOpen : (inDatabase database).IsOpen name)
    : (ofTables database changed).IsOpen name := by
  obtain ⟨_, known, listed⟩ := isOpen
  cases present.symm.trans known
  exact ⟨changed, rfl, same ▸ listed⟩

/-- A working store opens any bucket, and goes on holding what it held. -/
theorem exists_openBucket {store : Store} (works : store.Works) (name : String)
    : ∃ opened,
        store.openBucket name = .ok opened
        ∧ Changes store opened name (store.bucket name)
        ∧ opened.IsOpen name := by
  cases store with
  | inMemory memory =>
      refine ⟨_, rfl, ⟨trivial, fun other => ?_, fun _ _ => trivial⟩, trivial⟩
      exact Memory.bucket_insert memory name other _
  | inDatabase database =>
      obtain ⟨tables, present⟩ := Option.isSome_iff_exists.mp works
      have opens
          : openBucket (inDatabase database) name
            = .ok (ofTables database (tables.openBucket name)) := by
        simp only [openBucket, withTables, Database.tables?, present]
        rfl
      refine ⟨_, opens, ⟨rfl, fun other => ?_, fun other isOpen => ?_⟩, _, rfl, ?_⟩
      · simp only [bucket, ofTables, Database.tables_holding, present]
        split
        · next same =>
            subst same
            rfl
        · rfl
      · obtain ⟨_, known, listed⟩ := isOpen
        cases present.symm.trans known
        refine ⟨_, rfl, ?_⟩
        simp only [Tables.openBucket, OrderedMap.get?_insert, listed, ite_self]
      · simp [Tables.openBucket, OrderedMap.get?_insert]

/-- An open bucket takes an entry, which replaces the one of its key. -/
theorem exists_set {store : Store} {name : String} (isOpen : store.IsOpen name)
    (key payload : Bytes)
    : ∃ stored,
        store.set name key payload = .ok stored
        ∧ Changes store stored name ((store.bucket name).insert key payload) := by
  cases store with
  | inMemory memory =>
      refine ⟨_, rfl, trivial, fun other => ?_, fun _ _ => trivial⟩
      exact Memory.bucket_insert memory name other _
  | inDatabase database =>
      obtain ⟨tables, present, listed⟩ := id isOpen
      let changed := { tables with rows := tables.rows.insert (name, key) payload }
      have sets
          : set (inDatabase database) name key payload = .ok (ofTables database changed) := by
        simp only [set, withTables, Database.tables?, present, Except.bind, Tables.set, listed]
        rfl
      refine ⟨_, sets, rfl, fun other => ?_, fun other => isOpen_ofTables present changed rfl⟩
      simp only [bucket, ofTables, Database.tables_holding, present, Option.map_some,
        Option.getD_some]
      exact tables.bucket_insert_row name other key payload

/-- A working store removes a key from a bucket. -/
theorem exists_delete {store : Store} (works : store.Works) (name : String) (key : Bytes)
    : ∃ left,
        store.delete name key = .ok left
        ∧ Changes store left name ((store.bucket name).erase key) := by
  cases store with
  | inMemory memory =>
      refine ⟨_, rfl, trivial, fun other => ?_, fun _ _ => trivial⟩
      exact Memory.bucket_insert memory name other _
  | inDatabase database =>
      obtain ⟨tables, present⟩ := Option.isSome_iff_exists.mp works
      have deletes
          : delete (inDatabase database) name key
            = .ok (ofTables database (tables.delete name key)) := by
        simp only [delete, withTables, Database.tables?, present]
        rfl
      refine ⟨_, deletes, rfl, fun other => ?_, fun other => ?_⟩
      · simp only [bucket, ofTables, Database.tables_holding, present, Option.map_some,
          Option.getD_some]
        exact tables.bucket_delete name other key
      · exact isOpen_ofTables present (tables.delete name key) rfl

/-- A working store opens any bucket, and every bucket holds what it held. -/
theorem openBucket_of_works {store : Store} (works : store.Works) (name : String)
    : ∃ opened,
        store.openBucket name = .ok opened
        ∧ opened.Works
        ∧ ∀ other, opened.bucket other = store.bucket other := by
  obtain ⟨opened, opens, changes, _⟩ := exists_openBucket works name
  refine ⟨opened, opens, changes.works, fun other => ?_⟩
  rw [changes.contents]
  split
  · next same => rw [same]
  · rfl

/-- Only a working store opens a bucket. -/
theorem works_of_openBucket {store opened : Store} {name : String}
    (opens : store.openBucket name = .ok opened) : store.Works := by
  cases store with
  | inMemory memory => trivial
  | inDatabase database =>
      cases present : database.tables with
      | none => simp [openBucket, withTables, Database.tables?, present, Except.bind] at opens
      | some tables => exact Option.isSome_iff_exists.mpr ⟨tables, present⟩

/-- A working store takes an entry into a bucket that it has opened. The entry replaces the one of
its key, and no other bucket changes.
-/
theorem set_of_works {store : Store} (works : store.Works) (name : String) (key payload : Bytes)
    : ∃ opened stored,
        store.openBucket name = .ok opened
        ∧ opened.set name key payload = .ok stored
        ∧ stored.Works
        ∧ ∀ other,
            stored.bucket other
            = if other = name then (store.bucket name).insert key payload
              else store.bucket other := by
  obtain ⟨opened, opens, changes, isOpen⟩ := exists_openBucket works name
  obtain ⟨stored, sets, changesToo⟩ := exists_set isOpen key payload
  refine ⟨opened, stored, opens, sets, changesToo.works, fun other => ?_⟩
  rw [changesToo.contents, changes.contents name, if_pos rfl, changes.contents other]
  split <;> rfl

end Store

end ValueHistory
