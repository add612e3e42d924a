import ValueHistory.OrderedMap.Order

/-! Maps that keep their entries in the order of the keys. An entry list is ascending, so it
holds no key twice; insertion replaces the value of a key that is there already. Lookups ask for
one key, or for the entry nearest to a bound from above or from below.
-/

namespace ValueHistory

open KeyOrder

/-- A finite map whose entries stand in strictly ascending key order. -/
structure OrderedMap (κ ν : Type) [KeyOrder κ] where
  entries : List (κ × ν)
  ascending : entries.Pairwise fun a b => before a.1 b.1 = true

/-- The end of a range of keys: none, a key inside the range, or a key just outside it. -/
inductive Bound (κ : Type) where
  | unbounded
  | including (key : κ)
  | excluding (key : κ)
deriving DecidableEq

namespace Bound

variable {κ : Type} [KeyOrder κ]

/-- Whether a key lies at or above the bound as the lower end of a range. -/
def liesBelow : Bound κ → κ → Bool
  | unbounded, _ => true
  | including bound, key => !before key bound
  | excluding bound, key => before bound key

/-- Whether a key lies at or below the bound as the upper end of a range. -/
def liesAbove : Bound κ → κ → Bool
  | unbounded, _ => true
  | including bound, key => !before bound key
  | excluding bound, key => before key bound

end Bound

namespace OrderedMap

variable {κ ν : Type} [KeyOrder κ]

-----------------------------------------------------------------------------------------
-- Insertion keeps the order
-----------------------------------------------------------------------------------------

/-- Puts an entry into its place in an ascending list, instead of one with the same key. -/
def insertEntry (key : κ) (value : ν) : List (κ × ν) → List (κ × ν)
  | [] => [(key, value)]
  | entry :: rest =>
    if before key entry.1 then (key, value) :: entry :: rest
    else if before entry.1 key then entry :: insertEntry key value rest
    else (key, value) :: rest

/-- Every entry after an insertion is the new one or was there before. -/
theorem mem_insertEntry {key : κ} {value : ν} {entry : κ × ν} {entries : List (κ × ν)}
    (h : entry ∈ insertEntry key value entries) : entry = (key, value) ∨ entry ∈ entries := by
  induction entries with
  | nil => simpa [insertEntry] using h
  | cons head rest ih =>
    simp only [insertEntry] at h
    split at h
    · simpa using h
    · split at h
      · rcases List.mem_cons.1 h with rfl | h
        · simp
        · rcases ih h with rfl | h <;> simp_all
      · rcases List.mem_cons.1 h with rfl | h <;> simp_all

/-- Insertion keeps the entries in ascending order. -/
theorem ascending_insertEntry (key : κ) (value : ν) {entries : List (κ × ν)}
    (h : entries.Pairwise fun a b => before a.1 b.1 = true)
    : (insertEntry key value entries).Pairwise fun a b => before a.1 b.1 = true := by
  induction entries with
  | nil => simp [insertEntry]
  | cons head rest ih =>
    obtain ⟨ahead, sorted⟩ := List.pairwise_cons.1 h
    simp only [insertEntry]
    split
    · next front =>
      refine List.pairwise_cons.2 ⟨fun entry member => ?_, h⟩
      rcases List.mem_cons.1 member with rfl | member
      · exact front
      · exact trans front (ahead entry member)
    · split
      · next back =>
        refine List.pairwise_cons.2 ⟨fun entry member => ?_, ih sorted⟩
        rcases mem_insertEntry member with rfl | member
        · exact back
        · exact ahead entry member
      · next front back =>
        have same : key = head.1 := by
          apply Classical.byContradiction
          intro different
          exact back (total different (by simpa using front))
        refine List.pairwise_cons.2 ⟨fun entry member => ?_, sorted⟩
        rw [same]
        exact ahead entry member

-----------------------------------------------------------------------------------------
-- The operations of a map
-----------------------------------------------------------------------------------------

/-- The map without entries. -/
def empty : OrderedMap κ ν := ⟨[], .nil⟩

/-- Adds an entry, or replaces the value of its key. -/
def insert (map : OrderedMap κ ν) (key : κ) (value : ν) : OrderedMap κ ν :=
  ⟨insertEntry key value map.entries, ascending_insertEntry key value map.ascending⟩

/-- The entries that satisfy a condition. -/
def filter (map : OrderedMap κ ν) (keep : κ × ν → Bool) : OrderedMap κ ν :=
  ⟨map.entries.filter keep, map.ascending.filter _⟩

/-- Removes a key, whether it is there or not. -/
def erase [DecidableEq κ] (map : OrderedMap κ ν) (key : κ) : OrderedMap κ ν :=
  map.filter fun entry => entry.1 ≠ key

/-- The value of a key. -/
def get? [DecidableEq κ] (map : OrderedMap κ ν) (key : κ) : Option ν :=
  (map.entries.find? fun entry => entry.1 = key).map (·.2)

/-- The number of entries. -/
def size (map : OrderedMap κ ν) : Nat :=
  map.entries.length

/-- The entry with the least key above the bound. -/
def ceiling (map : OrderedMap κ ν) (bound : Bound κ) : Option (κ × ν) :=
  map.entries.find? fun entry => bound.liesBelow entry.1

/-- The entry with the greatest key below the bound. -/
def floor (map : OrderedMap κ ν) (bound : Bound κ) : Option (κ × ν) :=
  (map.entries.filter fun entry => bound.liesAbove entry.1).getLast?

/-- The map of a list of entries, a later one replacing an earlier one of the same key. -/
def ofList (entries : List (κ × ν)) : OrderedMap κ ν :=
  entries.foldl (fun map entry => map.insert entry.1 entry.2) empty

end OrderedMap

end ValueHistory
