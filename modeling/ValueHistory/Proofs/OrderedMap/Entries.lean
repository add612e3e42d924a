import ValueHistory.OrderedMap.Basic

/-! The entries of an ordered map as a set: which ones an insertion or a removal leaves, and that
ascending entry lists with the same members are the same list.
-/

namespace ValueHistory.OrderedMap

open KeyOrder

variable {κ ν : Type} [KeyOrder κ]

/-- Ascending entry lists with the same members are equal: they are permutations of each other,
and no two entries come before each other.
-/
theorem entries_eq_of_mem_iff {left right : List (κ × ν)}
    (leftAscending : left.Pairwise fun a b => before a.1 b.1 = true)
    (rightAscending : right.Pairwise fun a b => before a.1 b.1 = true)
    (h : ∀ entry, entry ∈ left ↔ entry ∈ right)
    : left = right := by
  have different {entries : List (κ × ν)}
      (ascending : entries.Pairwise fun a b => before a.1 b.1 = true)
      : entries.Nodup :=
    ascending.imp fun front same => ne front (congrArg Prod.fst same)
  refine List.Perm.eq_of_pairwise (fun a b _ _ front back => ?_) leftAscending rightAscending
    ((List.perm_ext_iff_of_nodup (different leftAscending) (different rightAscending)).mpr h)
  exact absurd back (by simp [asymm front])

theorem eq_of_mem_iff {left right : OrderedMap κ ν}
    (h : ∀ entry, entry ∈ left.entries ↔ entry ∈ right.entries)
    : left = right := by
  cases left
  cases right
  congr
  exact entries_eq_of_mem_iff ‹_› ‹_› h

/-- Ascending entries with the same key are the same, by induction on the list. -/
theorem entry_eq_of_key_eq {entries : List (κ × ν)}
    (ascending : entries.Pairwise fun a b => before a.1 b.1 = true) {a b : κ × ν}
    (aMember : a ∈ entries) (bMember : b ∈ entries) (same : a.1 = b.1)
    : a = b := by
  induction entries with
  | nil => cases aMember
  | cons head rest ih =>
      obtain ⟨ahead, sorted⟩ := List.pairwise_cons.mp ascending
      rcases List.mem_cons.mp aMember with rfl | aLater
      · rcases List.mem_cons.mp bMember with rfl | bLater
        · rfl
        · exact absurd same (ne (ahead b bLater))
      · rcases List.mem_cons.mp bMember with rfl | bLater
        · exact absurd same.symm (ne (ahead a aLater))
        · exact ih sorted aLater bLater

/-- Insertion into an ascending list keeps all entries of other keys and adds the new one. -/
theorem mem_insertEntry_iff {key : κ} {value : ν} {entries : List (κ × ν)}
    (ascending : entries.Pairwise fun a b => before a.1 b.1 = true) {entry : κ × ν}
    : entry ∈ insertEntry key value entries
      ↔ entry = (key, value) ∨ (entry ∈ entries ∧ entry.1 ≠ key) := by
  induction entries with
  | nil => simp [insertEntry]
  | cons head rest ih =>
      obtain ⟨ahead, sorted⟩ := List.pairwise_cons.mp ascending
      simp only [insertEntry]
      split
      · next front =>
          have other : ∀ entry ∈ head :: rest, entry.1 ≠ key := by
            intro entry member same
            rcases List.mem_cons.mp member with rfl | later
            · exact ne front same.symm
            · exact ne (trans front (ahead entry later)) same.symm
          rw [List.mem_cons]
          exact or_congr_right ⟨fun member => ⟨member, other entry member⟩, And.left⟩
      · split
        · next back =>
            rw [List.mem_cons, ih sorted, List.mem_cons]
            constructor
            · rintro (rfl | rfl | ⟨member, different⟩)
              · exact .inr ⟨.inl rfl, ne back⟩
              · exact .inl rfl
              · exact .inr ⟨.inr member, different⟩
            · rintro (rfl | ⟨rfl | member, different⟩)
              · exact .inr (.inl rfl)
              · exact .inl rfl
              · exact .inr (.inr ⟨member, different⟩)
        · next front back =>
            have same : key = head.1 := by
              apply Classical.byContradiction
              intro different
              exact back (total different (by simpa using front))
            rw [List.mem_cons, List.mem_cons]
            constructor
            · rintro (rfl | member)
              · exact .inl rfl
              · exact .inr ⟨.inr member, fun equal => ne (ahead entry member) (same ▸ equal.symm)⟩
            · rintro (rfl | ⟨rfl | member, different⟩)
              · exact .inl rfl
              · exact absurd same.symm different
              · exact .inr member

theorem mem_insert_iff {map : OrderedMap κ ν} {key : κ} {value : ν} {entry : κ × ν}
    : entry ∈ (map.insert key value).entries
      ↔ entry = (key, value) ∨ (entry ∈ map.entries ∧ entry.1 ≠ key) :=
  mem_insertEntry_iff map.ascending

/-- The first entry from a bound on is inside the bound, and no entry inside comes before it. -/
theorem ceiling_eq_some {map : OrderedMap κ ν} {bound : Bound κ} {found : κ × ν}
    (first : map.ceiling bound = some found)
    : bound.liesBelow found.1 = true
      ∧ ∀ entry ∈ map.entries, bound.liesBelow entry.1 = true → before entry.1 found.1 = false := by
  obtain ⟨inside, front, later, split, outside⟩ := List.find?_eq_some_iff_append.mp first
  refine ⟨inside, fun entry member own => ?_⟩
  have ordered := map.ascending
  rw [split] at member ordered
  rcases List.mem_append.mp member with passed | met
  · exact absurd own (by simpa using outside entry passed)
  · rcases List.mem_cons.mp met with rfl | behind
    · exact irrefl _
    · have following := (List.pairwise_cons.mp (List.pairwise_append.mp ordered).2.1).1
      exact asymm (following entry behind)

/-- Where an entry is inside a bound there is a first one from the bound on. -/
theorem exists_ceiling {map : OrderedMap κ ν} {bound : Bound κ} {entry : κ × ν}
    (member : entry ∈ map.entries) (inside : bound.liesBelow entry.1 = true)
    : ∃ found, map.ceiling bound = some found :=
  Option.isSome_iff_exists.mp (List.find?_isSome.mpr ⟨entry, member, inside⟩)

variable [DecidableEq κ]

/-- A look-up finds exactly the entry of the key. -/
theorem get?_eq_some_iff {map : OrderedMap κ ν} {key : κ} {value : ν}
    : map.get? key = some value ↔ (key, value) ∈ map.entries := by
  constructor
  · intro found
    obtain ⟨entry, first, rfl⟩ := Option.map_eq_some_iff.mp found
    have same : entry.1 = key := by simpa using List.find?_some first
    exact same ▸ List.mem_of_find?_eq_some first
  · intro member
    cases found : map.entries.find? fun entry => entry.1 = key with
    | none => simpa using List.find?_eq_none.mp found (key, value) member
    | some entry =>
        have same : entry.1 = key := by simpa using List.find?_some found
        have equal := entry_eq_of_key_eq map.ascending (List.mem_of_find?_eq_some found) member same
        simp [get?, found, equal]

/-- Insertion changes what is found at its key and nothing else. -/
theorem get?_insert (map : OrderedMap κ ν) (key other : κ) (value : ν)
    : (map.insert key value).get? other = if other = key then some value else map.get? other := by
  refine Option.ext fun found => ?_
  rw [get?_eq_some_iff, mem_insert_iff]
  split
  · next same => simp [same, eq_comm]
  · next different => simp [different, get?_eq_some_iff]

/-- An entry that is there already can be put there again. -/
theorem insert_of_get? {map : OrderedMap κ ν} {key : κ} {value : ν}
    (known : map.get? key = some value)
    : map.insert key value = map := by
  have member := get?_eq_some_iff.mp known
  refine eq_of_mem_iff fun entry => ?_
  rw [mem_insert_iff]
  constructor
  · rintro (rfl | ⟨there, _⟩)
    · exact member
    · exact there
  · intro there
    by_cases same : entry.1 = key
    · exact .inl (entry_eq_of_key_eq map.ascending there member same)
    · exact .inr ⟨there, same⟩

/-- A filtered map finds what was found before, if it is kept. -/
theorem get?_filter (map : OrderedMap κ ν) (keep : κ × ν → Bool) (key : κ)
    : (map.filter keep).get? key = (map.get? key).filter fun value => keep (key, value) := by
  refine Option.ext fun found => ?_
  rw [get?_eq_some_iff, filter, List.mem_filter, Option.filter_eq_some_iff, get?_eq_some_iff]

/-- Removal leaves exactly the entries of other keys. -/
theorem mem_erase_iff {map : OrderedMap κ ν} {key : κ} {entry : κ × ν}
    : entry ∈ (map.erase key).entries ↔ entry ∈ map.entries ∧ entry.1 ≠ key := by
  simp only [erase, filter, List.mem_filter, decide_eq_true_eq]

/-- A key that is removed is not found any more, and all others are. -/
theorem get?_erase (map : OrderedMap κ ν) (key other : κ)
    : (map.erase key).get? other = if other = key then none else map.get? other := by
  rw [erase, get?_filter]
  split
  · next same => cases map.get? other <;> simp [same]
  · next different => cases map.get? other <;> simp [different]

end ValueHistory.OrderedMap
