import ValueHistory.Json.Record
import ValueHistory.Proofs.Json.Contents

/-! Records that are written are read: the fields of an object are found by their keys, a tag is
taken apart from the fields beside it, and the items of an array are read one by one.
-/

namespace ValueHistory.Json

-----------------------------------------------------------------------------------------
-- Values that there is room for
-----------------------------------------------------------------------------------------

/-- The numbers of a value read back, and no more arrays and objects enclose one another in it than
there is room for.
-/
structure IsReadable (room : Nat) (value : Json) : Prop where
  numbers : value.NumbersReadBack
  fits : value.depth ≤ room

section

variable {room : Nat}

@[simp] theorem isReadable_null : null.IsReadable room :=
  ⟨trivial, Nat.zero_le room⟩

@[simp] theorem isReadable_bool (value : Bool) : (bool value).IsReadable room :=
  ⟨trivial, Nat.zero_le room⟩

@[simp] theorem isReadable_string (value : String) : (string value).IsReadable room :=
  ⟨trivial, Nat.zero_le room⟩

@[simp] theorem isReadable_ofText? (value : Option String) : (ofText? value).IsReadable room := by
  cases value <;> simp [ofText?]

theorem isReadable_ofInt {value : Int} (fits : Decimal.fitsInteger64 value = true)
    : (ofInt value).IsReadable room :=
  ⟨readsBack_integer (by rw [fits, Bool.true_or]), Nat.zero_le room⟩

theorem isReadable_array {items : List Json} (each : ∀ item ∈ items, item.IsReadable room)
    : (array items).IsReadable (room + 1) := by
  suffices all : NumbersOfItemsReadBack items ∧ depthOfItems items ≤ room from
    ⟨all.1, Nat.succ_le_succ all.2⟩
  induction items with
  | nil => exact ⟨trivial, Nat.zero_le room⟩
  | cons item items ih =>
      have first := each item List.mem_cons_self
      have rest := ih fun other member => each other (List.mem_cons_of_mem item member)
      exact ⟨⟨first.numbers, rest.1⟩, Nat.max_le.mpr ⟨first.fits, rest.2⟩⟩

theorem isReadable_object {members : List (String × Json)}
    (each : ∀ member ∈ members, member.2.IsReadable room)
    : (object members).IsReadable (room + 1) := by
  suffices all : NumbersOfMembersReadBack members ∧ depthOfMembers members ≤ room from
    ⟨all.1, Nat.succ_le_succ all.2⟩
  induction members with
  | nil => exact ⟨trivial, Nat.zero_le room⟩
  | cons member members ih =>
      have first := each member List.mem_cons_self
      have rest := ih fun other inRest => each other (List.mem_cons_of_mem member inRest)
      exact ⟨⟨first.numbers, rest.1⟩, Nat.max_le.mpr ⟨first.fits, rest.2⟩⟩

theorem IsReadable.mono {value : Json} (readable : value.IsReadable room) {wider : Nat}
    (wide : room ≤ wider)
    : value.IsReadable wider :=
  ⟨readable.numbers, Nat.le_trans readable.fits wide⟩

end

theorem IsReadable.isSound {value : Json} (readable : value.IsReadable maxDepth)
    : value.document.isSound = true := by
  rw [Document.isSound, toJson?_document value readable.numbers readable.fits]
  rfl

-----------------------------------------------------------------------------------------
-- The fields of objects
-----------------------------------------------------------------------------------------

theorem memberDocuments_eq_map (members : List (String × Json))
    : memberDocuments members
      = members.map fun member => (some member.1, member.2.document) := by
  induction members with
  | nil => rfl
  | cons member members ih => rw [memberDocuments, ih, List.map_cons]

section

variable {key : String} {members : List (String × Json)}

theorem ne_of_mem_memberDocuments (absent : key ∉ members.map Prod.fst)
    : ∀ member ∈ memberDocuments members, member.1 ≠ some key := by
  rw [memberDocuments_eq_map]
  rintro _ found same
  obtain ⟨member, inside, rfl⟩ := List.mem_map.mp found
  cases same
  exact absent (List.mem_map_of_mem inside)

/-- Among distinct keys a key is found once, by induction on the members. -/
theorem filter_memberDocuments {value : Json} (distinct : (members.map Prod.fst).Nodup)
    (found : (key, value) ∈ members)
    : (memberDocuments members).filter (fun member => member.1 = some key)
      = [(some key, value.document)] := by
  induction members with
  | nil => cases found
  | cons member members ih =>
      obtain ⟨apart, distinct⟩ := List.nodup_cons.mp distinct
      rcases List.mem_cons.mp found with rfl | later
      · have others := ne_of_mem_memberDocuments apart
        have none : (memberDocuments members).filter (fun member => member.1 = some key) = [] :=
          List.filter_eq_nil_iff.mpr fun other inside => by simp [others other inside]
        simp only [memberDocuments, List.filter_cons, decide_true, if_true, none]
      · have differs : member.1 ≠ key := fun same =>
          apart (same ▸ List.mem_map_of_mem later)
        rw [memberDocuments, List.filter_cons_of_neg (by simp [differs]), ih distinct later]

end

/-- An object whose keys are the names of the fields, each once, has the values of its members for
the values of the fields.
-/
theorem fields?_document {fields : List Field} {members : List (String × Json)}
    (named : members.map Prod.fst = fields.map Field.name)
    (distinct : (fields.map Field.name).Nodup)
    : (object members).document.fields? fields
      = some (members.map fun member => some member.2.document) := by
  have spelled : (memberDocuments members).all (·.1.isSome) = true := by
    simp [memberDocuments_eq_map]
  rw [← named] at distinct
  have found (later : List Field) (part : List (String × Json))
      (named : part.map Prod.fst = later.map Field.name) (inside : part ⊆ members)
      : later.mapM (Document.member? · (memberDocuments members))
        = some (part.map fun member => some member.2.document) := by
    induction part generalizing later with
    | nil =>
        rw [List.map_eq_nil_iff.mp named.symm]
        rfl
    | cons member part ih =>
        obtain ⟨field, later, rfl, same, rest⟩ := List.map_eq_cons_iff.mp named.symm
        obtain ⟨first, others⟩ := List.cons_subset.mp inside
        have once : Document.member? field (memberDocuments members)
            = some (some member.2.document) := by
          simp only [Document.member?, same, filter_memberDocuments distinct first]
        rw [List.mapM_cons, once, ih later rest.symm others]
        rfl
  simp only [document, Document.fields?, spelled, if_true]
  exact found fields members named (List.Subset.refl members)

/-- A tag that stands before the fields is taken apart from them. -/
theorem tagged?_document {key tag : String} {tags : List String} {members : List (String × Json)}
    (mode : Mode) (known : tag ∈ tags) (apart : key ∉ members.map Prod.fst)
    (readable : (object ((key, .string tag) :: members)).IsReadable maxDepth)
    : (object ((key, .string tag) :: members)).document.tagged? mode key tags
      = some (tag, (object members).document) := by
  have others := ne_of_mem_memberDocuments apart
  have alone : (memberDocuments members).filter (fun member => member.1 = some key) = [] :=
    List.filter_eq_nil_iff.mpr fun member inside => by simp [others member inside]
  have rest : (memberDocuments members).filter (fun member => member.1 ≠ some key)
      = memberDocuments members :=
    List.filter_eq_self.mpr fun member inside => decide_eq_true (others member inside)
  have sound := readable.isSound
  simp only [document, memberDocuments] at sound ⊢
  rw [Document.tagged?, sound]
  simp only [Bool.not_true, Bool.false_eq_true, if_false, List.filter_cons, decide_true, if_true,
    alone, ne_eq, not_true, decide_false, rest, Document.tag?, Option.filter, known,
    Option.map_some]

-----------------------------------------------------------------------------------------
-- Arrays and values that may be null
-----------------------------------------------------------------------------------------

/-- Items that were written one by one read back one by one. -/
theorem list?_document {α : Type} {read : Document → Option α} {write : α → Option Json}
    {values : List α} {items : List Json} (written : values.mapM write = some items)
    (each : ∀ value ∈ values, ∀ item, write value = some item → read item.document = some value)
    : (array items).document.list? read = some values := by
  rw [document, Document.list?]
  induction values generalizing items with
  | nil =>
      cases written
      rfl
  | cons value values ih =>
      rw [List.mapM_cons] at written
      obtain ⟨item, first, written⟩ := Option.bind_eq_some_iff.mp written
      obtain ⟨rest, later, written⟩ := Option.bind_eq_some_iff.mp written
      cases written
      have known := each value List.mem_cons_self item first
      have others := ih later fun other member => each other (List.mem_cons_of_mem value member)
      rw [documents, List.mapM_cons, known, others]
      rfl

theorem exists_of_mem_mapM {α : Type} {write : α → Option Json} {values : List α}
    {items : List Json} (written : values.mapM write = some items)
    : ∀ item ∈ items, ∃ value ∈ values, write value = some item := by
  induction values generalizing items with
  | nil =>
      cases written
      exact fun _ member => absurd member List.not_mem_nil
  | cons value values ih =>
      rw [List.mapM_cons] at written
      obtain ⟨first, known, written⟩ := Option.bind_eq_some_iff.mp written
      obtain ⟨rest, later, written⟩ := Option.bind_eq_some_iff.mp written
      cases written
      intro item member
      rcases List.mem_cons.mp member with rfl | member
      · exact ⟨value, List.mem_cons_self, known⟩
      · obtain ⟨other, inside, known⟩ := ih later item member
        exact ⟨other, List.mem_cons_of_mem value inside, known⟩

theorem orNull?_of_eq_some {α : Type} {read : Document → Option α} {document : Document}
    {value : α} (filled : document ≠ .null) (known : read document = some value)
    : document.orNull? read = some (some value) := by
  cases document with
  | null => exact absurd rfl filled
  | _ =>
      rw [Document.orNull?, known, Option.map_some]
      nofun

end ValueHistory.Json
