import ValueHistory.Proofs.Json.Notation
import ValueHistory.Proofs.OrderedMap.Entries

/-! The value that a document says is the value that the document was written for, with the members
of objects in the order of their keys. Values whose members are in this order read back unchanged,
and every value that is read is one of them.
-/

namespace ValueHistory

-----------------------------------------------------------------------------------------
-- Maps of ascending lists
-----------------------------------------------------------------------------------------

namespace OrderedMap

open KeyOrder

variable {κ ν : Type} [KeyOrder κ]

/-- An entry whose key comes after all others is put at the end. -/
theorem insertEntry_of_last {key : κ} {value : ν} {entries : List (κ × ν)}
    (last : ∀ entry ∈ entries, before entry.1 key = true)
    : insertEntry key value entries = entries ++ [(key, value)] := by
  induction entries with
  | nil => rfl
  | cons entry entries ih =>
      have front := last entry List.mem_cons_self
      rw [insertEntry, if_neg (by simp [asymm front]), if_pos front,
        ih fun other member => last other (List.mem_cons_of_mem entry member)]
      rfl

/-- A list in ascending order is the list of its map. -/
theorem entries_ofList {entries : List (κ × ν)}
    (ascending : entries.Pairwise fun a b => before a.1 b.1 = true)
    : (ofList entries).entries = entries := by
  have grows (map : OrderedMap κ ν) (later : List (κ × ν))
      (ordered : (map.entries ++ later).Pairwise fun a b => before a.1 b.1 = true)
      : (later.foldl (fun map entry => map.insert entry.1 entry.2) map).entries
        = map.entries ++ later := by
    induction later generalizing map with
    | nil => simp
    | cons entry later ih =>
        have last : ∀ other ∈ map.entries, before other.1 entry.1 = true := fun other member =>
          (List.pairwise_append.mp ordered).2.2 other member entry List.mem_cons_self
        have inserted : (map.insert entry.1 entry.2).entries = map.entries ++ [entry] :=
          insertEntry_of_last last
        rw [List.foldl_cons, ih _ (by rw [inserted]; simpa using ordered), inserted]
        simp
  exact grows empty entries ascending

/-- The map of a list has no other entries, by induction on the list. -/
theorem mem_of_mem_ofList {list : List (κ × ν)} {entry : κ × ν}
    (member : entry ∈ (ofList list).entries)
    : entry ∈ list := by
  have grows (map : OrderedMap κ ν) (later : List (κ × ν))
      (member : entry ∈ (later.foldl (fun map entry => map.insert entry.1 entry.2) map).entries)
      : entry ∈ map.entries ∨ entry ∈ later := by
    induction later generalizing map with
    | nil => exact .inl member
    | cons added later ih =>
        rcases ih (map.insert added.1 added.2) member with held | later
        · rcases mem_insertEntry held with rfl | held
          · exact .inr List.mem_cons_self
          · exact .inl held
        · exact .inr (List.mem_cons_of_mem added later)
  exact (grows empty list member).resolve_left List.not_mem_nil

end OrderedMap

namespace Json

-----------------------------------------------------------------------------------------
-- Objects with their members in order
-----------------------------------------------------------------------------------------

mutual

/-- A value with the members of its objects in the order of their keys, of a repeated key the last
one.
-/
def sorted : Json → Json
  | array items => .array (sortedItems items)
  | object members => .object (OrderedMap.ofList (sortedMembers members)).entries
  | value => value
termination_by structural value => value

@[inherit_doc sorted]
def sortedItems : List Json → List Json
  | [] => []
  | item :: rest => item.sorted :: sortedItems rest
termination_by structural items => items

/-- Members with their values sorted. -/
def sortedMembers : List (String × Json) → List (String × Json)
  | [] => []
  | (key, value) :: rest => (key, value.sorted) :: sortedMembers rest
termination_by structural members => members

end

mutual

/-- The members of every object are in ascending order of their keys. -/
def IsOrdered : Json → Prop
  | array items => ItemsAreOrdered items
  | object members =>
    members.Pairwise (fun a b => KeyOrder.before a.1 b.1 = true) ∧ MembersAreOrdered members
  | _ => True
termination_by structural value => value

@[inherit_doc IsOrdered]
def ItemsAreOrdered : List Json → Prop
  | [] => True
  | item :: rest => item.IsOrdered ∧ ItemsAreOrdered rest
termination_by structural items => items

@[inherit_doc IsOrdered]
def MembersAreOrdered : List (String × Json) → Prop
  | [] => True
  | (_, value) :: rest => value.IsOrdered ∧ MembersAreOrdered rest
termination_by structural members => members

end

mutual

/-- An ordered value is sorted already, by induction on the value. -/
theorem sorted_of_isOrdered (value : Json) (ordered : value.IsOrdered)
    : value.sorted = value := by
  match value with
  | null => rfl
  | bool _ => rfl
  | number _ => rfl
  | string _ => rfl
  | array items => rw [sorted, sortedItems_of_ordered items ordered]
  | object members =>
      rw [sorted, sortedMembers_of_ordered members ordered.2,
        OrderedMap.entries_ofList ordered.1]
termination_by structural value

theorem sortedItems_of_ordered (items : List Json) (ordered : ItemsAreOrdered items)
    : sortedItems items = items := by
  match items with
  | [] => rfl
  | item :: rest =>
      rw [sortedItems, sorted_of_isOrdered item ordered.1, sortedItems_of_ordered rest ordered.2]
termination_by structural items

theorem sortedMembers_of_ordered (members : List (String × Json))
    (ordered : MembersAreOrdered members)
    : sortedMembers members = members := by
  match members with
  | [] => rfl
  | (key, value) :: rest =>
      rw [sortedMembers, sorted_of_isOrdered value ordered.1,
        sortedMembers_of_ordered rest ordered.2]
termination_by structural members

end

-----------------------------------------------------------------------------------------
-- What documents say
-----------------------------------------------------------------------------------------

mutual

/-- The document of a value says the value with its members in order, where there is room for the
arrays and objects of it, by induction on the value.
-/
theorem toJson?_document (value : Json) (numbers : value.NumbersReadBack) {room : Nat}
    (fits : value.depth ≤ room)
    : value.document.toJson? room = some value.sorted := by
  match value with
  | null => rfl
  | bool _ => rfl
  | string _ => rfl
  | number written =>
      obtain ⟨numeral, known, read⟩ := Option.bind_eq_some_iff.mp numbers
      simp only [document, known, Option.map_some, Option.getD_some, Document.toJson?, read]
      rfl
  | array items =>
      rw [depth] at fits
      obtain ⟨room, rfl⟩ : ∃ less, room = less + 1 := ⟨room - 1, by omega⟩
      have inside := itemsToJson?_documents items numbers (Nat.le_of_succ_le_succ fits)
      simp only [document, Document.toJson?, inside]
      rfl
  | object members =>
      rw [depth] at fits
      obtain ⟨room, rfl⟩ : ∃ less, room = less + 1 := ⟨room - 1, by omega⟩
      have inside := membersToJson?_memberDocuments members numbers (Nat.le_of_succ_le_succ fits)
      simp only [document, Document.toJson?, inside]
      rfl
termination_by structural value

theorem itemsToJson?_documents (items : List Json) (numbers : NumbersOfItemsReadBack items)
    {room : Nat} (fits : depthOfItems items ≤ room)
    : itemsToJson? room (documents items) = some (sortedItems items) := by
  match items with
  | [] => rfl
  | item :: rest =>
      rw [depthOfItems] at fits
      have first := toJson?_document item numbers.1 (Nat.le_trans (Nat.le_max_left _ _) fits)
      have later := itemsToJson?_documents rest numbers.2 (Nat.le_trans (Nat.le_max_right _ _) fits)
      simp only [documents, itemsToJson?, first, later]
      rfl
termination_by structural items

theorem membersToJson?_memberDocuments (members : List (String × Json))
    (numbers : NumbersOfMembersReadBack members) {room : Nat}
    (fits : depthOfMembers members ≤ room)
    : membersToJson? room (memberDocuments members) = some (sortedMembers members) := by
  match members with
  | [] => rfl
  | (key, value) :: rest =>
      rw [depthOfMembers] at fits
      have first := toJson?_document value numbers.1 (Nat.le_trans (Nat.le_max_left _ _) fits)
      have later :=
        membersToJson?_memberDocuments rest numbers.2 (Nat.le_trans (Nat.le_max_right _ _) fits)
      simp only [memberDocuments, membersToJson?, first, later]
      rfl
termination_by structural members

end

-----------------------------------------------------------------------------------------
-- What is read is in order
-----------------------------------------------------------------------------------------

theorem membersAreOrdered_iff {members : List (String × Json)}
    : MembersAreOrdered members ↔ ∀ member ∈ members, member.2.IsOrdered := by
  induction members with
  | nil => exact ⟨fun _ _ member => absurd member List.not_mem_nil, fun _ => trivial⟩
  | cons member members ih => rw [MembersAreOrdered, ih, List.forall_mem_cons]

mutual

/-- A value that is read has its members in order, by induction on the document. -/
theorem isOrdered_of_toJson? (document : Document) {room : Nat} {value : Json}
    (read : document.toJson? room = some value)
    : value.IsOrdered := by
  match document, room with
  | .null, _ =>
      cases read
      trivial
  | .bool _, _ =>
      cases read
      trivial
  | .number _, _ =>
      obtain ⟨_, _, rfl⟩ := Option.map_eq_some_iff.mp read
      trivial
  | .string _, _ =>
      obtain ⟨_, _, rfl⟩ := Option.map_eq_some_iff.mp read
      trivial
  | .array items, room + 1 =>
      obtain ⟨values, inside, rfl⟩ := Option.map_eq_some_iff.mp read
      exact itemsAreOrdered_of_itemsToJson? items inside
  | .object members, room + 1 =>
      obtain ⟨values, inside, rfl⟩ := Option.map_eq_some_iff.mp read
      have ordered := membersAreOrdered_iff.mp (membersAreOrdered_of_membersToJson? members inside)
      exact ⟨(OrderedMap.ofList values).ascending, membersAreOrdered_iff.mpr fun member held =>
        ordered member (OrderedMap.mem_of_mem_ofList held)⟩
termination_by structural document

theorem itemsAreOrdered_of_itemsToJson? (items : List Document) {room : Nat} {values : List Json}
    (read : itemsToJson? room items = some values)
    : ItemsAreOrdered values := by
  match items with
  | [] =>
      cases read
      trivial
  | item :: rest =>
      obtain ⟨value, first, read⟩ := Option.bind_eq_some_iff.mp read
      obtain ⟨later, others, read⟩ := Option.bind_eq_some_iff.mp read
      cases read
      exact ⟨isOrdered_of_toJson? item first, itemsAreOrdered_of_itemsToJson? rest others⟩
termination_by structural items

theorem membersAreOrdered_of_membersToJson? (members : List (Option String × Document))
    {room : Nat} {values : List (String × Json)}
    (read : membersToJson? room members = some values)
    : MembersAreOrdered values := by
  match members with
  | [] =>
      cases read
      trivial
  | (key, value) :: rest =>
      obtain ⟨key, _, read⟩ := Option.bind_eq_some_iff.mp read
      obtain ⟨value, first, read⟩ := Option.bind_eq_some_iff.mp read
      obtain ⟨later, others, read⟩ := Option.bind_eq_some_iff.mp read
      cases read
      exact ⟨isOrdered_of_toJson? _ first, membersAreOrdered_of_membersToJson? rest others⟩
termination_by structural members

end

end Json

end ValueHistory
