import ValueHistory.Proofs.Entry.RoundTrip
import ValueHistory.Proofs.Entry.Slot

/-! Observations written and read again, and entries read and written again. An observation comes
back from its entry but for the fraction of its millisecond, and its key tells its slot. What is
read from a key of four parts comes back from the entry that it is written to, though this may be
another one: its key is padded and has no sign.
-/

namespace ValueHistory

/-- An observation that its entry tells in full: its name and sender may be parts of a key, and its
time is from the first millisecond of 1970 to the last of the year 9999, both in universal time.
-/
structure Observation.IsTellable (value : Observation) (time : Timestamp) : Prop where
  known : value.time = some time
  name : IsPart value.name
  sender : IsPart value.sender
  present : 0 ≤ time.nanos
  inYears : time.nanos ≤ Timestamp.maxLocal

/-- Data of which the JSON notation reads back as the same data. -/
def Json.ReadsBack (data : Json) : Prop :=
  ofBytes? data.toBytes = some data

variable {value other : Observation} {time otherTime : Timestamp} {thing : String} {entry : Entry}

-----------------------------------------------------------------------------------------
-- Observations written and read again
-----------------------------------------------------------------------------------------

/-- Data that reads back is what its payload tells, since no payload of data is empty. -/
theorem Entry.payloadData?_toBytes {data : Json} (reads : data.ReadsBack)
    : payloadData? data.toBytes = some data := by
  rw [payloadData?]
  split
  · next none =>
      rw [Json.ReadsBack, List.isEmpty_iff.mp none] at reads
      cases reads
  · exact reads

namespace Observation.IsTellable

theorem encode_eq (tellable : value.IsTellable time)
    : value.encode = .ok (value.keyAt time, value.data.toBytes) := by
  rw [encode, tellable.known]
  rfl

/-- The parts of the key are those of the observation. -/
theorem parse?_eq (tellable : value.IsTellable time)
    : Key.parse? (value.keyAt time)
      = some
          { millis := time.millis, name := value.name, tag := value.affordance.tag
            sender := value.sender } := by
  rw [Key.parse?_keyAt time tellable.name tellable.sender,
    Timestamp.keyMillis_of_nonneg tellable.present]

/-- The entry reads back as the observation with its time in whole milliseconds. -/
theorem decode_eq (tellable : value.IsTellable time) (reads : value.data.ReadsBack)
    {cut : Timestamp} (told : Timestamp.ofMillis? time.millis = some cut) (thing : String)
    : Entry.decode thing (value.keyAt time, value.data.toBytes)
      = .ok (some { value with thing, time := some cut }) := by
  rw [Entry.decode_keyAt tellable.name tellable.sender tellable.present
    (Entry.payloadData?_toBytes reads), told]
  rfl

/-- The key tells the slot. -/
theorem slot?_eq (tellable : value.IsTellable time) (payload : Bytes)
    : Entry.slot? (value.keyAt time, payload) = some value.slot := by
  simp [Entry.slot?, tellable.parse?_eq, Affordance.ofTag?_tag, slot, millis, tellable.known]

/-- Observations have one key exactly if they are in one slot. -/
theorem keyAt_eq_iff (tellable : value.IsTellable time) (otherTellable : other.IsTellable otherTime)
    : value.keyAt time = other.keyAt otherTime ↔ value.slot = other.slot := by
  constructor
  · intro same
    have told := tellable.slot?_eq []
    rw [same, otherTellable.slot?_eq] at told
    exact (Option.some.inj told).symm
  · intro same
    exact key_eq_of_slot_eq tellable.encode_eq otherTellable.encode_eq same

end Observation.IsTellable

-----------------------------------------------------------------------------------------
-- Entries read and written again
-----------------------------------------------------------------------------------------

/-- No part of a text holds the separator, by induction on the text. -/
theorem Text.not_mem_of_mem_split {separator : Char} {text part : List Char}
    (member : part ∈ split separator text)
    : separator ∉ part := by
  induction text generalizing part with
  | nil =>
      rw [split, List.mem_singleton] at member
      rw [member]
      exact List.not_mem_nil
  | cons c rest ih =>
      rw [split] at member
      split at member
      · rcases List.mem_cons.mp member with rfl | later
        · exact List.not_mem_nil
        · exact ih later
      · next different =>
          split at member
          · rw [List.mem_singleton] at member
            rw [member, List.mem_singleton]
            exact Ne.symm different
          · next head others parted =>
              rw [parted] at ih
              rcases List.mem_cons.mp member with rfl | later
              · exact List.not_mem_cons_of_ne_of_not_mem (Ne.symm different) (ih List.mem_cons_self)
              · exact ih (List.mem_cons_of_mem head later)

/-- The name and the sender of a key that was read may be parts of a key. -/
theorem Key.isPart_of_parse? {bytes : Bytes} {key : Key} (parsed : parse? bytes = some key)
    : IsPart key.name ∧ IsPart key.sender := by
  obtain ⟨text, millis, _, parts, _⟩ := parse?_eq_some parsed
  have plain (part : List Char) (member : part ∈ [millis, key.name.toList, key.tag.toList,
      key.sender.toList]) : keySeparator ∉ part :=
    Text.not_mem_of_mem_split (parts ▸ member)
  exact ⟨plain _ (by simp), plain _ (by simp)⟩

/-- An entry with a key of four parts that reads as an observation has a key that can be read. -/
theorem Entry.exists_parse?_of_decode {text : String} (readable : entry.1.toString? = some text)
    (four : (Text.split keySeparator text.toList).length = 4)
    (decoded : decode thing entry = .ok (some value))
    : ∃ key, Key.parse? entry.1 = some key := by
  obtain ⟨millis, name, tag, sender, parts⟩ := List.length_eq_four.mp four
  rw [decode, readable] at decoded
  simp only [parts] at decoded
  cases number : Decimal.integer64? millis with
  | none => simp [number] at decoded
  | some n =>
      refine ⟨⟨n, .ofList name, .ofList tag, .ofList sender⟩, ?_⟩
      simp only [Key.parse?, readable, parts, number, Option.bind_eq_bind, Option.bind_some,
        Option.map_some]

/-- What is read from a key of four parts, of a time that is not before 1970, can be told in full by
an entry.
-/
theorem Entry.exists_isTellable {key : Key} (parsed : Key.parse? entry.1 = some key)
    (decoded : decode thing entry = .ok (some value)) (present : 0 ≤ value.millis)
    : ∃ time,
        value.IsTellable time
        ∧ value.thing = thing
        ∧ Timestamp.ofMillis? time.millis = some time := by
  obtain ⟨own, name, _, sender, time, known, told⟩ := decode_of_parse? parsed decoded
  obtain ⟨namePart, senderPart⟩ := Key.isPart_of_parse? parsed
  have cut := Timestamp.millis_of_ofMillis? told
  rw [Observation.millis, known, Option.map_some, Option.getD_some] at present
  refine ⟨time, ⟨known, name ▸ namePart, sender ▸ senderPart, ?_, ?_⟩, own, cut.symm ▸ told⟩
  · have whole := (Timestamp.nanos_of_ofMillis? told).1
    omega
  · exact Timestamp.nanos_le_of_ofMillis? told

-----------------------------------------------------------------------------------------
-- Both ways
-----------------------------------------------------------------------------------------

/-- An observation of the years 1970 to 9999 with a name and a sender without separators has an
entry. Its key reads as the milliseconds, the name, the tag and the sender of the observation, and
the entry reads back as the observation with its time cut to whole milliseconds in universal time.
Two such observations have one key exactly if they agree on these parts. And an observation of 1970
or later that is read from any key of four parts has an entry, maybe another one, which reads back
as the same observation. For data it is supposed that their notation reads back. Witness: the key
and the payload are read apart, and a time is cut to whole milliseconds once.
-/
theorem Entry.tells_observation
    : (∀ {value : Observation} {time : Timestamp}, value.IsTellable time → value.data.ReadsBack
        → ∃ entry cut,
            value.encode = .ok entry
            ∧ Key.parse? entry.1
              = some
                  { millis := time.millis, name := value.name, tag := value.affordance.tag
                    sender := value.sender }
            ∧ decode value.thing entry = .ok (some { value with time := some cut })
            ∧ cut.nanos = time.nanos - time.nanos % 1000000
            ∧ cut.offset = 0)
      ∧ (∀ {value other : Observation} {time otherTime : Timestamp},
          value.IsTellable time → other.IsTellable otherTime
          → ∃ entry otherEntry,
              value.encode = .ok entry
              ∧ other.encode = .ok otherEntry
              ∧ (entry.1 = otherEntry.1 ↔ value.slot = other.slot))
      ∧ ∀ {thing : String} {entry : Entry} {text : String} {value : Observation},
          entry.1.toString? = some text
          → (Text.split keySeparator text.toList).length = 4
          → decode thing entry = .ok (some value)
          → 0 ≤ value.millis
          → value.data.ReadsBack
          → ∃ again, value.encode = .ok again ∧ decode thing again = .ok (some value) := by
  refine ⟨?_, ?_, ?_⟩
  · intro value time tellable reads
    obtain ⟨cut, told, whole⟩ := Timestamp.exists_ofMillis?_millis tellable.present tellable.inYears
    refine ⟨_, cut, tellable.encode_eq, tellable.parse?_eq, ?_, whole, ?_⟩
    · exact tellable.decode_eq reads told value.thing
    · exact (Timestamp.nanos_of_ofMillis? told).2
  · intro value other time otherTime tellable otherTellable
    exact ⟨_, _, tellable.encode_eq, otherTellable.encode_eq, tellable.keyAt_eq_iff otherTellable⟩
  · intro thing entry text value readable four decoded present reads
    obtain ⟨key, parsed⟩ := exists_parse?_of_decode readable four decoded
    obtain ⟨time, tellable, own, told⟩ := exists_isTellable parsed decoded present
    refine ⟨_, tellable.encode_eq, ?_⟩
    rw [tellable.decode_eq reads told, ← own, ← tellable.known]

/-- A time in the first two milliseconds of 1970, an hour east of Greenwich. -/
def easternInstant : Timestamp :=
  ⟨1999999, 3600, by decide, by decide⟩

/-- The lamp at this instant reads back at the whole millisecond, its brightness has another key,
and what is read from a key without padding has an entry from which it is read too.
-/
theorem lamp_told_by_entries
    : (Observation.ofLamp "on" easternInstant).IsTellable easternInstant
      ∧ (Json.bool true).ReadsBack
      ∧ (Observation.ofLamp "bright" easternInstant).IsTellable easternInstant
      ∧ (∃ entry cut,
        (Observation.ofLamp "on" easternInstant).encode = .ok entry
        ∧ Entry.decode "lamp" entry = .ok (some (.ofLamp "on" cut))
        ∧ cut.nanos = 1000000)
      ∧ (∃ entry other,
        (Observation.ofLamp "on" easternInstant).encode = .ok entry
        ∧ (Observation.ofLamp "bright" easternInstant).encode = .ok other
        ∧ entry.1 ≠ other.1)
      ∧ ∃ again,
          (Observation.ofLamp "on" .epoch).encode = .ok again
          ∧ Entry.decode "lamp" again = .ok (some (.ofLamp "on" .epoch)) := by
  have on : (Observation.ofLamp "on" easternInstant).IsTellable easternInstant :=
    ⟨rfl, by decide, by decide, by decide, by decide⟩
  have bright : (Observation.ofLamp "bright" easternInstant).IsTellable easternInstant :=
    ⟨rfl, by decide, by decide, by decide, by decide⟩
  have reads : (Json.bool true).ReadsBack := rfl
  obtain ⟨told, slots, again⟩ := Entry.tells_observation
  obtain ⟨entry, cut, encoded, _, decoded, whole, _⟩ := told on reads
  obtain ⟨onEntry, brightEntry, onEncoded, brightEncoded, same⟩ := slots on bright
  refine ⟨on, reads, bright, ⟨entry, cut, encoded, decoded, whole⟩, ?_, ?_⟩
  · refine ⟨onEntry, brightEntry, onEncoded, brightEncoded, fun equal => ?_⟩
    exact absurd (same.mp equal) (by decide)
  · exact @again "lamp" (Bytes.ofString "0/on/p/switch", (Json.bool true).toBytes) "0/on/p/switch" _
      (Bytes.toString?_ofString _) (by decide) rfl (by decide) reads

end ValueHistory
