import Mathlib.Data.List.Dedup
import ValueHistory.Proofs.Entry.Recorded

/-! Slots: the milliseconds, the name, the affordance and the sender of an observation. They are
what its key tells, so that a bucket has room for one entry in each slot, and an accepted value
takes the place of the one before it.
-/

namespace ValueHistory

open KeyOrder

/-- What tells the entries of a Thing apart. -/
structure Slot where
  millis : Int
  name : String
  affordance : Affordance
  sender : String
deriving DecidableEq, Repr

/-- The slot of an observation. -/
def Observation.slot (value : Observation) : Slot :=
  { millis := value.millis, name := value.name, affordance := value.affordance
    sender := value.sender }

/-- The slot of an entry, if its key is one of an observation. -/
def Entry.slot? (entry : Entry) : Option Slot := do
  let key ← Key.parse? entry.1
  let affordance ← Affordance.ofTag? key.tag
  some { millis := key.millis, name := key.name, affordance, sender := key.sender }

/-- An entry tells its slot by its key alone. -/
theorem Entry.slot?_of_key_eq {entry other : Entry} (same : entry.1 = other.1)
    : entry.slot? = other.slot? := by
  rw [slot?, slot?, same]

namespace Observation

/-- An observation that was accepted at some time. -/
def IsAccepted (value : Observation) : Prop :=
  ∃ (now : Timestamp) (original : Observation), original.check now = .ok value

variable {value other : Observation} {entry otherEntry : Entry}

/-- An accepted observation has an entry, which holds its data. -/
theorem IsAccepted.exists_encode (accepted : value.IsAccepted)
    : ∃ key, value.encode = .ok (key, value.data.toBytes) := by
  obtain ⟨now, original, checked⟩ := accepted
  obtain ⟨rfl, _⟩ := check_eq_ok checked
  exact ⟨_, rfl⟩

/-- The key of an accepted observation tells its slot. -/
theorem IsAccepted.slot?_of_encode (accepted : value.IsAccepted)
    (encoded : value.encode = .ok entry)
    : entry.slot? = some value.slot := by
  obtain ⟨now, original, checked⟩ := accepted
  obtain ⟨same, _, name, sender, present⟩ := check_eq_ok checked
  obtain ⟨time, known, rfl⟩ := encode_eq_ok encoded
  have own : original.time.getD now = time := by
    rw [same] at known
    exact Option.some.inj known
  rw [own] at present
  have parsed : Key.parse? (value.keyAt time) = some _ :=
    Key.parse?_keyAt time (by rw [same]; exact name) (by rw [same]; exact sender)
  simp [Entry.slot?, parsed, Affordance.ofTag?_tag, slot, millis, known,
    Timestamp.keyMillis_of_nonneg present]

/-- Observations in one slot have one key. -/
theorem key_eq_of_slot_eq (encoded : value.encode = .ok entry)
    (otherEncoded : other.encode = .ok otherEntry) (same : value.slot = other.slot)
    : entry.1 = otherEntry.1 := by
  obtain ⟨time, known, rfl⟩ := encode_eq_ok encoded
  obtain ⟨otherTime, otherKnown, rfl⟩ := encode_eq_ok otherEncoded
  simp only [slot, millis, known, otherKnown, Option.map_some, Option.getD_some, Slot.mk.injEq]
    at same
  obtain ⟨millis, name, affordance, sender⟩ := same
  simp only [keyAt, keyText, Key.timeText, millis, name, affordance, sender]

end Observation

-----------------------------------------------------------------------------------------
-- The last values of slots
-----------------------------------------------------------------------------------------

/-- The last one of accepted values that is in a slot of a Thing. -/
def lastWrite? (thing : String) (slot : Slot) (accepted : List Observation) : Option Observation :=
  (accepted.filter fun value => value.thing = thing ∧ value.slot = slot).getLast?

/-- The slots of a Thing that accepted values are in, in the order of the values. -/
def slotsOf (thing : String) (accepted : List Observation) : List Slot :=
  (accepted.filter fun value => value.thing = thing).map Observation.slot

section

variable {thing : String} {slot : Slot} {accepted : List Observation} {value : Observation}

theorem lastWrite?_concat_self (own : value.thing = thing) (accepted : List Observation)
    : lastWrite? thing value.slot (accepted ++ [value]) = some value := by
  have selected : decide (value.thing = thing ∧ value.slot = value.slot) = true :=
    decide_eq_true ⟨own, rfl⟩
  rw [lastWrite?, List.filter_append, List.filter_singleton, selected]
  exact List.getLast?_concat

theorem lastWrite?_concat_other (other : ¬(value.thing = thing ∧ value.slot = slot))
    (accepted : List Observation)
    : lastWrite? thing slot (accepted ++ [value]) = lastWrite? thing slot accepted := by
  rw [lastWrite?, List.filter_append, List.filter_singleton, decide_eq_false other, cond_false,
    List.append_nil, lastWrite?]

theorem of_lastWrite? (h : lastWrite? thing slot accepted = some value)
    : value ∈ accepted ∧ value.thing = thing ∧ value.slot = slot := by
  obtain ⟨member, own⟩ := List.mem_filter.mp (List.mem_of_getLast? h)
  exact ⟨member, of_decide_eq_true own⟩

/-- A slot has a last value if it has any. -/
theorem isSome_lastWrite?_iff
    : (lastWrite? thing slot accepted).isSome = true ↔ slot ∈ slotsOf thing accepted := by
  rw [lastWrite?, List.getLast?_isSome, slotsOf, List.mem_map, ne_eq, List.filter_eq_nil_iff]
  simp [and_assoc]

/-- Where no two values are in one slot of a Thing, each is the last one in its slot. -/
theorem lastWrite?_eq_some_iff
    (distinct : (accepted.map fun value => (value.thing, value.slot)).Nodup)
    : lastWrite? thing slot accepted = some value
      ↔ value ∈ accepted ∧ value.thing = thing ∧ value.slot = slot := by
  constructor
  · exact of_lastWrite?
  · rintro ⟨member, rfl, rfl⟩
    have used : value.slot ∈ slotsOf value.thing accepted :=
      List.mem_map_of_mem (List.mem_filter.mpr ⟨member, decide_eq_true rfl⟩)
    obtain ⟨last, found⟩ := Option.isSome_iff_exists.mp (isSome_lastWrite?_iff.mpr used)
    obtain ⟨lastMember, thing, slot⟩ := of_lastWrite? found
    have same := List.inj_on_of_nodup_map distinct lastMember member (Prod.ext thing slot)
    rw [found, same]

end

namespace Bucket

/-- A bucket holds the entries of the last values accepted for the slots of a Thing, and no others.
-/
def HoldsLast (thing : String) (accepted : List Observation) (bucket : Bucket) : Prop :=
  ∀ entry,
    entry ∈ bucket.entries
    ↔ ∃ value, lastWrite? thing value.slot accepted = some value ∧ value.encode = .ok entry

namespace HoldsLast

variable {thing : String} {accepted : List Observation} {bucket : Bucket} {value : Observation}

theorem of_entries_eq_nil (none : bucket.entries = []) : bucket.HoldsLast thing [] := by
  intro entry
  rw [none]
  simp [lastWrite?]

/-- The entry of an accepted value takes the place of the one in its slot. -/
theorem insert (holds : bucket.HoldsLast thing accepted)
    (all : ∀ other ∈ accepted, other.IsAccepted) (last : value.IsAccepted)
    (own : value.thing = thing) {entry : Entry} (encoded : value.encode = .ok entry)
    : HoldsLast thing (accepted ++ [value]) (bucket.insert entry.1 entry.2) := by
  intro other
  rw [OrderedMap.mem_insert_iff, holds]
  constructor
  · rintro (rfl | ⟨⟨earlier, before, encodedEarlier⟩, different⟩)
    · exact ⟨value, lastWrite?_concat_self own accepted, encoded⟩
    · refine ⟨earlier, ?_, encodedEarlier⟩
      rw [lastWrite?_concat_other, before]
      rintro ⟨_, same⟩
      exact different (Observation.key_eq_of_slot_eq encodedEarlier encoded same.symm)
  · rintro ⟨latest, found, encodedLatest⟩
    by_cases same : value.slot = latest.slot
    · rw [← same, lastWrite?_concat_self own accepted] at found
      cases found
      exact .inl (Except.ok.inj (encodedLatest.symm.trans encoded))
    · rw [lastWrite?_concat_other fun both => same both.2] at found
      refine .inr ⟨⟨latest, found, encodedLatest⟩, fun key => same ?_⟩
      have told := (all latest (of_lastWrite? found).1).slot?_of_encode encodedLatest
      rw [Entry.slot?_of_key_eq key, last.slot?_of_encode encoded] at told
      exact Option.some.inj told

/-- A value of another Thing changes nothing. -/
theorem keep (holds : bucket.HoldsLast thing accepted) (other : value.thing ≠ thing)
    : bucket.HoldsLast thing (accepted ++ [value]) := by
  intro entry
  rw [holds entry]
  refine exists_congr fun earlier => ?_
  rw [lastWrite?_concat_other fun both => other both.1]

section

variable (holds : bucket.HoldsLast thing accepted) (all : ∀ other ∈ accepted, other.IsAccepted)

include holds all

/-- An entry is that of the last value in the slot that it tells. -/
theorem exists_lastWrite {entry : Entry} (member : entry ∈ bucket.entries)
    : ∃ value,
        entry.slot? = some value.slot
        ∧ lastWrite? thing value.slot accepted = some value
        ∧ value.encode = .ok entry := by
  obtain ⟨value, found, encoded⟩ := (holds entry).mp member
  exact ⟨value, (all value (of_lastWrite? found).1).slot?_of_encode encoded, found, encoded⟩

/-- The only entry in a slot, if there is one, holds the data of the last value. -/
theorem payloads_eq (slot : Slot)
    : (bucket.entries.filter fun entry => Entry.slot? entry = some slot).map (·.2)
      = ((lastWrite? thing slot accepted).map fun value => value.data.toBytes).toList := by
  cases found : lastWrite? thing slot accepted with
  | none =>
      rw [Option.map_none, Option.toList_none, List.map_eq_nil_iff, List.filter_eq_nil_iff]
      intro entry member told
      obtain ⟨value, own, last, _⟩ := exists_lastWrite holds all member
      rw [own, decide_eq_true_eq, Option.some.injEq] at told
      rw [told, found] at last
      cases last
  | some value =>
      obtain ⟨member, _, rfl⟩ := of_lastWrite? found
      obtain ⟨key, encoded⟩ := (all value member).exists_encode
      have single
          : (bucket.entries.filter fun entry => Entry.slot? entry = some value.slot)
            = [(key, value.data.toBytes)] := by
        refine OrderedMap.entries_eq_of_mem_iff (bucket.ascending.filter _)
          (List.pairwise_singleton ..) fun entry => ?_
        rw [List.mem_filter, List.mem_singleton, decide_eq_true_eq]
        constructor
        · rintro ⟨stored, told⟩
          obtain ⟨last, own, foundLast, encodedLast⟩ := exists_lastWrite holds all stored
          rw [Option.some.inj (own.symm.trans told), found] at foundLast
          cases foundLast
          exact Except.ok.inj (encodedLast.symm.trans encoded)
        · rintro rfl
          exact ⟨(holds _).mpr ⟨value, found, encoded⟩,
            (all value member).slot?_of_encode encoded⟩
      rw [single]
      rfl

/-- A bucket has as many entries as there are slots with values. -/
theorem size_eq : bucket.size = (slotsOf thing accepted).dedup.length := by
  have different : (bucket.entries.map Entry.slot?).Nodup := by
    refine List.pairwise_map.mpr (bucket.ascending.imp_of_mem ?_)
    intro entry other member otherMember front same
    obtain ⟨value, own, found, encoded⟩ := exists_lastWrite holds all member
    obtain ⟨otherValue, otherOwn, otherFound, otherEncoded⟩ :=
      exists_lastWrite holds all otherMember
    rw [same, otherOwn] at own
    rw [Option.some.inj own] at otherFound
    cases found.symm.trans otherFound
    cases encoded.symm.trans otherEncoded
    exact ne front rfl
  have distinct : ((slotsOf thing accepted).dedup.map some).Nodup :=
    (List.nodup_dedup _).map fun _ _ => Option.some.inj
  have same : (bucket.entries.map Entry.slot?).Perm ((slotsOf thing accepted).dedup.map some) := by
    refine (List.perm_ext_iff_of_nodup different distinct).mpr fun told => ?_
    rw [List.mem_map, List.mem_map]
    constructor
    · rintro ⟨entry, member, rfl⟩
      obtain ⟨value, own, found, _⟩ := exists_lastWrite holds all member
      have used := isSome_lastWrite?_iff.mp (Option.isSome_of_eq_some found)
      exact ⟨value.slot, List.mem_dedup.mpr used, own.symm⟩
    · rintro ⟨slot, used, rfl⟩
      obtain ⟨value, found⟩ :=
        Option.isSome_iff_exists.mp (isSome_lastWrite?_iff.mpr (List.mem_dedup.mp used))
      obtain ⟨member, _, rfl⟩ := of_lastWrite? found
      obtain ⟨key, encoded⟩ := (all value member).exists_encode
      exact ⟨_, (holds _).mpr ⟨value, found, encoded⟩, (all value member).slot?_of_encode encoded⟩
  have lengths := same.length_eq
  rwa [List.length_map, List.length_map] at lengths

end

end HoldsLast

end Bucket

end ValueHistory
