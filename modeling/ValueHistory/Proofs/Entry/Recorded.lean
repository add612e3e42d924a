import Mathlib.Data.List.Basic
import ValueHistory.Cursor.Scan
import ValueHistory.Proofs.Entry.Key
import ValueHistory.Proofs.OrderedMap.Entries

/-! Entries that were recorded from accepted observations. They stand in a bucket in the order of
their times, the parts of their keys are those of the observations that they read back as, and no
two of them read back as the same one.
-/

namespace ValueHistory

open KeyOrder

namespace Observation

/-- The milliseconds of an observation, zero where it has no time. -/
def millis (value : Observation) : Int :=
  (value.time.map Timestamp.millis).getD 0

/-- An accepted observation is the one that was given, with the time at which it was accepted
where it had none.
-/
theorem check_eq_ok {now : Timestamp} {value accepted : Observation}
    (h : value.check now = .ok accepted)
    : accepted = { value with time := some (value.time.getD now) }
      ∧ value.thing ≠ ""
      ∧ IsPart value.name
      ∧ IsPart value.sender
      ∧ 0 ≤ (value.time.getD now).nanos := by
  simp only [check] at h
  repeat'
    split at h
    · cases h
  next thing _ _ name sender past =>
    cases h
    exact ⟨rfl, thing, name, sender, by omega⟩

/-- An encoded observation has a time, and its entry is its key at that time with its data. -/
theorem encode_eq_ok {value : Observation} {entry : Entry} (h : value.encode = .ok entry)
    : ∃ time, value.time = some time ∧ entry = (value.keyAt time, value.data.toBytes) := by
  simp only [encode] at h
  split at h
  · cases h
  · next time known =>
      cases h
      exact ⟨time, known, rfl⟩

end Observation

namespace Affordance

/-- A tag that tells a kind is the tag of this kind. -/
theorem tag_of_ofTag? {text : String} {kind : Affordance} (h : ofTag? text = some kind)
    : kind.tag = text := by
  simpa using List.find?_some h

end Affordance

namespace Entry

/-- The milliseconds in the key of an entry, zero where the key is not one of four parts. -/
def millis (entry : Entry) : Int :=
  ((Key.parse? entry.1).map Key.millis).getD 0

/-- The observation of an entry, if the entry can be read as one. -/
def observation? (thing : String) (entry : Entry) : Option Observation :=
  match decode thing entry with
  | .ok value => value
  | .error _ => none

/-- An observation and the parts of the key that it was read from agree. -/
theorem decode_of_parse? {thing : String} {entry : Entry} {key : Key} {value : Observation}
    (parsed : Key.parse? entry.1 = some key) (decoded : decode thing entry = .ok (some value))
    : value.thing = thing
      ∧ value.name = key.name
      ∧ Affordance.ofTag? key.tag = some value.affordance
      ∧ value.sender = key.sender
      ∧ ∃ time, value.time = some time ∧ Timestamp.ofMillis? key.millis = some time := by
  obtain ⟨text, millis, readable, parts, number⟩ := Key.parse?_eq_some parsed
  simp only [decode, readable, parts, number, Option.bind_some] at decoded
  split at decoded
  · cases decoded
  · next time inRange =>
      simp only [affordance?, List.getElem?_cons_succ, List.getElem?_cons_zero,
        String.ofList_toList] at decoded
      split at decoded
      · cases decoded
      · next affordance known =>
          split at decoded
          · cases decoded
          · cases decoded
            exact ⟨rfl, by simp, known, by simp, time, rfl, inRange⟩

end Entry

namespace Selection

/-- An entry that a selection accepts has a key, and its observation is selected and agrees with
that key.
-/
theorem accept?_eq_some {selection : Selection} {entry : Entry} {value : Observation}
    (h : selection.accept? entry = some value)
    : ∃ key,
        Key.parse? entry.1 = some key
        ∧ selection.selects key.name = true
        ∧ Entry.decode selection.thing entry = .ok (some value) := by
  simp only [accept?] at h
  split at h
  · cases h
  · next key parsed =>
      split at h
      · next selected =>
          split at h
          · next decoded => exact ⟨key, parsed, selected, h ▸ decoded⟩
          · cases h
      · cases h

/-- An accepted observation has the milliseconds of its entry. -/
theorem millis_of_accept? {selection : Selection} {entry : Entry} {value : Observation}
    (h : selection.accept? entry = some value)
    : value.millis = entry.millis := by
  obtain ⟨key, parsed, _, decoded⟩ := accept?_eq_some h
  obtain ⟨_, _, _, _, time, known, inRange⟩ := Entry.decode_of_parse? parsed decoded
  simp only [Observation.millis, Entry.millis, known, parsed, Option.map_some, Option.getD_some]
  exact Timestamp.millis_of_ofMillis? inRange

/-- An accepted observation has a time. -/
theorem exists_time_of_accept? {selection : Selection} {entry : Entry} {value : Observation}
    (h : selection.accept? entry = some value)
    : ∃ time, value.time = some time ∧ time.millis = value.millis := by
  obtain ⟨key, parsed, _, decoded⟩ := accept?_eq_some h
  obtain ⟨_, _, _, _, time, known, _⟩ := Entry.decode_of_parse? parsed decoded
  refine ⟨time, known, ?_⟩
  rw [Observation.millis, known]
  rfl

end Selection

-----------------------------------------------------------------------------------------
-- Recorded entries
-----------------------------------------------------------------------------------------

/-- An entry that was recorded for a Thing: that of an observation accepted at some time. -/
def Entry.IsRecorded (thing : String) (entry : Entry) : Prop :=
  ∃ (now : Timestamp) (value accepted : Observation),
    value.check now = .ok accepted ∧ accepted.thing = thing ∧ accepted.encode = .ok entry

/-- A bucket that holds recorded entries only. -/
def Bucket.Recorded (thing : String) (bucket : Bucket) : Prop :=
  ∀ entry ∈ bucket.entries, Entry.IsRecorded thing entry

/-- An accepted observation with a time is recorded under its key at that time. -/
theorem Observation.isRecorded (now : Timestamp) (value : Observation) {time : Timestamp}
    (accepted : value.check now = .ok value) (known : value.time = some time)
    : Entry.IsRecorded value.thing (value.keyAt time, value.data.toBytes) := by
  refine ⟨now, value, value, accepted, rfl, ?_⟩
  rw [encode, known]
  rfl

/-- The entry of an accepted observation has the milliseconds of its time. -/
theorem Observation.millis_of_encode {now : Timestamp} {value accepted : Observation}
    {entry : Entry} (checked : value.check now = .ok accepted)
    (encoded : accepted.encode = .ok entry)
    : entry.millis = (value.time.getD now).millis := by
  obtain ⟨same, _, name, sender, present⟩ := check_eq_ok checked
  obtain ⟨time, known, rfl⟩ := encode_eq_ok encoded
  have parsed : Key.parse? (accepted.keyAt time) = some _ :=
    Key.parse?_keyAt time (by rw [same]; exact name) (by rw [same]; exact sender)
  rw [same] at known
  cases known
  rw [Entry.millis, parsed]
  exact Timestamp.keyMillis_of_nonneg present

namespace Entry.IsRecorded

variable {thing : String} {entry : Entry}

/-- A recorded entry has the key of an observation at a time from 1970 on. -/
theorem exists_keyAt (recorded : entry.IsRecorded thing)
    : ∃ (value : Observation) (time : Timestamp),
        entry.1 = value.keyAt time
        ∧ 0 ≤ time.nanos
        ∧ IsPart value.name
        ∧ IsPart value.sender := by
  obtain ⟨now, value, accepted, checked, _, encoded⟩ := recorded
  obtain ⟨rfl, _, name, sender, present⟩ := Observation.check_eq_ok checked
  obtain ⟨time, known, rfl⟩ := Observation.encode_eq_ok encoded
  cases known
  exact ⟨_, _, rfl, present, name, sender⟩

/-- The milliseconds of a recorded entry are those of the time in its key. -/
theorem exists_millis (recorded : entry.IsRecorded thing)
    : ∃ (value : Observation) (time : Timestamp),
        entry.1 = value.keyAt time
        ∧ Key.parse? entry.1
          = some
              { millis := time.keyMillis, name := value.name, tag := value.affordance.tag
                sender := value.sender }
        ∧ entry.millis = time.keyMillis := by
  obtain ⟨value, time, same, _, name, sender⟩ := recorded.exists_keyAt
  have parsed := Key.parse?_keyAt time name sender
  rw [← same] at parsed
  exact ⟨value, time, same, parsed, by simp [Entry.millis, parsed]⟩

theorem millis_nonneg (recorded : entry.IsRecorded thing) : 0 ≤ entry.millis := by
  obtain ⟨_, time, _, _, equal⟩ := recorded.exists_millis
  omega

/-- A recorded entry of earlier milliseconds has the key that comes first. -/
theorem before_of_millis_lt {later : Entry} (recorded : entry.IsRecorded thing)
    (laterRecorded : later.IsRecorded thing) (less : entry.millis < later.millis)
    : before entry.1 later.1 = true := by
  obtain ⟨value, time, same, _, equal⟩ := recorded.exists_millis
  obtain ⟨laterValue, laterTime, laterSame, _, laterEqual⟩ := laterRecorded.exists_millis
  rw [same, laterSame]
  exact Observation.before_keyAt (by omega)

/-- A recorded entry whose key comes first is not the later one. -/
theorem millis_le_of_before {later : Entry} (recorded : entry.IsRecorded thing)
    (laterRecorded : later.IsRecorded thing) (front : before entry.1 later.1 = true)
    : entry.millis ≤ later.millis := by
  rcases Int.lt_or_le later.millis entry.millis with less | most
  · have back := laterRecorded.before_of_millis_lt recorded less
    exact absurd front (by simp [asymm back])
  · exact most

/-- The key of a time lies above the recorded entries of earlier milliseconds and no others. -/
theorem before_ofTime (recorded : entry.IsRecorded thing) (start : Timestamp)
    : before entry.1 (Key.ofTime start) = decide (entry.millis < start.keyMillis) := by
  obtain ⟨value, time, same, _, equal⟩ := recorded.exists_millis
  rw [same, Observation.before_ofTime, equal]
  simp only [Int.ofNat_lt]

/-- A recorded entry has the key of the observation that a selection accepts from it. -/
theorem key_of_accept? {selection : Selection} {value : Observation}
    (recorded : entry.IsRecorded thing) (accepted : selection.accept? entry = some value)
    : ∃ time, value.time = some time ∧ entry.1 = value.keyAt time := by
  obtain ⟨original, written, same, parsed, _⟩ := recorded.exists_millis
  obtain ⟨key, parsedAgain, _, decoded⟩ := Selection.accept?_eq_some accepted
  rw [parsed] at parsedAgain
  cases parsedAgain
  obtain ⟨_, name, tag, sender, time, known, inRange⟩ := Entry.decode_of_parse? parsed decoded
  refine ⟨time, known, ?_⟩
  have cut : time.millis = written.keyMillis := Timestamp.millis_of_ofMillis? inRange
  have timeText : Key.timeText time = Key.timeText written := by
    simp only [Key.timeText, cut, Timestamp.keyMillis]
    congr 1
  rw [same]
  simp only [Observation.keyAt, Observation.keyText, name, sender, timeText,
    Affordance.tag_of_ofTag? tag]

end Entry.IsRecorded

namespace Bucket

/-- The observations of a bucket: those of the entries that can be read, in the order of keys. -/
def observations (thing : String) (bucket : Bucket) : List Observation :=
  bucket.entries.filterMap (Entry.observation? thing)

/-- The observations of a bucket that a selection selects, in the order of keys. -/
def matching (selection : Selection) (bucket : Bucket) : List Observation :=
  (bucket.observations selection.thing).filter fun value => selection.selects value.name

/-- A selection accepts the selected observations from recorded entries. -/
theorem matching_eq_filterMap {thing : String} {bucket : Bucket} (recorded : bucket.Recorded thing)
    (selection : Selection)
    : bucket.matching selection = bucket.entries.filterMap selection.accept? := by
  rw [matching, observations, List.filter_filterMap]
  refine List.filterMap_congr fun entry member => ?_
  obtain ⟨original, time, _, parsed, _⟩ := (recorded entry member).exists_millis
  simp only [Selection.accept?, Entry.observation?, parsed]
  cases decoded : Entry.decode selection.thing entry with
  | error failure => simp
  | ok found =>
      cases found with
      | none => simp
      | some value =>
          obtain ⟨_, name, _⟩ := Entry.decode_of_parse? parsed decoded
          simp only [Option.filter, name]

theorem recorded_empty (thing : String) : Bucket.Recorded thing .empty :=
  fun _ member => absurd member List.not_mem_nil

theorem Recorded.insert {thing : String} {bucket : Bucket} {entry : Entry}
    (recorded : bucket.Recorded thing) (added : entry.IsRecorded thing)
    : Bucket.Recorded thing (bucket.insert entry.1 entry.2) := by
  intro other member
  rcases OrderedMap.mem_insert_iff.mp member with rfl | ⟨kept, _⟩
  · exact added
  · exact recorded other kept

/-- Recorded entries stand in the order of their times. -/
theorem chronological {thing : String} {bucket : Bucket} (recorded : bucket.Recorded thing)
    : bucket.entries.Pairwise fun earlier later => Entry.millis earlier ≤ Entry.millis later :=
  bucket.ascending.imp_of_mem fun member laterMember front =>
    (recorded _ member).millis_le_of_before (recorded _ laterMember) front

/-- The values read from recorded entries stand in the order of their times. -/
theorem chronological_matching {thing : String} {bucket : Bucket}
    (recorded : bucket.Recorded thing) (selection : Selection)
    : (bucket.matching selection).Pairwise fun earlier later => earlier.millis ≤ later.millis := by
  rw [matching_eq_filterMap recorded]
  refine List.pairwise_filterMap.mpr ((chronological recorded).imp ?_)
  intro a b less value read other otherRead
  rw [Selection.millis_of_accept? read, Selection.millis_of_accept? otherRead]
  exact less

/-- A condition on the times of the values read from recorded entries is one on the entries. -/
theorem filter_matching {thing : String} {bucket : Bucket} (recorded : bucket.Recorded thing)
    (selection : Selection) (condition : Int → Bool)
    : (bucket.matching selection).filter (fun value => condition value.millis)
      = (bucket.entries.filter fun entry => condition (Entry.millis entry)).filterMap
          selection.accept? := by
  rw [matching_eq_filterMap recorded, List.filter_filterMap, List.filterMap_filter]
  refine List.filterMap_congr fun entry _ => ?_
  cases accepted : selection.accept? entry with
  | none => simp
  | some value =>
      rw [← Selection.millis_of_accept? accepted]
      rfl

/-- No observation is read twice from recorded entries, since it tells its key. -/
theorem nodup_matching {thing : String} {bucket : Bucket} (recorded : bucket.Recorded thing)
    (selection : Selection)
    : (bucket.matching selection).Nodup := by
  rw [matching_eq_filterMap recorded]
  refine List.pairwise_filterMap.mpr (bucket.ascending.imp_of_mem ?_)
  intro a b aMember bMember front value found other otherFound same
  subst same
  obtain ⟨time, known, key⟩ := (recorded a aMember).key_of_accept? found
  obtain ⟨again, knownAgain, keyAgain⟩ := (recorded b bMember).key_of_accept? otherFound
  rw [known] at knownAgain
  cases knownAgain
  exact ne front (key.trans keyAgain.symm)

end Bucket

/-- A property of a lamp that its switch has set at a time. -/
def Observation.ofLamp (name : String) (time : Timestamp) : Observation :=
  { thing := "lamp", name, affordance := .property, sender := "switch", time := some time
    data := .bool true }

/-- The bucket of a lamp of which two properties were set in the first millisecond of 1970. -/
def Bucket.ofLamp : Bucket :=
  let record (bucket : Bucket) (value : Observation) : Bucket :=
    bucket.insert (value.keyAt .epoch) value.data.toBytes
  record (record .empty (.ofLamp "on" .epoch)) (.ofLamp "bright" .epoch)

theorem Bucket.recorded_ofLamp : Bucket.Recorded "lamp" Bucket.ofLamp := by
  have on : Entry.IsRecorded "lamp" _ :=
    Observation.isRecorded .epoch (.ofLamp "on" .epoch) rfl rfl
  have bright : Entry.IsRecorded "lamp" _ :=
    Observation.isRecorded .epoch (.ofLamp "bright" .epoch) rfl rfl
  exact ((recorded_empty "lamp").insert on).insert bright

end ValueHistory
