import ValueHistory.Proofs.Entry.Recoding

/-! The two readers of keys agree. One reads the four parts of a key and nothing else; the other
reads an entry as an observation, and bears with fewer or more parts. Where the first one reads a
key, its parts and the payload decide what the second one answers.
-/

namespace ValueHistory

-----------------------------------------------------------------------------------------
-- What a key tells
-----------------------------------------------------------------------------------------

/-- The tags of the kinds of affordance. -/
theorem Affordance.exists_tag_iff {text : String}
    : (∃ kind : Affordance, kind.tag = text) ↔ text ∈ ["p", "e", "a"] := by
  constructor
  · rintro ⟨kind, rfl⟩
    cases kind <;> simp [tag]
  · intro letter
    simp only [List.mem_cons, List.not_mem_nil, or_false] at letter
    rcases letter with rfl | rfl | rfl
    · exact ⟨property, rfl⟩
    · exact ⟨event, rfl⟩
    · exact ⟨action, rfl⟩

/-- A tag tells the kind that it is the tag of. -/
theorem Affordance.ofTag?_eq_some_iff {text : String} {kind : Affordance}
    : ofTag? text = some kind ↔ kind.tag = text :=
  ⟨tag_of_ofTag?, fun same => same ▸ ofTag?_tag kind⟩

/-- The milliseconds of a key are those of an instant in the years -9999 to 9999. -/
def Key.InYears (key : Key) : Prop :=
  -377705116800000 ≤ key.millis ∧ key.millis ≤ 253402300799999

instance (key : Key) : Decidable key.InYears :=
  inferInstanceAs (Decidable (_ ∧ _))

/-- The instants of these years are the ones that times can tell. -/
theorem Key.exists_ofMillis?_iff {key : Key}
    : (∃ time, Timestamp.ofMillis? key.millis = some time) ↔ key.InYears := by
  rw [Timestamp.ofMillis?, Timestamp.ofNanos?, dif_pos (by decide), InYears,
    ← Option.isSome_iff_exists]
  split
  · next range =>
      simp only [nanosPerSecond] at range
      exact iff_of_true rfl (by omega)
  · next outside =>
      simp only [nanosPerSecond] at outside
      exact iff_of_false Bool.false_ne_true (by omega)

/-- An observation has the name, the sender, the tag and the instant that a key tells. -/
structure Observation.IsToldBy (value : Observation) (key : Key) : Prop where
  name : value.name = key.name
  sender : value.sender = key.sender
  tag : value.affordance.tag = key.tag
  time : ∃ time, value.time = some time ∧ time.nanos = key.millis * 1000000 ∧ time.offset = 0

/-- Of one Thing and with the same data a key tells one observation only. -/
theorem Observation.IsToldBy.unique {value other : Observation} {key : Key}
    (told : value.IsToldBy key) (otherTold : other.IsToldBy key)
    (thing : value.thing = other.thing) (data : value.data = other.data)
    : value = other := by
  obtain ⟨time, known, nanos, offset⟩ := told.time
  obtain ⟨otherTime, otherKnown, otherNanos, otherOffset⟩ := otherTold.time
  have sameTime : time = otherTime := by
    cases time
    cases otherTime
    simp only at nanos offset otherNanos otherOffset
    simp only [Timestamp.mk.injEq]
    exact ⟨nanos.trans otherNanos.symm, offset.trans otherOffset.symm⟩
  have sameKind : value.affordance = other.affordance := by
    have known := Affordance.ofTag?_eq_some_iff.mpr (told.tag.trans otherTold.tag.symm)
    exact Option.some.inj (known.symm.trans (Affordance.ofTag?_tag _))
  have sameName := told.name.trans otherTold.name.symm
  have sameSender := told.sender.trans otherTold.sender.symm
  have sameInstant := known.trans (sameTime ▸ otherKnown.symm)
  cases value
  cases other
  simp_all only

-----------------------------------------------------------------------------------------
-- What an entry reads as
-----------------------------------------------------------------------------------------

namespace Entry

variable {thing text : String} {entry : Entry} {key : Key}

/-- A payload is unreadable if there is one and it is not JSON. -/
theorem payloadData?_eq_none_iff {payload : Bytes}
    : payloadData? payload = none ↔ payload ≠ [] ∧ Json.ofBytes? payload = none := by
  cases payload <;> simp [payloadData?]

/-- How an entry can be read whose key has four parts. Of what may be wrong the instant comes first,
then the tag, then the payload.
-/
inductive Reads (thing text : String) (entry : Entry) (key : Key)
    : Except Failure (Option Observation) → Prop where
  | nothing (outside : ¬key.InYears) : Reads thing text entry key (.ok none)
  | unknownTag (inside : key.InYears) (unknown : key.tag ∉ ["p", "e", "a"])
    : Reads thing text entry key (.error (.unknownTag text))
  | undecodable (inside : key.InYears) (known : key.tag ∈ ["p", "e", "a"])
      (unreadable : payloadData? entry.2 = none)
    : Reads thing text entry key (.error (.undecodable text))
  | value {value : Observation} (inside : key.InYears) (own : value.thing = thing)
      (told : value.IsToldBy key) (reads : payloadData? entry.2 = some value.data)
    : Reads thing text entry key (.ok (some value))

/-- The lenient reader goes by the parts that the strict one reads. -/
theorem decode_reads (thing : String) (readable : entry.1.toString? = some text)
    (parsed : Key.parse? entry.1 = some key)
    : Reads thing text entry key (decode thing entry) := by
  obtain ⟨read, millis, same, parts, number⟩ := Key.parse?_eq_some parsed
  cases readable.symm.trans same
  simp only [decode, readable, parts, number, Option.bind_some, affordance?,
    List.getElem?_cons_succ, List.getElem?_cons_zero, String.ofList_toList]
  split
  · next untold =>
      refine .nothing fun inside => ?_
      obtain ⟨time, told⟩ := Key.exists_ofMillis?_iff.mpr inside
      cases untold.symm.trans told
  · next time told =>
      have inside := Key.exists_ofMillis?_iff.mp ⟨time, told⟩
      split
      · next untagged =>
          refine .unknownTag inside fun letter => ?_
          obtain ⟨kind, tag⟩ := Affordance.exists_tag_iff.mpr letter
          cases untagged.symm.trans (Affordance.ofTag?_eq_some_iff.mpr tag)
      · next kind known =>
          have tag := Affordance.tag_of_ofTag? known
          split
          · next unreadable =>
              exact .undecodable inside (Affordance.exists_tag_iff.mp ⟨kind, tag⟩) unreadable
          · next data reads =>
              refine .value inside rfl ⟨rfl, ?_, tag, time, rfl, ?_⟩ reads
              · simp
              · exact Timestamp.nanos_of_ofMillis? told

/-- An entry cannot be read in two ways, since the conditions exclude each other. -/
theorem Reads.unique {outcome other : Except Failure (Option Observation)}
    (reads : Reads thing text entry key outcome) (otherReads : Reads thing text entry key other)
    : outcome = other := by
  cases reads with
  | nothing outside =>
      cases otherReads with
      | nothing => rfl
      | unknownTag inside | undecodable inside | value inside => exact absurd inside outside
  | unknownTag inside unknown =>
      cases otherReads with
      | nothing outside => exact absurd inside outside
      | unknownTag => rfl
      | undecodable _ known => exact absurd known unknown
      | value _ _ told => exact absurd (Affordance.exists_tag_iff.mp ⟨_, told.tag⟩) unknown
  | undecodable inside known unreadable =>
      cases otherReads with
      | nothing outside => exact absurd inside outside
      | unknownTag _ unknown => exact absurd known unknown
      | undecodable => rfl
      | value _ _ _ data => cases unreadable.symm.trans data
  | value inside own told data =>
      cases otherReads with
      | nothing outside => exact absurd inside outside
      | unknownTag _ unknown =>
          exact absurd (Affordance.exists_tag_iff.mp ⟨_, told.tag⟩) unknown
      | undecodable _ _ unreadable => cases unreadable.symm.trans data
      | value _ otherOwn otherTold otherData =>
          have sameData := Option.some.inj (data.symm.trans otherData)
          rw [told.unique otherTold (own.trans otherOwn.symm) sameData]

/-- What an entry reads as, told by the parts of its key and by its payload: it is an observation,
one of two failures, or nothing, each under its own condition and no other.
-/
structure ReadsBy (thing text : String) (entry : Entry) (key : Key) : Prop where
  answered
    : (∃ value, decode thing entry = .ok (some value))
      ∨ decode thing entry = .error (.unknownTag text)
      ∨ decode thing entry = .error (.undecodable text)
      ∨ decode thing entry = .ok none
  value
    : ∀ value,
        decode thing entry = .ok (some value)
        ↔ key.InYears
          ∧ value.thing = thing
          ∧ value.IsToldBy key
          ∧ payloadData? entry.2 = some value.data
  unknownTag
    : decode thing entry = .error (.unknownTag text)
      ↔ key.InYears ∧ key.tag ∉ ["p", "e", "a"]
  undecodable
    : decode thing entry = .error (.undecodable text)
      ↔ key.InYears
        ∧ key.tag ∈ ["p", "e", "a"]
        ∧ entry.2 ≠ []
        ∧ Json.ofBytes? entry.2 = none
  nothing : decode thing entry = .ok none ↔ ¬key.InYears

theorem Reads.readsBy (reads : Reads thing text entry key (decode thing entry))
    : ReadsBy thing text entry key := by
  refine ⟨?_, fun value => ⟨fun same => ?_, ?_⟩, ⟨fun same => ?_, ?_⟩, ⟨fun same => ?_, ?_⟩,
    ⟨fun same => ?_, ?_⟩⟩
  · generalize decode thing entry = outcome at reads
    cases reads with
    | nothing => exact .inr (.inr (.inr rfl))
    | unknownTag => exact .inr (.inl rfl)
    | undecodable => exact .inr (.inr (.inl rfl))
    | value => exact .inl ⟨_, rfl⟩
  · rw [same] at reads
    cases reads with
    | value inside own told data => exact ⟨inside, own, told, data⟩
  · rintro ⟨inside, own, told, data⟩
    exact reads.unique (.value inside own told data)
  · rw [same] at reads
    cases reads with
    | unknownTag inside unknown => exact ⟨inside, unknown⟩
  · rintro ⟨inside, unknown⟩
    exact reads.unique (.unknownTag inside unknown)
  · rw [same] at reads
    cases reads with
    | undecodable inside known unreadable =>
        exact ⟨inside, known, payloadData?_eq_none_iff.mp unreadable⟩
  · rintro ⟨inside, known, unreadable⟩
    exact reads.unique (.undecodable inside known (payloadData?_eq_none_iff.mpr unreadable))
  · rw [same] at reads
    cases reads with
    | nothing outside => exact outside
  · intro outside
    exact reads.unique (.nothing outside)

/-- The two readers of keys agree. Where the strict one reads a key of four parts, the lenient one
answers with the observation of exactly these parts; or with the failure of an unknown tag or of an
unreadable payload, or with nothing, each exactly if it is the first thing wrong: the instant lies
outside the years -9999 to 9999, the tag is none of a kind, or there is a payload and it is not
JSON. And where the lenient one answers with an observation, the strict one reads the key exactly if
it has four parts. Witness: both readers split one text, and differ only in what they ask of its
parts.
-/
theorem readers_agree (thing : String) (entry : Entry)
    : (∀ key,
        Key.parse? entry.1 = some key
        → ∃ text, entry.1.toString? = some text ∧ ReadsBy thing text entry key)
      ∧ ∀ value,
          decode thing entry = .ok (some value)
          → ∃ text,
              entry.1.toString? = some text
              ∧ ((Text.split keySeparator text.toList).length = 4
                ↔ ∃ key, Key.parse? entry.1 = some key) := by
  refine ⟨fun key parsed => ?_, fun value decoded => ?_⟩
  · obtain ⟨text, _, readable, _, _⟩ := Key.parse?_eq_some parsed
    exact ⟨text, readable, (decode_reads thing readable parsed).readsBy⟩
  · cases readable : entry.1.toString? with
    | none => simp [decode, readable] at decoded
    | some text =>
        refine ⟨text, rfl, fun four => exists_parse?_of_decode readable four decoded, ?_⟩
        rintro ⟨key, parsed⟩
        obtain ⟨read, _, same, parts, _⟩ := Key.parse?_eq_some parsed
        cases readable.symm.trans same
        rw [parts]
        rfl

/-- The key of a lamp with milliseconds and a tag as they are given. -/
def lampKey (millis tag : String) : Bytes :=
  Bytes.ofString (millis ++ "/on/" ++ tag ++ "/switch")

/-- A key with a sign is read by both readers; a tag of no kind, a payload that is no text and an
instant that no time tells are answered each in its way; a part too many keeps off the strict one.
-/
theorem lamp_readers_agree
    : (∃ key,
        Key.parse? (lampKey "+0" "p") = some key
        ∧ (Observation.ofLamp "on" .epoch).IsToldBy key
        ∧ decode "lamp" (lampKey "+0" "p", (Json.bool true).toBytes)
          = .ok (some (.ofLamp "on" .epoch)))
      ∧ decode "lamp" (lampKey "0" "x", []) = .error (.unknownTag "0/on/x/switch")
      ∧ decode "lamp" (lampKey "0" "p", [255]) = .error (.undecodable "0/on/p/switch")
      ∧ decode "lamp" (lampKey "999999999999999" "p", []) = .ok none
      ∧ (∃ value,
          decode "lamp" (lampKey "0" "p/switch", []) = .ok (some value)
          ∧ ¬∃ key, Key.parse? (lampKey "0" "p/switch") = some key) := by
  have text (millis tag : String) : (lampKey millis tag).toString? = _ := Bytes.toString?_ofString _
  refine ⟨?_, ?_, ?_, ?_, ?_⟩
  · obtain ⟨_, _, told⟩ :=
      (readers_agree "lamp" (lampKey "+0" "p", (Json.bool true).toBytes)).1 ⟨0, "on", "p", "switch"⟩
        (by rfl)
    have decoded : decode "lamp" (lampKey "+0" "p", (Json.bool true).toBytes) = _ := rfl
    exact ⟨_, rfl, ((told.value (.ofLamp "on" .epoch)).mp decoded).2.2.1, decoded⟩
  · obtain ⟨_, readable, told⟩ :=
      (readers_agree "lamp" (lampKey "0" "x", [])).1 ⟨0, "on", "x", "switch"⟩ (by rfl)
    cases (text "0" "x").symm.trans readable
    exact told.unknownTag.mpr ⟨by decide, by decide⟩
  · obtain ⟨_, readable, told⟩ :=
      (readers_agree "lamp" (lampKey "0" "p", [255])).1 ⟨0, "on", "p", "switch"⟩ (by rfl)
    cases (text "0" "p").symm.trans readable
    exact told.undecodable.mpr ⟨by decide, by decide, by decide, by rfl⟩
  · obtain ⟨_, _, told⟩ :=
      (readers_agree "lamp" (lampKey "999999999999999" "p", [])).1
        ⟨999999999999999, "on", "p", "switch"⟩ (by rfl)
    exact told.nothing.mpr (by decide)
  · have decoded : decode "lamp" (lampKey "0" "p/switch", []) = .ok (some _) := rfl
    obtain ⟨_, readable, four⟩ := (readers_agree "lamp" _).2 _ decoded
    refine ⟨_, decoded, four.not.mp ?_⟩
    cases (text "0" "p/switch").symm.trans readable
    decide

end Entry

end ValueHistory
