import ValueHistory.Proofs.Entry.Key

/-! Keys between the key of a time and the key of an observation at this time. Whoever has written
them, those that can be read have the milliseconds of the time: what goes on after its digits is a
separator or is no digit.
-/

namespace ValueHistory

open KeyOrder

namespace Bytes

/-- Only the bytes of a text spell it. -/
theorem ofString_of_toString? {bytes : Bytes} {text : String} (h : toString? bytes = some text)
    : ofString text = bytes := by
  simp only [toString?, String.fromUTF8?] at h
  split at h
  · cases h
    rfl
  · cases h

/-- A character whose first byte is below 128 is that byte and has no other. -/
theorem exists_utf8EncodeChar (c : Char)
    : ∃ first rest,
        String.utf8EncodeChar c = first :: rest
        ∧ (first.toNat < 128 → c.toNat = first.toNat ∧ rest = []) := by
  fun_cases String.utf8EncodeChar c
  · next code small =>
      have byte : (UInt8.ofNat code).toNat = code % 256 := rfl
      have same : c.toNat = code := rfl
      exact ⟨_, _, rfl, fun _ => ⟨by omega, rfl⟩⟩
  all_goals
    refine ⟨_, _, rfl, fun low => absurd low ?_⟩
    simp only [UInt8.toNat_ofNat']
    omega

/-- A text whose bytes begin with those of ASCII characters begins with the characters, by induction
on them.
-/
theorem eq_append_of_ofString {ascii text : List Char} {rest : Bytes}
    (small : ∀ c ∈ ascii, c.toNat < 128)
    (h : ofString (String.ofList text) = ofString (String.ofList ascii) ++ rest)
    : ∃ later, text = ascii ++ later ∧ ofString (String.ofList later) = rest := by
  induction ascii generalizing text with
  | nil => exact ⟨text, rfl, h⟩
  | cons d ascii ih =>
      have low := small d List.mem_cons_self
      rw [ofString_cons, utf8EncodeChar_of_ascii low] at h
      cases text with
      | nil => cases h
      | cons c text =>
          obtain ⟨first, others, encoded, single⟩ := exists_utf8EncodeChar c
          rw [ofString_cons, encoded] at h
          obtain ⟨same, following⟩ := List.cons_eq_cons.mp h
          have byte := toNat_byte_of_ascii low
          obtain ⟨code, rfl⟩ := single (by rw [same, byte]; exact low)
          have equal : c = d := Char.toNat_inj.mp (by rw [code, same, byte])
          obtain ⟨later, split, bytes⟩ :=
            ih (fun e member => small e (List.mem_cons_of_mem d member)) following
          exact ⟨later, by rw [equal, split]; rfl, bytes⟩

end Bytes

/-- A list between another one and a continuation of this one continues it too, by induction. -/
theorem KeyOrder.eq_append_of_between {α : Type} [KeyOrder α] {key front rest : List α}
    (low : lexBefore key front = false) (high : lexBefore key (front ++ rest) = true)
    : ∃ later, key = front ++ later ∧ lexBefore later rest = true := by
  induction front generalizing key with
  | nil => exact ⟨key, rfl, high⟩
  | cons a front ih =>
      cases key with
      | nil => cases low
      | cons b key =>
          simp only [lexBefore, List.cons_append, Bool.or_eq_true, Bool.or_eq_false_iff,
            Bool.and_eq_true, Bool.and_eq_false_iff, Bool.not_eq_true', Bool.not_eq_false']
            at low high
          obtain ⟨notLess, more⟩ := low
          obtain ⟨notMore, further⟩ := high.resolve_left (by simp [notLess])
          have same : b = a := Classical.byContradiction fun different =>
            absurd (total different notLess) (by simp [notMore])
          obtain ⟨later, split, less⟩ := ih (more.resolve_left (by simp [notMore])) further
          exact ⟨later, by rw [same, split]; rfl, less⟩

/-- A text that is read as an integer holds digits after its first character. -/
theorem Decimal.isDigit_of_mem_tail {text : List Char} {n : Int} (read : integer64? text = some n)
    {c : Char} (member : c ∈ text.tail)
    : c.isDigit = true := by
  have digits {row : List Char} {m : Nat} (number : natural? row = some m)
      : ∀ d ∈ row, d.isDigit = true := by
    simp only [natural?] at number
    split at number
    · cases number
    · next fits => simp_all
  unfold integer64? at read
  split at read
  all_goals
    obtain ⟨m, number, _⟩ := Option.bind_eq_some_iff.mp read
  · exact digits number c member
  · exact digits number c member
  · exact digits number c (List.mem_of_mem_tail member)

namespace Text

/-- What stands in front of a text without a separator belongs to the first part of it, by
induction on the part.
-/
theorem split_append_of_not_mem {separator : Char} {front : List Char} (absent : separator ∉ front)
    {text : List Char} {part : List Char} {parts : List (List Char)}
    (parted : split separator text = part :: parts)
    : split separator (front ++ text) = (front ++ part) :: parts := by
  induction front with
  | nil => exact parted
  | cons c front ih =>
      obtain ⟨different, later⟩ := not_or.mp (mt List.mem_cons.mpr absent)
      simp [split, Ne.symm different, ih later]

theorem exists_split_cons {separator c : Char} (different : c ≠ separator) (text : List Char)
    : ∃ part parts, split separator (c :: text) = (c :: part) :: parts := by
  rw [split, if_neg different]
  cases split separator text with
  | nil => exact ⟨_, _, rfl⟩
  | cons part parts => exact ⟨_, _, rfl⟩

end Text

namespace Key

/-- A key that is not below the key of a time, and below the key of an observation at this time, has
the milliseconds of the time if it can be read.
-/
theorem millis_of_between {bytes : Bytes} {key : Key} {value : Observation} {time : Timestamp}
    (low : before bytes (ofTime time) = false) (high : before bytes (value.keyAt time) = true)
    (parsed : parse? bytes = some key)
    : key.millis = time.keyMillis := by
  obtain ⟨text, millis, readable, parts, number⟩ := parse?_eq_some parsed
  rw [value.keyAt_eq] at high
  obtain ⟨later, rfl, less⟩ := eq_append_of_between low high
  have digits : ∀ c ∈ timeText time, c.toNat < 128 := fun c member => by
    have bounds := Decimal.digit_bounds (isDigit_of_mem_timeText member)
    omega
  have spelled := Bytes.ofString_of_toString? readable
  rw [← @String.ofList_toList text] at spelled
  obtain ⟨tail, split, bytes⟩ := Bytes.eq_append_of_ofString digits spelled
  have absent := not_mem_timeText time
  rw [split] at parts
  cases tail with
  | nil =>
      rw [List.append_nil, Text.split_of_not_mem absent] at parts
      cases parts
  | cons c tail =>
      by_cases slash : c = keySeparator
      · rw [slash, Text.split_append absent] at parts
        rw [← (List.cons_eq_cons.mp parts).1, integer64?_timeText] at number
        exact (Option.some.inj number).symm
      · -- a byte below the separator is a character that is no digit, so that no number is read
        obtain ⟨part, others, parted⟩ := Text.exists_split_cons slash tail
        rw [Text.split_append_of_not_mem absent parted] at parts
        rw [← (List.cons_eq_cons.mp parts).1] at number
        have digit : c.isDigit = true := by
          refine Decimal.isDigit_of_mem_tail number ?_
          rw [List.tail_append_of_ne_nil (timeText_ne_nil time)]
          exact List.mem_append_right _ List.mem_cons_self
        have bounds := Decimal.digit_bounds digit
        have ascii : c.toNat < 128 := by omega
        have byte := Bytes.toNat_byte_of_ascii ascii
        have separator : keySeparator.toUInt8.toNat = 47 := rfl
        rw [← bytes, Bytes.ofString_cons, Bytes.utf8EncodeChar_of_ascii ascii] at less
        simp only [List.cons_append, lexBefore, before, byte, separator, Bool.or_eq_true,
          Bool.and_eq_true, decide_eq_true_eq, Bool.not_eq_true', decide_eq_false_iff_not] at less
        omega

end Key

end ValueHistory
