import ValueHistory.Proofs.Json.Notation

/-! The compact notation of a value is a single line, whatever texts and numbers are in it. -/

namespace ValueHistory

-----------------------------------------------------------------------------------------
-- The bytes of a text without line feeds
-----------------------------------------------------------------------------------------

namespace Bytes

theorem ne_lineFeed_of_high {byte mask : UInt8} (high : mask.toNat.testBit 7 = true)
    : 10 ≠ byte ||| mask := by
  intro same
  have bit := congrArg (fun byte : UInt8 => byte.toNat.testBit 7) same
  simp only [UInt8.toNat_or, Nat.testBit_or, high, Bool.or_true] at bit
  revert bit
  decide

/-- Only the line feed has its byte; the bytes of a character beyond ASCII are high ones. -/
theorem lineFeed_notMem_utf8EncodeChar {c : Char} (other : c ≠ '\n')
    : 10 ∉ String.utf8EncodeChar c := by
  have later (byte : UInt8) : 10 ≠ byte ||| 0x80 := ne_lineFeed_of_high (by decide)
  intro member
  rcases c.utf8Size_eq with one | two | three | four
  · have ascii : c.toNat < 128 :=
      Nat.lt_succ_of_le (UInt32.le_iff_toNat_le.mp (Char.utf8Size_eq_one_iff.mp one))
    rw [utf8EncodeChar_of_ascii ascii, List.mem_singleton] at member
    have code := toNat_byte_of_ascii ascii
    rw [← member] at code
    exact other (Char.toNat_inj.mp code.symm)
  · have first (byte : UInt8) : 10 ≠ byte ||| 0xc0 := ne_lineFeed_of_high (by decide)
    simp [String.utf8EncodeChar_eq_cons_cons two, first, later] at member
  · have first (byte : UInt8) : 10 ≠ byte ||| 0xe0 := ne_lineFeed_of_high (by decide)
    simp [String.utf8EncodeChar_eq_cons_cons_cons three, first, later] at member
  · have first (byte : UInt8) : 10 ≠ byte ||| 0xf0 := ne_lineFeed_of_high (by decide)
    simp [String.utf8EncodeChar_eq_cons_cons_cons_cons four, first, later] at member

theorem lineFeed_notMem_ofString {text : List Char} (plain : '\n' ∉ text)
    : 10 ∉ ofString (String.ofList text) := by
  induction text with
  | nil => exact List.not_mem_nil
  | cons c text ih =>
      rw [List.mem_cons, not_or] at plain
      rw [ofString_cons, List.mem_append, not_or]
      exact ⟨lineFeed_notMem_utf8EncodeChar (Ne.symm plain.1), ih plain.2⟩

end Bytes

namespace Json

-----------------------------------------------------------------------------------------
-- Numbers and texts
-----------------------------------------------------------------------------------------

theorem lineFeed_notMem_digits (n : Nat) : '\n' ∉ Decimal.digits n := by
  intro member
  have digit : '\n'.isDigit = true := Nat.isDigit_of_mem_toDigits (by decide) (by decide) member
  cases digit

section

variable {digits : List Char} (plain : '\n' ∉ digits)

include plain

theorem lineFeed_notMem_take (count : Nat) : '\n' ∉ digits.take count :=
  fun member => plain (List.mem_of_mem_take member)

theorem lineFeed_notMem_drop (count : Nat) : '\n' ∉ digits.drop count :=
  fun member => plain (List.mem_of_mem_drop member)

theorem lineFeed_notMem_positional (point : Int) : '\n' ∉ positional digits point := by
  unfold positional
  split
  · simp [plain]
  · have whole := lineFeed_notMem_take plain point.natAbs
    have fraction := lineFeed_notMem_drop plain point.natAbs
    dsimp only
    split <;> simp [whole, fraction]

theorem lineFeed_notMem_scientific (exponent : Int) : '\n' ∉ scientific digits exponent := by
  have first := lineFeed_notMem_take plain 1
  have rest := lineFeed_notMem_drop plain 1
  rw [List.drop_one] at rest
  have last := lineFeed_notMem_digits exponent.natAbs
  unfold scientific
  split <;> split <;> simp [first, rest, last]

end

theorem lineFeed_notMem_renderNumber (number : Number) : '\n' ∉ renderNumber number := by
  cases number with
  | integer value =>
      have plain := lineFeed_notMem_digits value.natAbs
      simp only [renderNumber, Decimal.signed]
      split <;> simp [plain]
  | real value =>
      have plain := lineFeed_notMem_digits value.shortest.1
      simp only [renderNumber, renderDouble]
      split <;> split <;>
        simp [lineFeed_notMem_positional plain, lineFeed_notMem_scientific plain]

theorem lineFeed_notMem_renderChar (c : Char) : '\n' ∉ renderChar c := by
  have writing := writing_renderChar c
  generalize renderChar c = written at writing
  cases writing with
  | @short letter plain stands =>
      intro member
      obtain rfl : '\n' = letter := by simpa using member
      cases stands
  | number control =>
      have digits {code : Nat} (small : code < 32)
          : '\n' ≠ Hex.digit (code / 16) ∧ '\n' ≠ Hex.digit (code % 16) := by
        revert code
        decide
      simp [digits control]
  | itself quote escape printed =>
      intro member
      obtain rfl : '\n' = c := by simpa using member
      exact printed (by decide)

theorem lineFeed_notMem_renderText (text : String) : '\n' ∉ renderText text := by
  simp [renderText, lineFeed_notMem_renderChar]

-----------------------------------------------------------------------------------------
-- Values
-----------------------------------------------------------------------------------------

mutual

/-- The notation of a value has no line feed, by induction on the value. -/
theorem lineFeed_notMem_render (value : Json) : '\n' ∉ value.render := by
  match value with
  | null => decide
  | bool true => decide
  | bool false => decide
  | number written => exact lineFeed_notMem_renderNumber written
  | string text => exact lineFeed_notMem_renderText text
  | array [] => decide
  | array (item :: items) =>
      simp [render, renderItems, lineFeed_notMem_render item, lineFeed_notMem_renderMoreItems items]
  | object [] => decide
  | object ((key, value) :: members) =>
      simp [render, renderMembers, lineFeed_notMem_renderText key, lineFeed_notMem_render value,
        lineFeed_notMem_renderMoreMembers members]
termination_by structural value

theorem lineFeed_notMem_renderMoreItems (items : List Json) : '\n' ∉ renderMoreItems items := by
  match items with
  | [] => decide
  | item :: items =>
      simp [renderMoreItems, lineFeed_notMem_render item, lineFeed_notMem_renderMoreItems items]
termination_by structural items

theorem lineFeed_notMem_renderMoreMembers (members : List (String × Json))
    : '\n' ∉ renderMoreMembers members := by
  match members with
  | [] => decide
  | (key, value) :: members =>
      simp [renderMoreMembers, lineFeed_notMem_renderText key, lineFeed_notMem_render value,
        lineFeed_notMem_renderMoreMembers members]
termination_by structural members

end

end Json

end ValueHistory
