import Mathlib.Algebra.Group.Nat.Defs
import ValueHistory.OrderedMap.Order
import ValueHistory.Text.Decimal

/-! Padded decimal notation reads back, and rows of equally many digits sort as the numbers that
they denote, also as the beginnings of longer byte strings.
-/

namespace ValueHistory

namespace Bytes

theorem ofString_cons (c : Char) (rest : List Char)
    : ofString (String.ofList (c :: rest))
      = String.utf8EncodeChar c ++ ofString (String.ofList rest) := by
  have head : ofString (String.ofList [c]) = String.utf8EncodeChar c := by
    simp [ofString, List.utf8Encode_singleton]
  rw [← head, ← ofString_append, ← String.ofList_append]
  rfl

theorem ofString_ofList_append (left right : List Char)
    : ofString (String.ofList (left ++ right))
      = ofString (String.ofList left) ++ ofString (String.ofList right) := by
  rw [String.ofList_append, ofString_append]

/-- An ASCII character is one byte, its code. -/
theorem utf8EncodeChar_of_ascii {c : Char} (ascii : c.toNat < 128)
    : String.utf8EncodeChar c = [c.val.toUInt8] := by
  refine String.utf8EncodeChar_eq_singleton (Char.utf8Size_eq_one_iff.mpr ?_)
  have : c.val.toNat < 128 := ascii
  exact UInt32.le_iff_toNat_le.mpr (by simpa using by omega)

theorem toNat_byte_of_ascii {c : Char} (ascii : c.toNat < 128) : c.val.toUInt8.toNat = c.toNat := by
  have : c.val.toNat < 128 := ascii
  simp only [UInt32.toNat_toUInt8, Char.toNat_val]
  omega

end Bytes

namespace KeyOrder

/-- What follows equally long lists does not change which of two different ones comes first, by
induction on both.
-/
theorem lexBefore_append {α : Type} [KeyOrder α] {left right : List α}
    (same : left.length = right.length) (h : lexBefore left right = true) (more next : List α)
    : lexBefore (left ++ more) (right ++ next) = true := by
  induction left generalizing right with
  | nil =>
      cases right with
      | nil => simp [lexBefore] at h
      | cons b right => simp at same
  | cons a left ih =>
      cases right with
      | nil => simp at same
      | cons b right =>
          simp only [List.length_cons, Nat.add_right_cancel_iff] at same
          simp only [lexBefore, Bool.or_eq_true, Bool.and_eq_true, Bool.not_eq_true',
            List.cons_append] at h ⊢
          rcases h with first | ⟨front, rest⟩
          · exact .inl first
          · exact .inr ⟨front, ih same rest⟩

/-- A common beginning does not count in the order of lists. -/
theorem lexBefore_append_left {α : Type} [KeyOrder α] (common left right : List α)
    : lexBefore (common ++ left) (common ++ right) = lexBefore left right := by
  induction common with
  | nil => rfl
  | cons a common ih => simp [lexBefore, irrefl, ih]

end KeyOrder

namespace Decimal

theorem digit_bounds {c : Char} (digit : c.isDigit = true) : 48 ≤ c.toNat ∧ c.toNat ≤ 57 := by
  simpa using Char.isDigit_iff_toNat.mp digit

/-- Padding adds digits and no other characters. -/
theorem isDigit_of_mem_padded {width n : Nat} {c : Char} (member : c ∈ padded width n)
    : c.isDigit = true := by
  rcases List.mem_append.mp member with zero | digit
  · rw [(List.mem_replicate.mp zero).2]
    decide
  · exact Nat.isDigit_of_mem_toDigits (by decide) (by decide) digit

theorem length_padded {width n : Nat} (positive : 0 < width) (fits : n < 10 ^ width)
    : (padded width n).length = width := by
  have short : (digits n).length ≤ width :=
    (Nat.length_toDigits_le_iff (by decide) positive).mpr fits
  simp only [padded, List.length_append, List.length_replicate]
  omega

theorem padded_ne_nil (width n : Nat) : padded width n ≠ [] := by
  simp [padded, digits]

theorem value_padded (width n : Nat) : value (padded width n) = n := by
  change Nat.ofDigitChars 10 (padded width n) 0 = n
  rw [padded, Nat.ofDigitChars_append, Nat.ofDigitChars_replicate_zero, Nat.mul_zero]
  exact Nat.ofDigitChars_ten_toDigits

theorem natural?_padded (width n : Nat) : natural? (padded width n) = some n := by
  have digits : (padded width n).all Char.isDigit = true :=
    List.all_eq_true.mpr fun _ => isDigit_of_mem_padded
  simp [natural?, padded_ne_nil, digits, value_padded]

/-- Padded notation of a number in range reads as a 64-bit integer, since a digit is no sign. -/
theorem integer64?_padded (width n : Nat) (fits : (n : Int) ≤ maxInteger64)
    : integer64? (padded width n) = some (n : Int) := by
  have inRange : fitsInteger64 (n : Int) = true := by
    have low : minInteger64 ≤ 0 := by decide
    have positive := Int.natCast_nonneg n
    simpa [fitsInteger64, fits] using Int.le_trans low positive
  have read := natural?_padded width n
  have digit := fun c => @isDigit_of_mem_padded width n c
  unfold integer64?
  split
  · next equal => exact absurd (digit '-' (by simp [equal])) (by decide)
  · next equal => exact absurd (digit '+' (by simp [equal])) (by decide)
  · simp [read, inRange]

-----------------------------------------------------------------------------------------
-- The order of digits
-----------------------------------------------------------------------------------------

/-- The first digit of a row counts as often as there are numbers of the remaining length. -/
theorem value_cons (c : Char) (row : List Char)
    : value (c :: row) = 10 ^ row.length * digitValue c + value row := by
  change Nat.ofDigitChars 10 (c :: row) 0 = _ + Nat.ofDigitChars 10 row 0
  rw [Nat.ofDigitChars_cons, Nat.ofDigitChars_eq_ofDigitChars_zero, Nat.mul_zero, Nat.zero_add]
  rfl

/-- A row of digits denotes a number below the power of its length. -/
theorem value_lt {row : List Char} (digits : ∀ c ∈ row, c.isDigit = true)
    : value row < 10 ^ row.length := by
  induction row with
  | nil => decide
  | cons c row ih =>
      have tail := ih fun d member => digits d (List.mem_cons_of_mem c member)
      have head : digitValue c ≤ 9 := by
        have bounds := digit_bounds (digits c List.mem_cons_self)
        simp only [digitValue]
        omega
      have block := Nat.mul_le_mul_left (10 ^ row.length) head
      rw [value_cons, List.length_cons, Nat.pow_succ]
      omega

theorem length_ofString_digits {row : List Char} (digits : ∀ c ∈ row, c.isDigit = true)
    : (Bytes.ofString (String.ofList row)).length = row.length := by
  induction row with
  | nil => rfl
  | cons c row ih =>
      have bounds := digit_bounds (digits c List.mem_cons_self)
      rw [Bytes.ofString_cons, Bytes.utf8EncodeChar_of_ascii (by omega), List.length_append,
        ih fun d member => digits d (List.mem_cons_of_mem c member)]
      simp only [List.length_cons, List.length_nil]
      omega

/-- Of equally long rows of digits the one with the smaller number comes first as bytes, by
induction on both: a smaller first digit outweighs all that follows.
-/
theorem before_of_value_lt {left right : List Char} (same : left.length = right.length)
    (leftDigits : ∀ c ∈ left, c.isDigit = true) (rightDigits : ∀ c ∈ right, c.isDigit = true)
    (less : value left < value right)
    : KeyOrder.lexBefore (Bytes.ofString (String.ofList left))
        (Bytes.ofString (String.ofList right)) = true := by
  induction left generalizing right with
  | nil =>
      cases right with
      | nil => simp at less
      | cons d right => simp at same
  | cons c left ih =>
      cases right with
      | nil => simp at same
      | cons d right =>
          simp only [List.length_cons, Nat.add_right_cancel_iff] at same
          have c_bounds := digit_bounds (leftDigits c List.mem_cons_self)
          have d_bounds := digit_bounds (rightDigits d List.mem_cons_self)
          have leftRest : ∀ e ∈ left, e.isDigit = true :=
            fun e member => leftDigits e (List.mem_cons_of_mem c member)
          have rightRest : ∀ e ∈ right, e.isDigit = true :=
            fun e member => rightDigits e (List.mem_cons_of_mem d member)
          rw [value_cons, value_cons, same] at less
          have below : digitValue c ≤ digitValue d := by
            have room := value_lt rightRest
            rcases Nat.lt_or_ge (digitValue d) (digitValue c) with more | fine
            · have step := Nat.mul_le_mul_left (10 ^ right.length) more
              rw [Nat.mul_succ] at step
              omega
            · exact fine
          rw [Bytes.ofString_cons, Bytes.ofString_cons,
            Bytes.utf8EncodeChar_of_ascii (by omega), Bytes.utf8EncodeChar_of_ascii (by omega)]
          simp only [List.cons_append, List.nil_append, KeyOrder.lexBefore, KeyOrder.before,
            Bytes.toNat_byte_of_ascii (show c.toNat < 128 by omega),
            Bytes.toNat_byte_of_ascii (show d.toNat < 128 by omega), Bool.or_eq_true,
            Bool.and_eq_true, decide_eq_true_eq, Bool.not_eq_true', decide_eq_false_iff_not]
          simp only [digitValue] at below less
          rcases Nat.lt_or_ge c.toNat d.toNat with first | last
          · exact .inl first
          · have equal : c.toNat - 48 = d.toNat - 48 := by omega
            rw [equal] at less
            exact .inr ⟨by omega, ih same leftRest rightRest (by omega)⟩

/-- Of two numbers that fit the width the smaller one comes first in padded notation, whatever
follows.
-/
theorem before_padded {width m n : Nat} (positive : 0 < width) (fits : n < 10 ^ width)
    (less : m < n) (more next : Bytes)
    : KeyOrder.before (Bytes.ofString (String.ofList (padded width m)) ++ more)
        (Bytes.ofString (String.ofList (padded width n)) ++ next) = true := by
  have same : (padded width m).length = (padded width n).length := by
    rw [length_padded positive fits, length_padded positive (Nat.lt_trans less fits)]
  have digits : ∀ k, ∀ c ∈ padded width k, c.isDigit = true := fun k c => isDigit_of_mem_padded
  refine KeyOrder.lexBefore_append ?_ (before_of_value_lt same (digits m) (digits n) ?_) more next
  · rw [length_ofString_digits (digits m), length_ofString_digits (digits n), same]
  · rwa [value_padded, value_padded]

end Decimal

end ValueHistory
