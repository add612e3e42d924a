import ValueHistory.Proofs.Text.Decimal

/-! Rows of digits with text after them: where a row ends, and what the readers leave of it. -/

namespace ValueHistory.Decimal

/-- A text that does not go on with a digit. -/
def Ends (text : List Char) : Prop :=
  ∀ c, text.head? = some c → c.isDigit = false

theorem ends_nil : Ends [] :=
  nofun

theorem ends_cons {c : Char} (other : c.isDigit = false) (rest : List Char) : Ends (c :: rest) := by
  rintro _ ⟨⟩
  exact other

theorem span_of_ends {text : List Char} (ends : Ends text) : span text = ([], text) := by
  cases text with
  | nil => rfl
  | cons c rest =>
      have other := ends c rfl
      simp [span, other]

/-- Text that does not go on with a digit stays behind the digits that are read. -/
theorem span_append (text : List Char) {rest : List Char} (ends : Ends rest)
    : span (text ++ rest) = ((span text).1, (span text).2 ++ rest) := by
  induction text with
  | nil => exact span_of_ends ends
  | cons c text ih =>
      simp only [span, Prod.mk.injEq] at ih
      cases digit : c.isDigit with
      | false => simp [span, digit]
      | true => simp [span, digit, ih.1, ih.2]

theorem span_of_digits {row : List Char} (digits : ∀ c ∈ row, c.isDigit = true)
    : span row = (row, []) := by
  induction row with
  | nil => rfl
  | cons c row ih =>
      have tail := ih fun d member => digits d (List.mem_cons_of_mem c member)
      simp only [span, Prod.mk.injEq] at tail
      simp [span, digits c List.mem_cons_self, tail.1, tail.2]

/-- A positive number is written without leading zeros, by induction on its digits. -/
theorem head?_digits_ne_zero {n : Nat} (positive : 0 < n) : (digits n).head? ≠ some '0' := by
  induction n using Nat.strongRecOn with
  | ind n ih =>
      rw [digits, Nat.toDigits_eq_if (by decide)]
      split
      · simpa using Nat.ne_of_gt positive
      · next large =>
          have front := ih (n / 10) (by omega) (by omega)
          obtain ⟨c, more, same⟩ :=
            List.exists_cons_of_ne_nil (Nat.toDigits_ne_nil : Nat.toDigits 10 (n / 10) ≠ [])
          rw [digits, same] at front
          rw [same]
          exact front

theorem span_digits (n : Nat) : span (digits n) = (digits n, []) :=
  span_of_digits fun _ => Nat.isDigit_of_mem_toDigits (by decide) (by decide)

theorem value_digits (n : Nat) : value (digits n) = n :=
  Nat.ofDigitChars_ten_toDigits

theorem value_replicate_zero (count : Nat) : value (List.replicate count '0') = 0 := by
  change Nat.ofDigitChars 10 _ 0 = 0
  rw [Nat.ofDigitChars_replicate_zero, Nat.mul_zero]

theorem fixed?_padded {width n : Nat} (positive : 0 < width) (fits : n < 10 ^ width)
    (rest : List Char)
    : fixed? width (padded width n ++ rest) = some (n, rest) := by
  have length := length_padded positive fits
  simp only [fixed?, List.take_left' length, List.drop_left' length, length, if_true,
    natural?_padded, Option.map_some]

end ValueHistory.Decimal
