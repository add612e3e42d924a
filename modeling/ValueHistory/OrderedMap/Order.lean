import ValueHistory.Text.Bytes

/-! Strict orders on the keys of ordered maps. Byte strings and texts compare by their first
difference, a proper beginning coming first; pairs compare by their first components and then
by their second ones.
-/

namespace ValueHistory

/-- A type whose elements stand in one line: `before` is a strict and total order. -/
class KeyOrder (κ : Type) where
  before : κ → κ → Bool
  irrefl : ∀ a, before a a = false
  trans : ∀ {a b c}, before a b = true → before b c = true → before a c = true
  total : ∀ {a b}, a ≠ b → before a b = false → before b a = true

namespace KeyOrder

/-- Two keys are never before each other. -/
theorem asymm {κ : Type} [KeyOrder κ] {a b : κ} (h : before a b = true) : before b a = false := by
  cases back : before b a with
  | false => rfl
  | true => exact absurd (trans h back) (by simp [irrefl])

/-- A key is not before itself, so keys in order differ. -/
theorem ne {κ : Type} [KeyOrder κ] {a b : κ} (h : before a b = true) : a ≠ b := by
  rintro rfl
  simp [irrefl] at h

-----------------------------------------------------------------------------------------
-- Lists compare by their first difference
-----------------------------------------------------------------------------------------

/-- The order of lists by their first difference. -/
def lexBefore {α : Type} [KeyOrder α] : List α → List α → Bool
  | _, [] => false
  | [], _ :: _ => true
  | a :: left, b :: right => before a b || (!before b a && lexBefore left right)

theorem lexBefore_irrefl {α : Type} [KeyOrder α] (list : List α)
    : lexBefore list list = false := by
  induction list with
  | nil => rfl
  | cons a rest ih => simp [lexBefore, irrefl, ih]

theorem lexBefore_total {α : Type} [KeyOrder α] {left right : List α}
    (different : left ≠ right) (h : lexBefore left right = false)
    : lexBefore right left = true := by
  induction left generalizing right with
  | nil =>
    cases right with
    | nil => exact absurd rfl different
    | cons b right => simp [lexBefore] at h
  | cons a left ih =>
    cases right with
    | nil => rfl
    | cons b right =>
      simp only [lexBefore, Bool.or_eq_false_iff, Bool.and_eq_false_iff,
        Bool.not_eq_false'] at h
      obtain ⟨notBefore, back | rest⟩ := h
      · simp [lexBefore, back]
      · by_cases same : a = b
        · subst same
          simp [lexBefore, irrefl, ih (fun e => different (by rw [e])) rest]
        · simp [lexBefore, total same notBefore]

theorem lexBefore_trans {α : Type} [KeyOrder α] {first second third : List α}
    (h : lexBefore first second = true) (h' : lexBefore second third = true)
    : lexBefore first third = true := by
  induction first generalizing second third with
  | nil =>
    cases third with
    | nil => cases second <;> simp [lexBefore] at h'
    | cons c third => rfl
  | cons a first ih =>
    cases second with
    | nil => simp [lexBefore] at h
    | cons b second =>
      cases third with
      | nil => simp [lexBefore] at h'
      | cons c third =>
        simp only [lexBefore, Bool.or_eq_true, Bool.and_eq_true, Bool.not_eq_true'] at h h' ⊢
        rcases h with ab | ⟨ba, ab⟩ <;> rcases h' with bc | ⟨cb, bc⟩
        · exact .inl (trans ab bc)
        · by_cases same : b = c
          · subst same
            exact .inl ab
          · exact .inl (trans ab (total (Ne.symm same) cb))
        · by_cases same : a = b
          · subst same
            exact .inl bc
          · exact .inl (trans (total (Ne.symm same) ba) bc)
        · by_cases same : a = b
          · subst same
            by_cases same' : a = c
            · subst same'
              exact .inr ⟨irrefl a, ih ab bc⟩
            · exact .inl (total (Ne.symm same') cb)
          · have strict := total (Ne.symm same) ba
            by_cases same' : b = c
            · subst same'
              exact .inl strict
            · exact .inl (trans strict (total (Ne.symm same') cb))

/-- Lists compare by their first difference. -/
instance {α : Type} [KeyOrder α] : KeyOrder (List α) where
  before := lexBefore
  irrefl := lexBefore_irrefl
  trans := lexBefore_trans
  total := lexBefore_total

-----------------------------------------------------------------------------------------
-- Orders of the keys of this library
-----------------------------------------------------------------------------------------

/-- Bytes compare as numbers. -/
instance : KeyOrder UInt8 where
  before a b := decide (a.toNat < b.toNat)
  irrefl a := by simp
  trans h h' := by simp_all; omega
  total different h := by
    have : _ ≠ _ := fun e => different (UInt8.toNat_inj.1 e)
    simp_all
    omega

/-- Characters compare by their code points. -/
instance : KeyOrder Char where
  before a b := decide (a.toNat < b.toNat)
  irrefl a := by simp
  trans h h' := by simp_all; omega
  total different h := by
    have : _ ≠ _ := fun e => different (Char.toNat_inj.1 e)
    simp_all
    omega

/-- Texts compare by their characters, which is also the order of their UTF-8 bytes. -/
instance : KeyOrder String where
  before a b := before a.toList b.toList
  irrefl a := irrefl a.toList
  trans h h' := trans (κ := List Char) h h'
  total different h := total (κ := List Char) (fun e => different (String.toList_inj.1 e)) h

/-- Pairs compare by the first component, and by the second one where the first is the same. -/
instance {α β : Type} [KeyOrder α] [KeyOrder β] [DecidableEq α] : KeyOrder (α × β) where
  before a b := before a.1 b.1 || (decide (a.1 = b.1) && before a.2 b.2)
  irrefl a := by simp [irrefl]
  trans := by
    rintro ⟨a, a'⟩ ⟨b, b'⟩ ⟨c, c'⟩ h h'
    simp only [Bool.or_eq_true, Bool.and_eq_true, decide_eq_true_eq] at h h' ⊢
    rcases h with h | ⟨rfl, h⟩ <;> rcases h' with h' | ⟨rfl, h'⟩
    · exact .inl (trans h h')
    · exact .inl h
    · exact .inl h'
    · exact .inr ⟨rfl, trans h h'⟩
  total := by
    rintro ⟨a, a'⟩ ⟨b, b'⟩ different h
    simp only [Bool.or_eq_false_iff, Bool.and_eq_false_iff, decide_eq_false_iff_not] at h
    simp only [Bool.or_eq_true, Bool.and_eq_true, decide_eq_true_eq]
    by_cases same : a = b
    · subst same
      refine .inr ⟨rfl, total (fun e => different (by rw [e])) ?_⟩
      exact h.2.resolve_left (by simp)
    · exact .inl (total same h.1)

end KeyOrder

end ValueHistory
