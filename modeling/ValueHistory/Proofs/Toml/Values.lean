import Mathlib.Data.List.Basic
import ValueHistory.Proofs.Text.Digits
import ValueHistory.Proofs.Toml.Quoted
import ValueHistory.Toml.Reader

/-! Values read back: texts, lists of texts on one line or several, whole numbers and truth values,
as settings files have them.
-/

namespace ValueHistory.Toml

-----------------------------------------------------------------------------------------
-- Blanks and line ends in front of a text
-----------------------------------------------------------------------------------------

/-- A text that begins with no blank, comment or line end. -/
def Starts (text : List Char) : Prop :=
  ∀ c, text.head? = some c → c ∉ [' ', '\t', '#', '\n', '\r']

theorem starts_cons {c : Char} (start : c ∉ [' ', '\t', '#', '\n', '\r']) (text : List Char)
    : Starts (c :: text) := by
  intro first head
  cases head
  exact start

/-- A character is none of the marks that are not of its class. -/
theorem not_mem_of_any_eq_false {isOf : Char → Bool} {marks : List Char}
    (apart : marks.any isOf = false) {c : Char} (holds : isOf c = true)
    : c ∉ marks :=
  fun mark => List.any_eq_false.mp apart c mark holds

section

variable {text : List Char}

theorem skipBlanks_of_starts (starts : Starts text) : skipBlanks text = text := by
  cases text with
  | nil => rfl
  | cons c text =>
      have start := starts c rfl
      simp only [List.mem_cons, not_or] at start
      simp [skipBlanks, start]

theorem skipComment_of_starts (starts : Starts text) : skipComment text = text := by
  unfold skipComment
  split
  · exact absurd (by decide) (starts _ rfl)
  · rfl

theorem lineEnd?_of_starts (starts : Starts text) : lineEnd? text = none := by
  unfold lineEnd?
  split
  · exact absurd (by decide) (starts _ rfl)
  · exact absurd (by decide) (starts _ rfl)
  · rfl

/-- Blanks and line ends are skipped up to the start of a text, by induction on them. -/
theorem skipSpace_append (starts : Starts text) {gap : List Char}
    (blank : ∀ c ∈ gap, c = ' ' ∨ c = '\n') {fuel : Nat} (enough : gap.length < fuel)
    : skipSpace fuel (gap ++ text) = text := by
  induction gap generalizing fuel with
  | nil =>
      cases fuel with
      | zero => cases enough
      | succ fuel =>
          rw [List.nil_append, skipSpace, skipBlanks_of_starts starts, skipComment_of_starts starts,
            lineEnd?_of_starts starts]
  | cons c gap ih =>
      rw [List.forall_mem_cons] at blank
      rw [List.length_cons] at enough
      cases fuel with
      | zero => cases enough
      | succ fuel =>
          rcases blank.1 with rfl | rfl
          · have later := @ih blank.2 (fuel + 1) (by omega)
            rw [skipSpace] at later ⊢
            exact later
          · exact ih blank.2 (by omega)

theorem skipAll_append (starts : Starts text) {gap : List Char}
    (blank : ∀ c ∈ gap, c = ' ' ∨ c = '\n')
    : skipAll (gap ++ text) = text :=
  skipSpace_append starts blank (by rw [List.length_append]; omega)

theorem skipAll_of_starts (starts : Starts text) : skipAll text = text :=
  @skipAll_append text starts [] nofun

end

-----------------------------------------------------------------------------------------
-- Values with text after them
-----------------------------------------------------------------------------------------

/-- A text in which a value has come to its end: a line ends, or an item or the list of it. -/
def Closes (rest : List Char) : Prop :=
  ∃ c later, rest = c :: later ∧ c ∈ ['\n', ',', ']']

theorem closes_cons {c : Char} (close : c ∈ ['\n', ',', ']']) (later : List Char)
    : Closes (c :: later) :=
  ⟨c, later, rfl, close⟩

theorem Closes.unquoted {rest : List Char} (closes : Closes rest) : Unquoted rest := by
  obtain ⟨c, later, rfl, close⟩ := closes
  constructor
  · intro head
    cases head
    exact absurd close (by decide)
  · intro head
    cases head
    exact absurd close (by decide)

/-- A text that is read as a value, inside as many arrays and inline tables as there is room for. -/
structure Spells (room : Nat) (text : List Char) (value : Toml) : Prop where
  starts : ∀ rest, Starts (text ++ rest)
  reads : ∀ rest fuel,
    Closes rest
    → text.length < fuel
    → readValue? room fuel (text ++ rest) = some (value, rest)

-----------------------------------------------------------------------------------------
-- Texts
-----------------------------------------------------------------------------------------

theorem renderText_eq_cons (text : String)
    : ∃ quote later, renderText text = quote :: later ∧ (quote = '\x22' ∨ quote = '\x27') := by
  rw [renderText]
  split
  · exact ⟨_, _, rfl, .inl rfl⟩
  · exact ⟨_, _, rfl, .inr rfl⟩
  · exact ⟨_, _, rfl, .inl rfl⟩
  · exact ⟨_, _, rfl, .inr rfl⟩

theorem spells_renderText (room : Nat) (text : String)
    : Spells room (renderText text) (.string text) := by
  obtain ⟨quote, later, written, isQuote⟩ := renderText_eq_cons text
  constructor
  · intro rest
    rw [written]
    apply starts_cons
    rcases isQuote with rfl | rfl
    · decide
    · decide
  · intro rest fuel closes enough
    have read := readQuoted?_renderText closes.unquoted text
    cases fuel with
    | zero => cases enough
    | succ fuel =>
        rw [written, List.cons_append] at read ⊢
        simp [readValue?, isQuote, read]

-----------------------------------------------------------------------------------------
-- Lists of texts
-----------------------------------------------------------------------------------------

section

variable {room fuel : Nat} {text after rest : List Char} {item : Toml}

theorem readItems?_item (first : text.head? ≠ some ']')
    (read : readValue? room fuel text = some (item, ',' :: after))
    : readItems? room (fuel + 1) text
      = (readItems? room fuel (skipAll after)).map fun (items, rest) => (item :: items, rest) := by
  have comma : skipAll (',' :: after) = ',' :: after :=
    skipAll_of_starts (starts_cons (by decide) after)
  rw [readItems?, read]
  · simp only [comma, Option.bind_eq_bind, Option.bind_some]
    cases readItems? room fuel (skipAll after) <;> rfl
  · intro rest same
    exact first (by rw [same]; rfl)

theorem readItems?_last (first : text.head? ≠ some ']')
    (read : readValue? room fuel text = some (item, ']' :: rest))
    : readItems? room (fuel + 1) text = some ([item], rest) := by
  have bracket : skipAll (']' :: rest) = ']' :: rest :=
    skipAll_of_starts (starts_cons (by decide) rest)
  rw [readItems?, read]
  · simp [bracket]
  · intro rest same
    exact first (by rw [same]; rfl)

end

theorem starts_renderText (text : String) (rest : List Char) : Starts (renderText text ++ rest) :=
  (spells_renderText 0 text).starts rest

theorem head?_renderText_ne (text : String) (rest : List Char)
    : (renderText text ++ rest).head? ≠ some ']' := by
  obtain ⟨quote, later, written, isQuote⟩ := renderText_eq_cons text
  rw [written]
  rcases isQuote with rfl | rfl
  · simp
  · simp

/-- The line of a text in a list. -/
def itemLine (text : String) : List Char :=
  "    ".toList ++ renderText text ++ [',', '\n']

/-- Texts with a line for each are read up to the bracket after them, by induction on them. Each is
read from the end of the line before it.
-/
theorem readItems?_lines {room fuel : Nat} (texts : List String)
    (enough : (texts.flatMap itemLine).length + 1 < fuel) (rest : List Char)
    : readItems? room fuel (skipAll ('\n' :: (texts.flatMap itemLine ++ ']' :: rest)))
      = some (texts.map .string, rest) := by
  obtain ⟨fuel, rfl⟩ := Nat.exists_eq_add_one.mpr (Nat.zero_lt_of_lt enough)
  induction texts generalizing fuel with
  | nil =>
      have gap : skipAll (['\n'] ++ ']' :: rest) = ']' :: rest :=
        skipAll_append (starts_cons (by decide) rest) (by simp)
      rw [List.flatMap_nil, List.nil_append, ← List.singleton_append, gap]
      rfl
  | cons text texts ih =>
      have size : (renderText text).length + 6 = (itemLine text).length := by simp [itemLine]
      rw [List.flatMap_cons, List.length_append] at enough
      obtain ⟨fuel, rfl⟩ := Nat.exists_eq_add_one.mpr (show 0 < fuel by omega)
      have read :=
        (spells_renderText room text).reads
          (',' :: '\n' :: (texts.flatMap itemLine ++ ']' :: rest)) (fuel + 1)
          (closes_cons (by decide) _) (by omega)
      have written
          : '\n' :: ((text :: texts).flatMap itemLine ++ ']' :: rest)
            = "\n    ".toList
              ++ (renderText text ++ ',' :: '\n' :: (texts.flatMap itemLine ++ ']' :: rest)) := by
        simp [itemLine]
      rw [written, skipAll_append (starts_renderText text _) (by simp),
        readItems?_item (head?_renderText_ne text _) read, ih fuel (by omega)]
      rfl

theorem spells_of_items {room : Nat} {text : List Char} {items : List Toml}
    (read : ∀ rest fuel,
      text.length + 1 < fuel
      → readItems? room fuel (skipAll (text ++ ']' :: rest)) = some (items, rest))
    : Spells (room + 1) ('[' :: text ++ [']']) (.array items) := by
  constructor
  · intro rest
    exact starts_cons (by decide) _
  · intro rest fuel closes enough
    obtain ⟨fuel, rfl⟩ := Nat.exists_eq_add_one.mpr (Nat.zero_lt_of_lt enough)
    rw [List.length_append, List.length_cons, List.length_singleton] at enough
    have items := read rest fuel (by omega)
    simp [readValue?, items]

/-- A list of texts is read back, in whichever way it is laid out. -/
theorem spells_renderTexts (room : Nat) (texts : List String)
    : Spells (room + 1) (renderTexts texts) (.array (texts.map .string)) := by
  match texts with
  | [] =>
      apply @spells_of_items room []
      intro rest fuel enough
      obtain ⟨fuel, rfl⟩ := Nat.exists_eq_add_one.mpr (Nat.zero_lt_of_lt enough)
      rw [List.nil_append, skipAll_of_starts (starts_cons (by decide) rest)]
      rfl
  | [text] =>
      apply spells_of_items
      intro rest fuel enough
      obtain ⟨fuel, rfl⟩ := Nat.exists_eq_add_one.mpr (Nat.zero_lt_of_lt enough)
      rw [skipAll_of_starts (starts_renderText text _)]
      have read :=
        (spells_renderText room text).reads (']' :: rest) fuel (closes_cons (by decide) rest)
          (by omega)
      exact readItems?_last (head?_renderText_ne text _) read
  | first :: second :: texts =>
      apply @spells_of_items room ('\n' :: (first :: second :: texts).flatMap itemLine)
      intro rest fuel enough
      rw [List.length_cons] at enough
      exact readItems?_lines _ (by omega) rest

-----------------------------------------------------------------------------------------
-- Numbers and truth values
-----------------------------------------------------------------------------------------

/-- An unquoted value ends where a line, an item or a list ends. -/
theorem readUnquoted?_append {token rest : List Char} (closes : Closes rest)
    (unquoted : ∀ c ∈ token, isUnquoted c = true)
    : readUnquoted? (token ++ rest) = (unquoted? token).map (·, rest) := by
  obtain ⟨c, later, rfl, close⟩ := closes
  have ends : isUnquoted c = false := by
    rw [Bool.eq_false_iff]
    exact fun holds => not_mem_of_any_eq_false (by decide) holds close
  have other : ∀ d, (c :: later).head? = some d → isUnquoted d = false := by
    intro d head
    cases head
    exact ends
  obtain ⟨taken, left⟩ := takeWhile_and_dropWhile_append unquoted other
  unfold readUnquoted?
  simp only [taken, left]
  split
  · next equal =>
      rw [(List.cons.inj equal).1] at close
      exact absurd close (by decide)
  · rfl

theorem spells_of_unquoted? (room : Nat) {c : Char} {token : List Char} {value : Toml}
    (unquoted : (c :: token).all isUnquoted = true) (double : c ≠ '\x22') (single : c ≠ '\x27')
    (means : unquoted? (c :: token) = some value)
    : Spells room (c :: token) value := by
  rw [List.all_eq_true] at unquoted
  have first := unquoted c List.mem_cons_self
  constructor
  · intro rest
    exact starts_cons (not_mem_of_any_eq_false (by decide) first) _
  · intro rest fuel closes enough
    obtain ⟨fuel, rfl⟩ := Nat.exists_eq_add_one.mpr (Nat.zero_lt_of_lt enough)
    have read := readUnquoted?_append closes unquoted
    rw [means, List.cons_append] at read
    have list : c ≠ '[' := by
      rintro rfl
      cases first
    have table : c ≠ '\x7b' := by
      rintro rfl
      cases first
    simp [readValue?, double, single, list, table, read]

theorem spells_renderTruth (room : Nat) (value : Bool)
    : Spells room (renderTruth value) (.truth value) := by
  cases value with
  | false => exact spells_of_unquoted? room (by decide) (by decide) (by decide) rfl
  | true => exact spells_of_unquoted? room (by decide) (by decide) (by decide) rfl

section

variable {row : List Char}

theorem ne_of_isDigit {c other : Char} (digit : c.isDigit = true) (mark : other.isDigit = false)
    : c ≠ other := by
  rintro rfl
  rw [digit] at mark
  cases mark

theorem ne_of_digits (digits : ∀ c ∈ row, c.isDigit = true) {text : List Char} {mark : Char}
    (member : mark ∈ text) (other : mark.isDigit = false)
    : row ≠ text := by
  rintro rfl
  exact ne_of_isDigit (digits mark member) other rfl

theorem not_mem_of_digits (digits : ∀ c ∈ row, c.isDigit = true) {mark : Char}
    (other : mark.isDigit = false)
    : mark ∉ row := by
  intro member
  exact ne_of_isDigit (digits mark member) other rfl

theorem splitSign_of_digits (digits : ∀ c ∈ row, c.isDigit = true)
    : splitSign row = (none, row) := by
  unfold splitSign
  split
  · cases digits _ List.mem_cons_self
  · cases digits _ List.mem_cons_self
  · rfl

/-- Without underscores there is nothing about them to object to, by induction on the text. -/
theorem underscoresFit_of_not_mem {isDigit : Char → Bool} (none : '_' ∉ row) (allowed : Bool)
    : underscoresFit isDigit allowed row = true := by
  induction row generalizing allowed with
  | nil => rfl
  | cons c row ih =>
      rw [List.mem_cons, not_or] at none
      rw [underscoresFit]
      · exact ih none.2 _
      · exact fun same => none.1 same.symm

theorem value?_of_isDigit {c : Char} (digit : c.isDigit = true)
    : Hex.value? c = some (Decimal.digitValue c) := by
  have bounds := Decimal.digit_bounds digit
  simp [Hex.value?, Decimal.digitValue, bounds]

/-- Decimal digits mean the same number as digits to base ten. -/
theorem numberOfDigits_of_digits (digits : ∀ c ∈ row, c.isDigit = true)
    : numberOfDigits 10 row = Decimal.value row := by
  unfold numberOfDigits Decimal.value
  apply List.foldl_ext
  intro total c member
  rw [value?_of_isDigit (digits c member)]
  rfl

theorem isDigitOf_of_isDigit {c : Char} (digit : c.isDigit = true) : isDigitOf 10 c = true := by
  have bounds := Decimal.digit_bounds digit
  simp only [isDigitOf, value?_of_isDigit digit, Option.any_some, decide_eq_true_eq,
    Decimal.digitValue]
  omega

/-- A row of digits in the form of a whole number is read as one. -/
theorem number?_of_digits (digits : ∀ c ∈ row, c.isDigit = true) (whole : isWholeForm row = true)
    : number? row = some (integerOf 10 false row) := by
  have plain : row.filter (· ≠ '_') = row := by
    rw [List.filter_eq_self]
    intro c member
    simpa using ne_of_isDigit (digits c member) (by decide)
  have real : (row.any fun c => isExponentMark c || c = '.') = false := by
    rw [List.any_eq_false]
    intro c member
    have digit := digits c member
    simp [isExponentMark, ne_of_isDigit digit (show 'e'.isDigit = false by decide),
      ne_of_isDigit digit (show 'E'.isDigit = false by decide),
      ne_of_isDigit digit (show '.'.isDigit = false by decide)]
  have named : (row = "inf".toList || row = "nan".toList) = false := by
    have letter : 'n'.isDigit = false := by decide
    simp [ne_of_digits digits (show 'n' ∈ ['i', 'n', 'f'] by decide) letter,
      ne_of_digits digits (show 'n' ∈ ['n', 'a', 'n'] by decide) letter]
  have joined : '_' ∉ row := not_mem_of_digits digits (by decide)
  have fit := @underscoresFit_of_not_mem row (isDigitOf 16) joined false
  unfold number?
  split
  · cases digits 'x' (by simp)
  · cases digits 'o' (by simp)
  · cases digits 'b' (by simp)
  · simp only [splitSign_of_digits digits, plain, real, named, whole]
    simp [fit]

end

theorem isDigit_of_mem_digits {n : Nat} {c : Char} (member : c ∈ Decimal.digits n)
    : c.isDigit = true :=
  Nat.isDigit_of_mem_toDigits (by decide) (by decide) member

theorem digits_ne_nil (n : Nat) : Decimal.digits n ≠ [] :=
  Nat.toDigits_ne_nil

theorem isWholeForm_digits (n : Nat) : isWholeForm (Decimal.digits n) = true := by
  have all : (Decimal.digits n).dropWhile Char.isDigit = [] :=
    congrArg Prod.snd (Decimal.span_digits n)
  rcases Nat.eq_zero_or_pos n with rfl | positive
  · rfl
  · simp [isWholeForm, all, digits_ne_nil, Decimal.head?_digits_ne_zero positive]

theorem integerOf_digits {n : Nat} (inRange : (n : Int) ≤ maxUnsigned128)
    : integerOf 10 false (Decimal.digits n) = .integer n := by
  have low : minInteger128 ≤ n := Int.le_trans (by decide) (Int.natCast_nonneg n)
  have digits : (Decimal.digits n).all (isDigitOf 10) = true :=
    List.all_eq_true.mpr fun c member => isDigitOf_of_isDigit (isDigit_of_mem_digits member)
  have size : numberOfDigits 10 (Decimal.digits n) = n := by
    rw [numberOfDigits_of_digits fun _ => isDigit_of_mem_digits, Decimal.value_digits]
  simp [integerOf, size, digits, digits_ne_nil, low, inRange]

theorem unquoted?_digits {n : Nat} (inRange : (n : Int) ≤ maxUnsigned128)
    : unquoted? (Decimal.digits n) = some (.integer n) := by
  have digits : ∀ c ∈ Decimal.digits n, c.isDigit = true := fun _ => isDigit_of_mem_digits
  have number := number?_of_digits digits (isWholeForm_digits n)
  have letter : 'e'.isDigit = false := by decide
  rw [integerOf_digits inRange] at number
  rw [unquoted?, if_neg (ne_of_digits digits (by decide) letter),
    if_neg (ne_of_digits digits (by decide) letter), number]

theorem isUnquoted_of_isDigit {c : Char} (digit : c.isDigit = true) : isUnquoted c = true := by
  simp only [isUnquoted, Bool.not_eq_true', List.contains_eq_mem, decide_eq_false_iff_not]
  exact not_mem_of_any_eq_false (by decide) digit

/-- A whole number is read back from its digits. -/
theorem spells_digits (room : Nat) {n : Nat} (inRange : (n : Int) ≤ maxUnsigned128)
    : Spells room (Decimal.digits n) (.integer n) := by
  have means := unquoted?_digits inRange
  have digits : ∀ c ∈ Decimal.digits n, c.isDigit = true := fun _ => isDigit_of_mem_digits
  obtain ⟨c, row, written⟩ := List.exists_cons_of_ne_nil (digits_ne_nil n)
  rw [written] at means digits ⊢
  have first := digits c List.mem_cons_self
  have unquoted : (c :: row).all isUnquoted = true :=
    List.all_eq_true.mpr fun d member => isUnquoted_of_isDigit (digits d member)
  exact spells_of_unquoted? room unquoted (ne_of_isDigit first (by decide))
    (ne_of_isDigit first (by decide)) means

end ValueHistory.Toml
