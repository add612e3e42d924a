import ValueHistory.Toml.Printer

/-! Quoted texts read back. Whatever characters a text has, the quotes that are chosen for it hold
it: on one line with or without escapes, and over several lines, where rows of quotes must stay
apart from the three that close the text.
-/

namespace ValueHistory.Toml

-----------------------------------------------------------------------------------------
-- Characters between double quotes
-----------------------------------------------------------------------------------------

/-- The ways in which a character is written between double quotes: as it is, or by an escape, which
is no line end with blanks before it.
-/
inductive Writing (c : Char) : List Char → Prop where
  | itself (plain : isPlain c = true) (quote : c ≠ '\x22') (escape : c ≠ '\x5c') : Writing c [c]
  | escaped {mark : Char} {tail : List Char}
      (goesOn : ∀ rest, continued? (mark :: tail ++ rest) = none)
      (stands : ∀ rest, readEscape? (mark :: tail ++ rest) = some (c, rest))
    : Writing c ('\x5c' :: mark :: tail)

theorem charOfCode?_digits {code : Nat} (small : code < 128)
    : charOfCode? (['0', '0', Hex.digit (code / 16), Hex.digit (code % 16)].map Char.toUpper)
      = some (Char.ofNat code) := by
  revert code
  decide

theorem writing_escapeChar (c : Char) : Writing c (escapeChar c) := by
  unfold escapeChar
  iterate 5
    split
    · next same =>
        rw [same]
        exact .escaped (fun _ => rfl) (fun _ => rfl)
  split
  · next same =>
      simp only [Bool.or_eq_true, decide_eq_true_eq] at same
      rcases same with rfl | rfl
      · exact .escaped (fun _ => rfl) (fun _ => rfl)
      · exact .escaped (fun _ => rfl) (fun _ => rfl)
  · next same =>
      simp only [Bool.or_eq_true, decide_eq_true_eq, not_or] at same
      split
      · next control =>
          have small : c.toNat < 128 := by
            simp only [isControl, Bool.or_eq_true, decide_eq_true_eq] at control
            omega
          have read := charOfCode?_digits small
          rw [Char.ofNat_toNat] at read
          refine .escaped (fun _ => rfl) fun rest => ?_
          exact congrArg (Option.map (·, rest)) read
      · next printed =>
          exact .itself (by simp [isPlain, printed]) same.1 same.2

/-- No control character stands as it is. -/
theorem not_lineEnd_of_isPlain {c : Char} (plain : isPlain c = true) : c ≠ '\n' ∧ c ≠ '\r' := by
  constructor
  · rintro rfl
    cases plain
  · rintro rfl
    cases plain

-----------------------------------------------------------------------------------------
-- Texts on one line
-----------------------------------------------------------------------------------------

variable {quote : Char} {rest : List Char}

/-- Any text is read back between double quotes when its characters are escaped, by induction on it.
-/
theorem readLine?_escaped (text : List Char) {fuel : Nat}
    (enough : (text.flatMap escapeChar).length < fuel)
    : readLine? '\x22' true fuel (text.flatMap escapeChar ++ '\x22' :: rest)
      = some (text, rest) := by
  induction text generalizing fuel with
  | nil =>
      cases fuel with
      | zero => cases enough
      | succ fuel => rfl
  | cons c text ih =>
      rw [List.flatMap_cons, List.length_append] at enough
      rw [List.flatMap_cons, List.append_assoc]
      have writing := writing_escapeChar c
      generalize escapeChar c = written at writing enough
      cases fuel with
      | zero => cases enough
      | succ fuel =>
          cases writing with
          | itself plain quote escape =>
              rw [List.length_singleton] at enough
              have later := @ih fuel (by omega)
              simp [readLine?, quote, escape, plain, later]
          | escaped goesOn stands =>
              rw [List.length_cons, List.length_cons] at enough
              have later := @ih fuel (by omega)
              rw [List.cons_append, readLine?, if_neg (by decide), if_pos (by decide), stands]
              simp [later]

/-- A text of plain characters other than its quote is read back as it is, by induction on it. -/
theorem readLine?_literal {text : List Char} (plain : ∀ c ∈ text, isPlain c = true)
    (apart : quote ∉ text) {fuel : Nat} (enough : text.length < fuel)
    : readLine? quote false fuel (text ++ quote :: rest) = some (text, rest) := by
  induction text generalizing fuel with
  | nil =>
      cases fuel with
      | zero => cases enough
      | succ fuel => simp [readLine?]
  | cons c text ih =>
      rw [List.forall_mem_cons] at plain
      rw [List.mem_cons, not_or] at apart
      rw [List.length_cons] at enough
      cases fuel with
      | zero => cases enough
      | succ fuel =>
          have later := @ih plain.2 apart.2 fuel (by omega)
          simp [readLine?, Ne.symm apart.1, plain.1, later]

-----------------------------------------------------------------------------------------
-- Rows of quotes
-----------------------------------------------------------------------------------------

/-- A row of characters of one class ends where a character of another class comes. -/
theorem takeWhile_and_dropWhile_append {isOf : Char → Bool} {row : List Char}
    (inside : ∀ c ∈ row, isOf c = true) (ends : ∀ c, rest.head? = some c → isOf c = false)
    : (row ++ rest).takeWhile isOf = row ∧ (row ++ rest).dropWhile isOf = rest := by
  have none : rest.takeWhile isOf = [] ∧ rest.dropWhile isOf = rest := by
    cases rest with
    | nil => exact ⟨rfl, rfl⟩
    | cons c rest => simp [ends c rfl]
  rw [List.takeWhile_append_of_pos inside, List.dropWhile_append_of_pos inside, none.1, none.2]
  exact ⟨List.append_nil row, rfl⟩

/-- A row of quotes is split off where it ends. -/
theorem quotes_replicate (row : Nat) {text : List Char} (ends : text.head? ≠ some quote)
    : quotes quote (List.replicate row quote ++ text) = (List.replicate row quote, text) := by
  have inside : ∀ c ∈ List.replicate row quote, decide (c = quote) = true := by simp
  have other : ∀ c, text.head? = some c → decide (c = quote) = false := by
    intro c head
    rw [head] at ends
    simpa using ends
  obtain ⟨taken, left⟩ := takeWhile_and_dropWhile_append inside other
  rw [quotes, taken, left]

/-- Up to two quotes in a row belong to the text, and take one step at most. -/
theorem readLines?_row {escapes : Bool} {row size fuel : Nat} (few : row < 3)
    {text body : List Char} (ends : text.head? ≠ some quote) (enough : row + size < fuel)
    (later : ∀ fuel, size < fuel → readLines? quote escapes fuel text = some (body, rest))
    : readLines? quote escapes fuel (List.replicate row quote ++ text)
      = some (List.replicate row quote ++ body, rest) := by
  cases row with
  | zero => exact later fuel (by omega)
  | succ row =>
      cases fuel with
      | zero => cases enough
      | succ fuel =>
          rw [readLines?, quotes_replicate _ ends]
          simp [List.replicate_succ, few, later fuel (by omega)]

/-- Three quotes close a text, and up to two in front of them belong to it. -/
theorem readLines?_close {escapes : Bool} {row fuel : Nat} (few : row < 3) (positive : 0 < fuel)
    (ends : rest.head? ≠ some quote)
    : readLines? quote escapes fuel (List.replicate row quote ++ (List.replicate 3 quote ++ rest))
      = some (List.replicate row quote, rest) := by
  obtain ⟨fuel, rfl⟩ := Nat.exists_eq_add_one.mpr positive
  rw [← List.append_assoc, List.replicate_append_replicate, readLines?, quotes_replicate _ ends]
  have closing : ¬row + 1 + 1 + 1 < 3 := by omega
  have within : row + 1 + 1 + 1 < 6 := by omega
  simp only [List.replicate_succ, List.cons_append, List.length_cons, List.length_replicate,
    closing, within, if_false, if_true, List.drop_succ_cons, List.drop_zero]

-----------------------------------------------------------------------------------------
-- Texts over several lines
-----------------------------------------------------------------------------------------

theorem quotes_of_head?_ne {text : List Char} (ends : text.head? ≠ some quote)
    : quotes quote text = ([], text) :=
  quotes_replicate 0 ends

theorem readPlain?_of_isPlain {c : Char} (plain : isPlain c = true) (text : List Char)
    : readPlain? (c :: text) = some ([c], text) := by
  have other := not_lineEnd_of_isPlain plain
  unfold readPlain?
  split
  · next equal => exact absurd (List.cons.inj equal).1 other.1
  · next equal => exact absurd (List.cons.inj equal).1 other.2
  · next equal =>
      obtain ⟨rfl, rfl⟩ := List.cons.inj equal
      rw [if_pos plain]
  · next equal => cases equal

/-- A character that stands as it is between lines: a plain one or a line feed. -/
theorem readPlain?_of_or {c : Char} (stands : isPlain c = true ∨ c = '\n') (text : List Char)
    : readPlain? (c :: text) = some ([c], text) := by
  rcases stands with plain | rfl
  · exact readPlain?_of_isPlain plain text
  · rfl

theorem readLines?_plain {escapes : Bool} {c : Char} (stands : isPlain c = true ∨ c = '\n')
    (other : c ≠ quote) (escape : escapes = true → c ≠ '\x5c') (fuel : Nat) (text : List Char)
    : readLines? quote escapes (fuel + 1) (c :: text)
      = (readLines? quote escapes fuel text).map fun (text, rest) => (c :: text, rest) := by
  have ends : (c :: text).head? ≠ some quote := by simpa using other
  have escaped : (escapes && (c :: text).head? = some '\x5c') = false := by
    cases escapes with
    | false => rfl
    | true => simpa using escape rfl
  rw [readLines?, quotes_of_head?_ne ends]
  simp only [escaped, readPlain?_of_or stands, Bool.false_eq_true, if_false, Option.bind_some,
    List.singleton_append]

/-- The ways in which a character is written between three double quotes: as on one line, or as the
line feed that it is.
-/
inductive LineWriting (c : Char) : List Char → Prop where
  | written {piece : List Char} (writing : Writing c piece) : LineWriting c piece
  | feed (same : c = '\n') : LineWriting c ['\n']

namespace LineWriting

variable {c : Char} {piece : List Char}

theorem length_pos (writing : LineWriting c piece) : 0 < piece.length := by
  cases writing with
  | written writing => cases writing <;> simp
  | feed same => exact Nat.one_pos

theorem head_ne (writing : LineWriting c piece) (text : List Char)
    : (piece ++ text).head? ≠ some '\x22' := by
  cases writing with
  | written writing =>
      cases writing with
      | itself _ quote _ => simpa using quote
      | escaped _ _ => simp
  | feed same => simp

/-- Only a line feed is written with a line end. -/
theorem exists_plain (writing : LineWriting c piece) (other : c ≠ '\n')
    : ∃ first later, piece = first :: later ∧ isPlain first = true := by
  cases writing with
  | written writing =>
      cases writing with
      | itself plain _ _ => exact ⟨c, [], rfl, plain⟩
      | escaped _ _ => exact ⟨_, _, rfl, rfl⟩
  | feed same => exact absurd same other

/-- A character that is written between three double quotes is read as itself. -/
theorem readLines? (writing : LineWriting c piece) (fuel : Nat) (text : List Char)
    : readLines? '\x22' true (fuel + 1) (piece ++ text)
      = (Toml.readLines? '\x22' true fuel text).map fun (text, rest) => (c :: text, rest) := by
  cases writing with
  | written writing =>
      cases writing with
      | itself plain quote escape =>
          exact readLines?_plain (.inl plain) quote (fun _ => escape) fuel text
      | escaped goesOn stands =>
          have skips := goesOn text
          have read := stands text
          rw [List.cons_append, Toml.readLines?, quotes_of_head?_ne (by simp)]
          simp only [List.head?_cons, List.tail_cons, skips, read, decide_true, Bool.and_self,
            if_true, Option.bind_some]
  | feed same =>
      rw [same]
      exact readLines?_plain (.inr rfl) (by decide) (fun _ => by decide) fuel text

end LineWriting

/-- How a text goes on between three double quotes: with a quote that adds to the row of quotes
before it, or with a character written in another way, after which a row begins anew.
-/
theorem escapeLines_cons (row : Nat) (c : Char) (text : List Char)
    : c = '\x22' ∧ row ≠ 2 ∧ escapeLines row (c :: text) = '\x22' :: escapeLines (row + 1) text
      ∨ ∃ piece,
          LineWriting c piece ∧ escapeLines row (c :: text) = piece ++ escapeLines 0 text := by
  rw [escapeLines]
  split
  · next same => exact .inr ⟨['\n'], .feed same, by rw [same]; rfl⟩
  · split
    · next same =>
        split
        · refine .inr ⟨['\x5c', c], .written ?_, rfl⟩
          rw [same]
          exact .escaped (fun _ => rfl) (fun _ => rfl)
        · next more => exact .inl ⟨same, more, by rw [same]⟩
    · exact .inr ⟨escapeChar c, .written (writing_escapeChar c), rfl⟩

/-- Any text is read back between three double quotes, by induction on it with the row of quotes in
front of it.
-/
theorem readLines?_escapeLines (ends : rest.head? ≠ some '\x22') (text : List Char)
    {row fuel : Nat} (few : row < 3) (enough : row + (escapeLines row text).length < fuel)
    : readLines? '\x22' true fuel
        (List.replicate row '\x22' ++ (escapeLines row text ++ (List.replicate 3 '\x22' ++ rest)))
      = some (List.replicate row '\x22' ++ text, rest) := by
  induction text generalizing row fuel with
  | nil =>
      rw [List.append_nil]
      exact readLines?_close few (Nat.zero_lt_of_lt enough) ends
  | cons c text ih =>
      rcases escapeLines_cons row c text with ⟨rfl, more, written⟩ | ⟨piece, writing, written⟩
      · rw [written, List.length_cons] at enough
        have later := @ih (row + 1) fuel (by omega) (by omega)
        rw [List.replicate_succ', List.append_assoc, List.append_assoc] at later
        rw [written]
        exact later
      · rw [written, List.length_append] at enough
        rw [written, List.append_assoc]
        apply readLines?_row few (writing.head_ne _) enough
        intro fuel enough
        cases fuel with
        | zero => cases enough
        | succ fuel =>
            have positive := writing.length_pos
            have later := @ih 0 fuel (by decide) (by omega)
            rw [List.replicate_zero, List.nil_append] at later
            rw [writing.readLines?, later]
            rfl

-----------------------------------------------------------------------------------------
-- Texts that stand as they are over several lines
-----------------------------------------------------------------------------------------

/-- The longest row up to a character, with the row that it ends. -/
def rowStep (quote : Char) : Nat × Nat → Char → Nat × Nat :=
  fun (longest, current) next =>
    if next = quote then (max longest (current + 1), current + 1) else (longest, 0)

theorem longestRow_eq (quote : Char) (text : List Char)
    : longestRow quote text = (text.foldl (rowStep quote) (0, 0)).1 :=
  rfl

/-- Rows that have been found are not lost, by induction on the text after them. -/
theorem le_foldl_rowStep (text : List Char) (rows : Nat × Nat)
    : rows.1 ≤ (text.foldl (rowStep quote) rows).1 := by
  induction text generalizing rows with
  | nil => exact Nat.le_refl _
  | cons c text ih =>
      refine Nat.le_trans ?_ (ih (rowStep quote rows c))
      rw [rowStep]
      split
      · exact Nat.le_max_left _ _
      · exact Nat.le_refl _

/-- A text without rows of three quotes is read back between three of them as it is, by induction on
it with the row of quotes in front of it.
-/
theorem readLines?_literal (ends : rest.head? ≠ some quote) {text : List Char}
    (stands : ∀ c ∈ text, isPlain c = true ∨ c = '\n') {longest row fuel : Nat} (few : row < 3)
    (short : (text.foldl (rowStep quote) (longest, row)).1 < 3) (enough : row + text.length < fuel)
    : readLines? quote false fuel
        (List.replicate row quote ++ (text ++ (List.replicate 3 quote ++ rest)))
      = some (List.replicate row quote ++ text, rest) := by
  induction text generalizing longest row fuel with
  | nil =>
      rw [List.append_nil]
      exact readLines?_close few (Nat.zero_lt_of_lt enough) ends
  | cons c text ih =>
      rw [List.forall_mem_cons] at stands
      rw [List.foldl_cons, rowStep] at short
      rw [List.length_cons] at enough
      split at short
      · next same =>
          have longer := Nat.lt_of_le_of_lt (le_foldl_rowStep text _) short
          have later := @ih stands.2 _ (row + 1) fuel (by omega) short (by omega)
          rw [List.replicate_succ', List.append_assoc, List.append_assoc] at later
          rw [same]
          exact later
      · next other =>
          apply readLines?_row few (by simpa using other) enough
          intro fuel enough
          cases fuel with
          | zero => cases enough
          | succ fuel =>
              have later := @ih stands.2 _ 0 fuel (by decide) short (by omega)
              rw [List.replicate_zero, List.nil_append] at later
              have noEscape : false = true → c ≠ '\x5c' := fun escapes => Bool.noConfusion escapes
              rw [List.cons_append, readLines?_plain stands.1 other noEscape, later]
              rfl

-----------------------------------------------------------------------------------------
-- The four kinds of quotes
-----------------------------------------------------------------------------------------

theorem readQuoted?_line (isQuote : quote = '\x22' ∨ quote = '\x27') {text : List Char}
    (single : ∀ third, text ≠ quote :: quote :: third)
    : readQuoted? (quote :: text) = readLine? quote (quote = '\x22') text.length text := by
  have accepted : (quote = '\x22' || quote = '\x27') = true := by simpa using isQuote
  rw [readQuoted?.eq_def]
  simp only [accepted, if_true]
  split
  · next second third body =>
      split
      · next both =>
          simp only [Bool.and_eq_true, decide_eq_true_eq] at both
          rw [both.1, both.2] at single
          exact absurd rfl (single body)
      · rfl
  · rfl

theorem readQuoted?_lines (isQuote : quote = '\x22' ∨ quote = '\x27') (body : List Char)
    : readQuoted? (List.replicate 3 quote ++ body)
      = readLines? quote (quote = '\x22') (((lineEnd? body).getD body).length + 1)
          ((lineEnd? body).getD body) := by
  simp [List.replicate_succ, readQuoted?, isQuote]

/-- A text that does not go on with a quote of either kind. -/
structure Unquoted (text : List Char) : Prop where
  double : text.head? ≠ some '\x22'
  single : text.head? ≠ some '\x27'

theorem readQuoted?_basic (after : Unquoted rest) (text : List Char)
    : readQuoted? ('\x22' :: (text.flatMap escapeChar ++ '\x22' :: rest)) = some (text, rest) := by
  rw [readQuoted?_line (.inl rfl)]
  · exact readLine?_escaped text (by simp)
  · intro third equal
    cases text with
    | nil => exact after.double (by rw [(List.cons.inj equal).2]; rfl)
    | cons c text =>
        have writing := LineWriting.written (writing_escapeChar c)
        rw [List.flatMap_cons, List.append_assoc] at equal
        exact writing.head_ne _ (by rw [equal]; rfl)

theorem readQuoted?_literal (after : Unquoted rest) {text : List Char}
    (plain : ∀ c ∈ text, isPlain c = true) (apart : '\x27' ∉ text)
    : readQuoted? ('\x27' :: (text ++ '\x27' :: rest)) = some (text, rest) := by
  rw [readQuoted?_line (.inr rfl)]
  · exact readLine?_literal plain apart (by simp)
  · intro third equal
    cases text with
    | nil => exact after.single (by rw [(List.cons.inj equal).2]; rfl)
    | cons c text =>
        rw [(List.cons.inj equal).1] at apart
        exact apart List.mem_cons_self

/-- The line end in front of a text of several lines. -/
def opening (text : List Char) : List Char :=
  if text.contains '\n' then ['\n'] else []

theorem lineEnd?_of_isPlain {c : Char} (plain : isPlain c = true) (text : List Char)
    : lineEnd? (c :: text) = none := by
  have other := not_lineEnd_of_isPlain plain
  unfold lineEnd?
  split
  · next equal => exact absurd (List.cons.inj equal).1 other.1
  · next equal => exact absurd (List.cons.inj equal).1 other.2
  · rfl

/-- A text between three quotes loses no line end of its own: several lines begin on a line of their
own, and one line does not begin with a line end.
-/
theorem getD_lineEnd? {text after : List Char}
    (single : '\n' ∉ text → ∃ first later, after = first :: later ∧ isPlain first = true)
    : (lineEnd? (opening text ++ after)).getD (opening text ++ after) = after := by
  rw [opening]
  cases several : text.contains '\n' with
  | true => rfl
  | false =>
      have line : '\n' ∉ text := by simpa using several
      obtain ⟨first, later, rfl, plain⟩ := single line
      simp [lineEnd?_of_isPlain plain]

theorem readQuoted?_basicLines (after : Unquoted rest) (text : List Char)
    : readQuoted?
        (List.replicate 3 '\x22'
          ++ (opening text ++ (escapeLines 0 text ++ (List.replicate 3 '\x22' ++ rest))))
      = some (text, rest) := by
  rw [readQuoted?_lines (.inl rfl), getD_lineEnd?]
  · have within
        : 0 + (escapeLines 0 text).length
          < (escapeLines 0 text ++ (List.replicate 3 '\x22' ++ rest)).length + 1 := by
      rw [List.length_append]
      omega
    exact readLines?_escapeLines after.double text (by decide) within
  · intro single
    cases text with
    | nil => exact ⟨_, _, rfl, rfl⟩
    | cons c text =>
        rcases escapeLines_cons 0 c text with ⟨_, _, written⟩ | ⟨piece, writing, written⟩
        · exact ⟨_, _, by rw [written]; rfl, rfl⟩
        · obtain ⟨first, later, rfl, plain⟩ :=
            writing.exists_plain (List.ne_of_not_mem_cons single).symm
          exact ⟨first, _, by rw [written]; rfl, plain⟩

theorem readQuoted?_literalLines (after : Unquoted rest) {text : List Char}
    (stands : ∀ c ∈ text, isPlain c = true ∨ c = '\n') (short : longestRow '\x27' text < 3)
    : readQuoted?
        (List.replicate 3 '\x27' ++ (opening text ++ (text ++ (List.replicate 3 '\x27' ++ rest))))
      = some (text, rest) := by
  rw [longestRow_eq] at short
  rw [readQuoted?_lines (.inr rfl), getD_lineEnd?]
  · have within
        : 0 + text.length < (text ++ (List.replicate 3 '\x27' ++ rest)).length + 1 := by
      rw [List.length_append]
      omega
    exact readLines?_literal after.single stands (by decide) short within
  · intro single
    cases text with
    | nil => exact ⟨_, _, rfl, rfl⟩
    | cons c text =>
        rw [List.mem_cons, not_or] at single
        refine ⟨c, _, rfl, ?_⟩
        exact (stands c List.mem_cons_self).resolve_right (Ne.symm single.1)

-----------------------------------------------------------------------------------------
-- The quotes that are chosen
-----------------------------------------------------------------------------------------

theorem stands_of_any_eq_false {text : List Char}
    (none : (text.any fun c => isControl c && c ≠ '\t' && c ≠ '\n') = false)
    : ∀ c ∈ text, isPlain c = true ∨ c = '\n' := by
  intro c member
  have other := List.any_eq_false.mp none c member
  simp only [Bool.and_eq_true, decide_eq_true_eq, not_and, Decidable.not_not] at other
  simp only [isPlain, Bool.or_eq_true, decide_eq_true_eq, Bool.not_eq_true']
  cases control : isControl c with
  | false => exact .inl (.inr rfl)
  | true =>
      by_cases tab : c = '\t'
      · exact .inl (.inl tab)
      · exact .inr (other ⟨control, tab⟩)

/-- Single quotes on one line are chosen only for plain characters without them. -/
theorem literal_of_style {text : List Char} (chosen : style text = .literal)
    : (∀ c ∈ text, isPlain c = true) ∧ '\x27' ∉ text := by
  unfold style at chosen
  simp only at chosen
  split at chosen
  · cases chosen
  split at chosen
  · next holds =>
      simp only [Bool.and_eq_true, Bool.not_eq_true'] at holds
      have single : '\n' ∉ text := by simpa using holds.1.2
      refine ⟨fun c member => ?_, by simpa using holds.2⟩
      apply (stands_of_any_eq_false holds.1.1 c member).resolve_right
      rintro rfl
      exact single member
  iterate 3
    split at chosen
    · cases chosen
  cases chosen

/-- Single quotes over several lines are chosen only for texts without three of them in a row. -/
theorem literalLines_of_style {text : List Char} (chosen : style text = .literalLines)
    : (∀ c ∈ text, isPlain c = true ∨ c = '\n') ∧ longestRow '\x27' text < 3 := by
  unfold style at chosen
  simp only at chosen
  iterate 3
    split at chosen
    · cases chosen
  split at chosen
  · next holds =>
      simp only [Bool.and_eq_true, Bool.not_eq_true', decide_eq_true_eq] at holds
      exact ⟨stands_of_any_eq_false holds.1, holds.2⟩
  split at chosen
  · cases chosen
  · cases chosen

/-- Every text is read back from the quotes that are chosen for it. -/
theorem readQuoted?_renderText (after : Unquoted rest) (text : String)
    : readQuoted? (renderText text ++ rest) = some (text.toList, rest) := by
  rw [renderText]
  split
  · simpa using readQuoted?_basic after text.toList
  · next chosen =>
      obtain ⟨plain, apart⟩ := literal_of_style chosen
      simpa using readQuoted?_literal after plain apart
  · simp only [List.append_assoc]
    exact readQuoted?_basicLines after text.toList
  · next chosen =>
      obtain ⟨stands, short⟩ := literalLines_of_style chosen
      simp only [List.append_assoc]
      exact readQuoted?_literalLines after stands short

end ValueHistory.Toml
