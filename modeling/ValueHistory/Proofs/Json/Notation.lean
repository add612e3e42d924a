import ValueHistory.Json.Data
import ValueHistory.Json.Printer
import ValueHistory.Proofs.Text.Digits

/-! The compact notation of a value is a document that says what the value says: quoted texts read
back as they were, and so do arrays and objects of what reads back. Of numbers this is assumed,
since the notation of a double is found by a search.
-/

namespace ValueHistory.Json

-----------------------------------------------------------------------------------------
-- Numbers with text after them
-----------------------------------------------------------------------------------------

/-- A text that does not go on with a part of a number. -/
structure Stops (text : List Char) : Prop where
  ends : Decimal.Ends text
  point : text.head? ≠ some '.'
  mark : ∀ c, text.head? = some c → (c = 'e' || c = 'E') = false

theorem stops_nil : Stops [] :=
  ⟨Decimal.ends_nil, nofun, nofun⟩

theorem readFraction?_of_head?_ne {text : List Char} (point : text.head? ≠ some '.')
    : readFraction? text = some ([], text) := by
  unfold readFraction?
  split
  · exact absurd rfl point
  · rfl

theorem readExponent?_of_mark {text : List Char}
    (mark : ∀ c, text.head? = some c → (c = 'e' || c = 'E') = false)
    : readExponent? text = some (none, text) := by
  cases text with
  | nil => rfl
  | cons c text =>
      have other := mark c rfl
      rw [readExponent?.eq_def]
      exact if_neg (by rw [other]; exact Bool.false_ne_true)

section

variable {text rest after : List Char}

theorem readFraction?_append (stops : Stops rest) {row : List Char}
    (read : readFraction? text = some (row, after))
    : readFraction? (text ++ rest) = some (row, after ++ rest) := by
  unfold readFraction? at read
  split at read
  · next text =>
      split at read
      · cases read
      · next digits remaining spanned =>
          cases read
          simp only [List.cons_append, readFraction?, Decimal.span_append _ stops.ends, spanned]
  · next point =>
      cases read
      apply readFraction?_of_head?_ne
      cases text with
      | nil => exact stops.point
      | cons c text => exact fun head => point text (by rw [Option.some.inj head])

theorem readExponentDigits?_append (stops : Stops rest) {negative : Bool} {exponent : Option Int}
    (read : readExponentDigits? negative text = some (exponent, after))
    : readExponentDigits? negative (text ++ rest) = some (exponent, after ++ rest) := by
  unfold readExponentDigits? at read
  split at read
  · cases read
  · next spanned =>
      cases read
      simp only [readExponentDigits?, Decimal.span_append _ stops.ends, spanned]

theorem readExponent?_append (stops : Stops rest) {exponent : Option Int}
    (read : readExponent? text = some (exponent, after))
    : readExponent? (text ++ rest) = some (exponent, after ++ rest) := by
  unfold readExponent? at read
  split at read
  · next mark text =>
      split at read
      · next isMark =>
          rw [List.cons_append, readExponent?.eq_def]
          simp only [isMark, if_true]
          split at read
          · exact readExponentDigits?_append stops read
          · exact readExponentDigits?_append stops read
          · next minus plus =>
              have digits := readExponentDigits?_append stops read
              cases text with
              | nil => cases read
              | cons sign text =>
                  split
                  · next equal =>
                      exact absurd (congrArg (· :: text) (List.cons.inj equal).1) (minus text)
                  · next equal =>
                      exact absurd (congrArg (· :: text) (List.cons.inj equal).1) (plus text)
                  · exact digits
      · next other =>
          cases read
          exact if_neg other
  · cases read
    exact readExponent?_of_mark stops.mark

theorem readUnsigned?_append (stops : Stops rest) {negative : Bool} {numeral : Numeral}
    (read : readUnsigned? negative text = some (numeral, after))
    : readUnsigned? negative (text ++ rest) = some (numeral, after ++ rest) := by
  unfold readUnsigned? at read ⊢
  simp only [Option.bind_eq_bind, Decimal.span_append _ stops.ends] at read ⊢
  split at read
  · cases read
  · next row =>
      obtain ⟨⟨fraction, text⟩, readFraction, read⟩ := Option.bind_eq_some_iff.mp read
      obtain ⟨⟨exponent, text⟩, readExponent, read⟩ := Option.bind_eq_some_iff.mp read
      cases read
      rw [if_neg row]
      simp only [readFraction?_append stops readFraction, Option.bind_some,
        readExponent?_append stops readExponent]

theorem readNumber?_append (stops : Stops rest) {numeral : Numeral}
    (read : readNumber? text = some (numeral, after))
    : readNumber? (text ++ rest) = some (numeral, after ++ rest) := by
  unfold readNumber? at read
  split at read
  · exact readUnsigned?_append stops read
  · next minus =>
      have unsigned := readUnsigned?_append stops read
      cases text with
      | nil => cases read
      | cons sign text =>
          unfold readNumber?
          split
          · next equal => exact absurd (congrArg (· :: text) (List.cons.inj equal).1) (minus text)
          · exact unsigned

end

-----------------------------------------------------------------------------------------
-- Quoted texts
-----------------------------------------------------------------------------------------

/-- The ways in which a character is written between quotes: by a short escape, by its number, or as
it is.
-/
inductive Writing (c : Char) : List Char → Prop where
  | short {letter : Char} (plain : letter ≠ 'u') (stands : shortEscape? letter = some c)
    : Writing c ['\x5c', letter]
  | number (control : c.toNat < 32)
    : Writing c
        ['\x5c', 'u', '0', '0', Hex.digit (c.toNat / 16), Hex.digit (c.toNat % 16)]
  | itself (quote : c ≠ '\x22') (escape : c ≠ '\x5c') (printed : ¬c.toNat < 32) : Writing c [c]

theorem writing_renderChar (c : Char) : Writing c (renderChar c) := by
  unfold renderChar
  iterate 7
    split
    · next same => exact .short (by decide) (by rw [same]; rfl)
  next quote escape _ _ _ _ _ =>
    split
    · next control => exact .number control
    · next printed => exact .itself quote escape printed

/-- The pieces that stand for a character: itself, and the number of a control. -/
def Piece.StandsFor (c : Char) : Piece → Prop
  | .char read => read = c
  | .unit code => code = c.toNat ∧ code < 32

theorem number?_digits {code : Nat} (small : code < 32)
    : Hex.number? ['0', '0', Hex.digit (code / 16), Hex.digit (code % 16)] = some code := by
  revert code
  decide

theorem readPieces?_short {letter c : Char} (plain : letter ≠ 'u')
    (stands : shortEscape? letter = some c) (text : List Char)
    : readPieces? ('\x5c' :: letter :: text)
      = (readPieces? text).map fun (pieces, rest) => (.char c :: pieces, rest) := by
  have read
      : readPieces? ('\x5c' :: letter :: text)
        = (do
            let (pieces, rest) ← readPieces? text
            some (.char c :: pieces, rest)) := by
    cases text <;> simp [readPieces?, plain, stands]
  rw [read]
  cases readPieces? text <;> rfl

theorem readPieces?_itself {c : Char} (quote : c ≠ '\x22') (escape : c ≠ '\x5c')
    (printed : ¬c.toNat < 32) (text : List Char)
    : readPieces? (c :: text)
      = (readPieces? text).map fun (pieces, rest) => (.char c :: pieces, rest) := by
  have read
      : readPieces? (c :: text)
        = (do
            let (pieces, rest) ← readPieces? text
            some (.char c :: pieces, rest)) := by
    simp [readPieces?, escape, printed]
  rw [read]
  cases readPieces? text <;> rfl

/-- A character that is written is read as one piece. -/
theorem readPieces?_renderChar (c : Char) (text : List Char)
    : ∃ piece : Piece,
        piece.StandsFor c
        ∧ readPieces? (renderChar c ++ text)
          = (readPieces? text).map fun (pieces, rest) => (piece :: pieces, rest) := by
  have writing := writing_renderChar c
  generalize renderChar c = written at writing
  cases writing with
  | short plain stands => exact ⟨.char c, rfl, readPieces?_short plain stands text⟩
  | number control =>
      refine ⟨.unit c.toNat, ⟨rfl, control⟩, ?_⟩
      simp only [List.cons_append, List.nil_append, readPieces?, number?_digits control,
        Option.bind_eq_bind, Option.bind_some, Option.map_eq_bind, Function.comp_def]
  | itself quote escape printed =>
      exact ⟨.char c, rfl, readPieces?_itself quote escape printed text⟩

theorem charOfUnit?_of_lt {code : Nat} (small : code < 32)
    : charOfUnit? code = some (Char.ofNat code) := by
  have low : (0xD800 ≤ code && code < 0xE000) = false := by
    simp only [Bool.and_eq_false_iff, decide_eq_false_iff_not]
    omega
  rw [charOfUnit?, low]
  rfl

theorem charOfPair?_of_lt {high : Nat} (small : high < 32) (low : Nat)
    : charOfPair? high low = none := by
  have single : ¬0xD800 ≤ high := by omega
  simp [charOfPair?, single]

/-- What stands for a character is joined to it, whatever comes after. -/
theorem joinPieces_cons {c : Char} {piece : Piece} (standsFor : piece.StandsFor c)
    (pieces : List Piece)
    : joinPieces (piece :: pieces) = (joinPieces pieces).map (c :: ·) := by
  cases piece with
  | char read =>
      cases standsFor
      rfl
  | unit code =>
      obtain ⟨rfl, small⟩ := standsFor
      have own := charOfUnit?_of_lt small
      rw [Char.ofNat_toNat] at own
      cases pieces with
      | nil => simp [joinPieces, own]
      | cons next pieces =>
          cases next with
          | char read => simp [joinPieces, own]
          | unit low => simp [joinPieces, own, charOfPair?_of_lt small low]

/-- A quoted text reads back, by induction on its characters. -/
theorem readPieces?_flatMap (chars rest : List Char)
    : ∃ pieces,
        readPieces? (chars.flatMap renderChar ++ '\x22' :: rest) = some (pieces, rest)
        ∧ joinPieces pieces = some chars := by
  induction chars with
  | nil => exact ⟨[], by simp [readPieces?], rfl⟩
  | cons c chars ih =>
      obtain ⟨pieces, read, joined⟩ := ih
      obtain ⟨piece, standsFor, step⟩ :=
        readPieces?_renderChar c (chars.flatMap renderChar ++ '\x22' :: rest)
      refine ⟨piece :: pieces, ?_, ?_⟩
      · rw [List.flatMap_cons, List.append_assoc, step, read]
        rfl
      · rw [joinPieces_cons standsFor, joined]
        rfl

theorem readText?_flatMap (text : String) (rest : List Char)
    : readText? (text.toList.flatMap renderChar ++ '\x22' :: rest) = some (some text, rest) := by
  obtain ⟨pieces, read, joined⟩ := readPieces?_flatMap text.toList rest
  simp only [readText?, read, joined, Option.map_some, String.ofList_toList]

-----------------------------------------------------------------------------------------
-- Values
-----------------------------------------------------------------------------------------

/-- What the notation of a number is read as. -/
def Number.numeral? (number : Number) : Option Numeral :=
  match readNumber? (renderNumber number) with
  | some (numeral, []) => some numeral
  | _ => none

/-- A number that reads back from its notation. -/
def Number.ReadsBack (number : Number) : Prop :=
  number.numeral?.bind Numeral.toNumber? = some number

theorem readUnsigned?_digits (negative : Bool) (n : Nat)
    : readUnsigned? negative (Decimal.digits n)
      = some ({ negative, row := Decimal.digits n }, []) := by
  have filled : (Decimal.digits n).isEmpty = false := by
    simp [Decimal.digits]
  have leading
      : ((Decimal.digits n).length ≠ 1 && (Decimal.digits n).head? = some '0') = false := by
    rcases Nat.eq_zero_or_pos n with rfl | positive
    · decide
    · simp [Decimal.head?_digits_ne_zero positive]
  simp only [readUnsigned?, Decimal.span_digits, filled, leading, Bool.or_self,
    Bool.false_eq_true, if_false, readFraction?, readExponent?, Option.bind_eq_bind,
    Option.bind_some]

theorem readNumber?_signed (value : Int)
    : readNumber? (Decimal.signed value)
      = some ({ negative := value < 0, row := Decimal.digits value.natAbs }, []) := by
  unfold Decimal.signed
  split
  · next negative => simp only [readNumber?, readUnsigned?_digits, negative, decide_true]
  · next natural =>
      unfold readNumber?
      split
      · next minus =>
          have digit : '-'.isDigit = true :=
            Nat.isDigit_of_mem_toDigits (by decide) (by decide) (minus ▸ List.mem_cons_self)
          cases digit
      · rw [readUnsigned?_digits, decide_eq_false natural]

/-- An integer of 64 bits reads back. -/
theorem readsBack_integer {value : Int}
    (fits : (Decimal.fitsInteger64 value || Decimal.fitsUnsigned64 value) = true)
    : (Number.integer value).ReadsBack := by
  have signed : (if value < 0 then -(value.natAbs : Int) else value.natAbs) = value := by
    split <;> omega
  have negativeZero : (decide (value < 0) && decide (value.natAbs = 0)) = false := by
    rw [Bool.and_eq_false_iff, decide_eq_false_iff_not, decide_eq_false_iff_not]
    omega
  simp only [Number.ReadsBack, Number.numeral?, renderNumber, readNumber?_signed,
    Option.bind_some, Numeral.toNumber?, Decimal.value_digits, decide_eq_true_eq, signed,
    negativeZero, fits]
  rfl

mutual

/-- All numbers in a value read back. -/
def NumbersReadBack : Json → Prop
  | number value => value.ReadsBack
  | array items => NumbersOfItemsReadBack items
  | object members => NumbersOfMembersReadBack members
  | _ => True
termination_by structural value => value

@[inherit_doc NumbersReadBack]
def NumbersOfItemsReadBack : List Json → Prop
  | [] => True
  | item :: rest => item.NumbersReadBack ∧ NumbersOfItemsReadBack rest
termination_by structural items => items

@[inherit_doc NumbersReadBack]
def NumbersOfMembersReadBack : List (String × Json) → Prop
  | [] => True
  | (_, value) :: rest => value.NumbersReadBack ∧ NumbersOfMembersReadBack rest
termination_by structural members => members

end

mutual

/-- The document that says what a value says. -/
def document : Json → Document
  | null => .null
  | bool value => .bool value
  | number value => (value.numeral?.map .number).getD .null
  | string value => .string (some value)
  | array items => .array (documents items)
  | object members => .object (memberDocuments members)
termination_by structural value => value

/-- The documents of the items of an array. -/
def documents : List Json → List Document
  | [] => []
  | item :: rest => item.document :: documents rest
termination_by structural items => items

/-- The documents of the members of an object. -/
def memberDocuments : List (String × Json) → List (Option String × Document)
  | [] => []
  | (key, value) :: rest => (some key, value.document) :: memberDocuments rest
termination_by structural members => members

end

-----------------------------------------------------------------------------------------
-- How values begin, and what may follow them
-----------------------------------------------------------------------------------------

/-- A number begins with a sign or a digit. -/
theorem head_of_readNumber? {text rest : List Char} {numeral : Numeral}
    (read : readNumber? text = some (numeral, rest))
    : ∃ c more, text = c :: more ∧ (c = '-' ∨ c.isDigit = true) := by
  unfold readNumber? at read
  split at read
  · exact ⟨_, _, rfl, .inl rfl⟩
  · cases text with
    | nil => cases read
    | cons c more =>
        cases digit : c.isDigit with
        | true => exact ⟨c, more, rfl, .inr digit⟩
        | false =>
            simp only [readUnsigned?, Decimal.span_of_ends (Decimal.ends_cons digit more)] at read
            cases read

theorem readNumber?_renderNumber {number : Number} (readsBack : number.ReadsBack)
    : ∃ numeral,
        number.numeral? = some numeral
        ∧ readNumber? (renderNumber number) = some (numeral, []) := by
  obtain ⟨numeral, known, _⟩ := Option.bind_eq_some_iff.mp readsBack
  refine ⟨numeral, known, ?_⟩
  unfold Number.numeral? at known
  split at known
  · next read =>
      cases known
      exact read
  · cases known

/-- What begins a number is no other character. -/
theorem ne_of_begins {c other : Char} (begins : c = '-' ∨ c.isDigit = true)
    (differs : (other = '-' || other.isDigit) = false)
    : c ≠ other := by
  rintro rfl
  simp only [Bool.or_eq_false_iff, decide_eq_false_iff_not] at differs
  rcases begins with minus | digit
  · exact differs.1 minus
  · exact absurd digit (by rw [differs.2]; decide)

/-- A value begins with neither a blank nor the end of an array or object. -/
theorem head_render {value : Json} (numbers : value.NumbersReadBack)
    : ∃ c more, value.render = c :: more ∧ isBlank c = false ∧ c ≠ ']' ∧ c ≠ '\x7d' := by
  cases value with
  | null => exact ⟨_, _, rfl, by decide⟩
  | bool value => cases value <;> exact ⟨_, _, rfl, by decide⟩
  | string value => exact ⟨_, _, rfl, by decide⟩
  | array items => exact ⟨_, _, rfl, by decide⟩
  | object members => exact ⟨_, _, rfl, by decide⟩
  | number value =>
      obtain ⟨_, _, read⟩ := readNumber?_renderNumber numbers
      obtain ⟨c, more, same, begins⟩ := head_of_readNumber? read
      have differs {other : Char} := @ne_of_begins c other begins
      refine ⟨c, more, same, ?_, differs (by decide), differs (by decide)⟩
      simp only [isBlank, Bool.or_eq_false_iff, decide_eq_false_iff_not]
      exact
        ⟨⟨⟨differs (by decide), differs (by decide)⟩, differs (by decide)⟩, differs (by decide)⟩

theorem skipBlanks_cons {c : Char} (printed : isBlank c = false) (text : List Char)
    : skipBlanks (c :: text) = c :: text := by
  simp [skipBlanks, printed]

theorem stops_cons {c : Char} (separates : c = ',' ∨ c = ']' ∨ c = '\x7d') (text : List Char)
    : Stops (c :: text) := by
  rcases separates with rfl | rfl | rfl
  all_goals exact ⟨Decimal.ends_cons (by decide) text, by simp, by simp⟩

theorem renderMoreItems_cons (item : Json) (rest : List Json)
    : renderMoreItems (item :: rest) = ',' :: renderItems (item :: rest) := rfl

theorem renderMoreMembers_cons (member : String × Json) (rest : List (String × Json))
    : renderMoreMembers (member :: rest) = ',' :: renderMembers (member :: rest) := rfl

theorem stops_renderMoreItems (items : List Json) (rest : List Char)
    : Stops (renderMoreItems items ++ rest) := by
  cases items with
  | nil => exact stops_cons (by simp) rest
  | cons item items => exact stops_cons (by simp) _

theorem stops_renderMoreMembers (members : List (String × Json)) (rest : List Char)
    : Stops (renderMoreMembers members ++ rest) := by
  cases members with
  | nil => exact stops_cons (by simp) rest
  | cons member members => exact stops_cons (by simp) _

-----------------------------------------------------------------------------------------
-- Steps of the reader
-----------------------------------------------------------------------------------------

section

variable {fuel : Nat} {text after rest : List Char} {c : Char} {item : Document}

theorem readValue?_number (begins : c = '-' ∨ c.isDigit = true)
    : readValue? (fuel + 1) (c :: text)
      = (readNumber? (c :: text)).map fun (value, rest) => (.number value, rest) := by
  have differs {other : Char} {more : List Char} (equal : c :: text = other :: more)
      (not : (other = '-' || other.isDigit) = false) : False :=
    ne_of_begins begins not (List.cons.inj equal).1
  rw [readValue?.eq_def]
  dsimp only
  split
  · next equal => exact (differs equal (by decide)).elim
  · next equal => exact (differs equal (by decide)).elim
  · next equal => exact (differs equal (by decide)).elim
  · next equal => exact (differs equal (by decide)).elim
  · next equal => exact (differs equal (by decide)).elim
  · next equal => exact (differs equal (by decide)).elim
  · rfl

theorem readValue?_items (printed : isBlank c = false) (filled : c ≠ ']')
    : readValue? (fuel + 1) ('[' :: c :: text)
      = (readItems? fuel (c :: text)).map fun (items, rest) => (.array items, rest) := by
  simp [readValue?, skipBlanks_cons printed, filled]

theorem readValue?_members (printed : isBlank c = false) (filled : c ≠ '\x7d')
    : readValue? (fuel + 1) ('\x7b' :: c :: text)
      = (readMembers? fuel (c :: text)).map fun (members, rest) => (.object members, rest) := by
  simp [readValue?, skipBlanks_cons printed, filled]

theorem readItems?_last (read : readValue? fuel text = some (item, ']' :: rest))
    : readItems? (fuel + 1) text = some ([item], rest) := by
  simp [readItems?, read, skipBlanks_cons (show isBlank ']' = false by decide)]

theorem readItems?_more (read : readValue? fuel text = some (item, ',' :: c :: after))
    (printed : isBlank c = false) {items : List Document}
    (more : readItems? fuel (c :: after) = some (items, rest))
    : readItems? (fuel + 1) text = some (item :: items, rest) := by
  simp [readItems?, read, skipBlanks_cons (show isBlank ',' = false by decide),
    skipBlanks_cons printed, more]

theorem readMembers?_last {key : Option String}
    (named : readText? text = some (key, ':' :: c :: after)) (printed : isBlank c = false)
    (read : readValue? fuel (c :: after) = some (item, '\x7d' :: rest))
    : readMembers? (fuel + 1) ('\x22' :: text) = some ([(key, item)], rest) := by
  simp [readMembers?, named, skipBlanks_cons printed, read,
    skipBlanks_cons (show isBlank ':' = false by decide),
    skipBlanks_cons (show isBlank '\x7d' = false by decide)]

theorem readMembers?_more {key : Option String} {next : Char} {later : List Char}
    (named : readText? text = some (key, ':' :: c :: after)) (printed : isBlank c = false)
    (read : readValue? fuel (c :: after) = some (item, ',' :: next :: later))
    (printedNext : isBlank next = false) {members : List (Option String × Document)}
    (more : readMembers? fuel (next :: later) = some (members, rest))
    : readMembers? (fuel + 1) ('\x22' :: text) = some ((key, item) :: members, rest) := by
  simp [readMembers?, named, skipBlanks_cons printed, read, skipBlanks_cons printedNext, more,
    skipBlanks_cons (show isBlank ':' = false by decide),
    skipBlanks_cons (show isBlank ',' = false by decide)]

end

-----------------------------------------------------------------------------------------
-- The notation of a value is read as its document
-----------------------------------------------------------------------------------------

mutual

/-- A value is read with fuel for two steps a character, by induction on the value. -/
theorem readValue?_render (value : Json) (numbers : value.NumbersReadBack) {fuel : Nat}
    (enough : 2 * value.render.length ≤ fuel) {rest : List Char} (stops : Stops rest)
    : readValue? fuel (value.render ++ rest) = some (value.document, rest) := by
  obtain ⟨c, more, begins, _⟩ := head_render numbers
  have filled : 0 < value.render.length := by simp [begins]
  obtain ⟨fuel, rfl⟩ : ∃ before, fuel = before + 1 := ⟨fuel - 1, by omega⟩
  match value with
  | null => simp [render, readValue?, document]
  | bool true => simp [render, readValue?, document]
  | bool false => simp [render, readValue?, document]
  | string text =>
      simp only [render, renderText, List.cons_append, List.append_assoc, List.nil_append,
        readValue?, readText?_flatMap]
      rfl
  | number written =>
      obtain ⟨numeral, known, read⟩ := readNumber?_renderNumber numbers
      obtain ⟨c, more, same, starts⟩ := head_of_readNumber? read
      have readOn := readNumber?_append stops read
      rw [same] at readOn
      simp only [render, document, known, same, List.cons_append]
      rw [readValue?_number starts, ← List.cons_append, readOn]
      rfl
  | array [] =>
      simp [render, renderItems, readValue?, document, documents,
        skipBlanks_cons (show isBlank ']' = false by decide)]
  | array (item :: items) =>
      simp only [render, List.length_cons] at enough
      have read :=
        readItems?_render (item :: items) numbers (List.cons_ne_nil _ _)
          (show 2 * (renderItems (item :: items)).length < fuel by omega) rest
      obtain ⟨c, more, same, printed, filled, _⟩ := head_render numbers.1
      simp only [renderItems, same, List.cons_append] at read
      simp only [render, renderItems, same, List.cons_append, readValue?_items printed filled,
        read]
      rfl
  | object [] =>
      simp [render, renderMembers, readValue?, document, memberDocuments,
        skipBlanks_cons (show isBlank '\x7d' = false by decide)]
  | object ((key, value) :: members) =>
      simp only [render, List.length_cons] at enough
      have read :=
        readMembers?_render ((key, value) :: members) numbers (List.cons_ne_nil _ _)
          (show 2 * (renderMembers ((key, value) :: members)).length < fuel by omega) rest
      simp only [renderMembers, renderText, List.cons_append] at read
      simp only [render, renderMembers, renderText, List.cons_append,
        readValue?_members (show isBlank '\x22' = false by decide) (by decide), read]
      rfl
termination_by structural value

/-- Items are read with fuel for one step more, by induction on the items. -/
theorem readItems?_render (items : List Json) (numbers : NumbersOfItemsReadBack items)
    (filled : items ≠ []) {fuel : Nat} (enough : 2 * (renderItems items).length < fuel)
    (rest : List Char)
    : readItems? fuel (renderItems items ++ rest) = some (documents items, rest) := by
  obtain ⟨fuel, rfl⟩ : ∃ before, fuel = before + 1 := ⟨fuel - 1, by omega⟩
  match items with
  | [] => exact absurd rfl filled
  | item :: items =>
      simp only [renderItems, List.length_append] at enough
      have read :=
        readValue?_render item numbers.1 (show 2 * item.render.length ≤ fuel by omega)
          (stops_renderMoreItems items rest)
      simp only [renderItems, List.append_assoc]
      match items with
      | [] => exact readItems?_last read
      | next :: items =>
          obtain ⟨c, more, same, printed, _⟩ := head_render numbers.2.1
          simp only [renderMoreItems_cons, List.length_cons] at enough
          have readMore :=
            readItems?_render (next :: items) numbers.2 (List.cons_ne_nil _ _)
              (show 2 * (renderItems (next :: items)).length < fuel by omega) rest
          simp only [renderMoreItems_cons, renderItems, same, List.cons_append] at read readMore ⊢
          exact readItems?_more read printed readMore
termination_by structural items

/-- Members are read with fuel for one step more, by induction on the members. -/
theorem readMembers?_render (members : List (String × Json))
    (numbers : NumbersOfMembersReadBack members) (filled : members ≠ []) {fuel : Nat}
    (enough : 2 * (renderMembers members).length < fuel) (rest : List Char)
    : readMembers? fuel (renderMembers members ++ rest)
      = some (memberDocuments members, rest) := by
  obtain ⟨fuel, rfl⟩ : ∃ before, fuel = before + 1 := ⟨fuel - 1, by omega⟩
  match members with
  | [] => exact absurd rfl filled
  | (key, value) :: members =>
      simp only [renderMembers, List.length_append, List.length_cons] at enough
      have read :=
        readValue?_render value numbers.1 (show 2 * value.render.length ≤ fuel by omega)
          (stops_renderMoreMembers members rest)
      obtain ⟨c, more, same, printed, _⟩ := head_render numbers.1
      have named :=
        readText?_flatMap key (':' :: (value.render ++ (renderMoreMembers members ++ rest)))
      simp only [renderMembers, renderText, List.append_assoc, List.cons_append,
        List.nil_append]
      simp only [same, List.cons_append] at read named ⊢
      match members with
      | [] => exact readMembers?_last named printed read
      | (nextKey, next) :: members =>
          simp only [renderMoreMembers_cons, List.length_cons] at enough
          have readMore :=
            readMembers?_render ((nextKey, next) :: members) numbers.2 (List.cons_ne_nil _ _)
              (show 2 * (renderMembers ((nextKey, next) :: members)).length < fuel by omega)
              rest
          simp only [renderMoreMembers_cons, renderMembers, renderText, List.append_assoc,
            List.cons_append, List.nil_append] at read named readMore ⊢
          exact readMembers?_more named printed read (by decide) readMore
termination_by structural members

end

/-- The compact notation of a value is a document that says what the value says, also before a text
that is no part of it.
-/
theorem readFirst?_render {value : Json} (numbers : value.NumbersReadBack) {rest : List Char}
    (stops : Stops rest)
    : Document.readFirst? (value.render ++ rest) = some (value.document, rest) := by
  obtain ⟨c, more, same, printed, _⟩ := head_render numbers
  have read := readValue?_render value numbers
    (show 2 * value.render.length ≤ 2 * (value.render ++ rest).length + 2 by simp; omega) stops
  simp only [same, List.cons_append] at read
  simp only [Document.readFirst?, same, List.cons_append, skipBlanks_cons printed]
  exact read

theorem read?_render {value : Json} (numbers : value.NumbersReadBack)
    : Document.read? value.render = some value.document := by
  have read := readFirst?_render numbers stops_nil
  rw [List.append_nil] at read
  rw [Document.read?, read]
  rfl

end ValueHistory.Json
