import ValueHistory.Proofs.Toml.Values

/-! Documents read back line by line: headers of tables, and keys with values that are read back.
Each line leads from one draft to the next, whatever comes after it.
-/

namespace ValueHistory.Toml

-----------------------------------------------------------------------------------------
-- Keys
-----------------------------------------------------------------------------------------

/-- A key that needs no quotes. -/
def IsBareKey (key : String) : Prop :=
  key ≠ "" ∧ key.toList.all isBare = true

instance (key : String) : Decidable (IsBareKey key) :=
  inferInstanceAs (Decidable (_ ∧ _))

theorem IsBareKey.isBare_of_mem {key : String} (bare : IsBareKey key)
    : ∀ c ∈ key.toList, isBare c = true :=
  List.all_eq_true.mp bare.2

theorem IsBareKey.exists_cons {key : String} (bare : IsBareKey key)
    : ∃ c later, key.toList = c :: later ∧ isBare c = true := by
  cases written : key.toList with
  | nil => exact absurd (String.toList_eq_nil_iff.mp written) bare.1
  | cons c later =>
      exact ⟨c, later, rfl, bare.isBare_of_mem c (by rw [written]; exact List.mem_cons_self)⟩

theorem starts_bareKey {key : String} (bare : IsBareKey key) (rest : List Char)
    : Starts (key.toList ++ rest) := by
  obtain ⟨c, later, written, first⟩ := bare.exists_cons
  rw [written]
  exact starts_cons (not_mem_of_any_eq_false (by decide) first) _

/-- A key without quotes ends where no character of such keys comes. -/
theorem readKeyPart?_bareKey {key : String} (bare : IsBareKey key) {rest : List Char}
    (ends : ∀ c, rest.head? = some c → isBare c = false)
    : readKeyPart? (key.toList ++ rest) = some (key, rest) := by
  obtain ⟨taken, left⟩ := takeWhile_and_dropWhile_append bare.isBare_of_mem ends
  obtain ⟨c, later, written, first⟩ := bare.exists_cons
  have quote : (c = '\x22' || c = '\x27') = false := by
    simpa using (not_mem_of_any_eq_false (by decide) first : c ∉ ['\x22', '\x27'])
  rw [written, List.cons_append] at taken left ⊢
  rw [readKeyPart?.eq_def]
  simp only [quote, taken, left]
  rw [← written, String.ofList_toList]
  simp [written]

/-- A key after its tables, with dots between them. -/
def dotted (path : List String) (key : String) : List Char :=
  path.flatMap (fun name => name.toList ++ ['.']) ++ key.toList

theorem exists_dotted_eq_cons {path : List String} {key : String}
    (tables : ∀ name ∈ path, IsBareKey name) (bare : IsBareKey key)
    : ∃ c later, dotted path key = c :: later ∧ isBare c = true := by
  cases path with
  | nil => exact bare.exists_cons
  | cons name path =>
      obtain ⟨c, later, written, first⟩ := (tables name List.mem_cons_self).exists_cons
      exact ⟨c, later ++ '.' :: dotted path key, by simp [dotted, written], first⟩

/-- A key with dots is read back as its tables and its last part, by induction on the tables. -/
theorem readKeyParts?_dotted {path : List String} {key : String}
    (tables : ∀ name ∈ path, IsBareKey name) (bare : IsBareKey key) {rest : List Char}
    (ends : ∀ c, rest.head? = some c → isBare c = false)
    (point : (skipBlanks rest).head? ≠ some '.') {fuel : Nat} (enough : path.length < fuel)
    : readKeyParts? fuel (dotted path key ++ rest) = some (path, key, skipBlanks rest) := by
  obtain ⟨fuel, rfl⟩ := Nat.exists_eq_add_one.mpr (Nat.zero_lt_of_lt enough)
  induction path generalizing fuel with
  | nil =>
      rw [dotted, List.flatMap_nil, List.nil_append, readKeyParts?,
        skipBlanks_of_starts (starts_bareKey bare rest), readKeyPart?_bareKey bare ends]
      simp only [Option.bind_eq_bind, Option.bind_some]
      split
      · next text same => exact absurd (by rw [same]; rfl) point
      · rfl
  | cons name path ih =>
      rw [List.forall_mem_cons] at tables
      rw [List.length_cons] at enough
      obtain ⟨fuel, rfl⟩ := Nat.exists_eq_add_one.mpr (show 0 < fuel by omega)
      have later := ih tables.2 fuel (by omega)
      have written
          : dotted (name :: path) key ++ rest
            = name.toList ++ '.' :: (dotted path key ++ rest) := by
        simp [dotted]
      have stays
          : skipBlanks ('.' :: (dotted path key ++ rest)) = '.' :: (dotted path key ++ rest) :=
        skipBlanks_of_starts (starts_cons (by decide) _)
      rw [written, readKeyParts?, skipBlanks_of_starts (starts_bareKey tables.1 _),
        readKeyPart?_bareKey tables.1 (by simp [isBare])]
      simp only [Option.bind_eq_bind, Option.bind_some, stays, later]

-----------------------------------------------------------------------------------------
-- Lines
-----------------------------------------------------------------------------------------

/-- A line of a document: an empty one, the header of a table, or a key with the text of its value.
-/
inductive Line where
  | empty
  | header (path : List String) (key : String)
  | pair (key : String) (text : List Char) (value : Toml)

namespace Line

/-- The text of a line. -/
def text : Line → List Char
  | empty => ['\n']
  | header path key => '[' :: dotted path key ++ [']', '\n']
  | pair key text _ => key.toList ++ " = ".toList ++ text ++ ['\n']

/-- What a line makes of a draft. -/
def take? (draft : Draft) : Line → Option Draft
  | empty => some draft
  | header path key =>
    (draft.members.openTable path key).map fun members => { members, path := path ++ [key] }
  | pair key _ value =>
    (draft.members.below (fun members => members.assign key value []) draft.path).map
      fun members => { draft with members }

/-- The member that a line adds to its table. -/
def member? : Line → Option (String × Toml)
  | pair key _ value => some (key, value)
  | _ => none

/-- A line that is read back: its keys need no quotes, and its text is that of its value. -/
def IsReadable : Line → Prop
  | empty => True
  | header path key =>
    path.length < maxKeyParts ∧ (∀ name ∈ path, IsBareKey name) ∧ IsBareKey key
  | pair key text value => IsBareKey key ∧ Spells maxNesting text value

/-- A line with a text. -/
def ofText (key value : String) : Line :=
  pair key (renderText value) (.string value)

/-- A line with a whole number. -/
def ofCount (key : String) (value : Nat) : Line :=
  pair key (Decimal.digits value) (.integer value)

/-- A line with a truth value. -/
def ofTruth (key : String) (value : Bool) : Line :=
  pair key (renderTruth value) (.truth value)

/-- A line with a list of texts, which may go on over several lines. -/
def ofTexts (key : String) (values : List String) : Line :=
  pair key (renderTexts values) (.array (values.map .string))

variable {key : String}

theorem isReadable_ofText (bare : IsBareKey key) (value : String) : (ofText key value).IsReadable :=
  ⟨bare, spells_renderText maxNesting value⟩

theorem isReadable_ofCount (bare : IsBareKey key) {value : Nat}
    (inRange : (value : Int) ≤ maxUnsigned128)
    : (ofCount key value).IsReadable :=
  ⟨bare, spells_digits maxNesting inRange⟩

theorem isReadable_ofTruth (bare : IsBareKey key) (value : Bool) : (ofTruth key value).IsReadable :=
  ⟨bare, spells_renderTruth maxNesting value⟩

theorem isReadable_ofTexts (bare : IsBareKey key) (values : List String)
    : (ofTexts key values).IsReadable :=
  ⟨bare, spells_renderTexts (maxNesting - 1) values⟩

end Line

/-- The table of lines without headers. -/
def ofLines (lines : List Line) : Toml :=
  .table (lines.filterMap Line.member?)

theorem readHeader?_dotted {path : List String} {key : String} (few : path.length < maxKeyParts)
    (tables : ∀ name ∈ path, IsBareKey name) (bare : IsBareKey key) (draft : Draft)
    (rest : List Char)
    : readHeader? draft (dotted path key ++ ']' :: rest)
      = ((Line.header path key).take? draft).map (·, rest) := by
  have stays : skipBlanks (']' :: rest) = ']' :: rest :=
    skipBlanks_of_starts (starts_cons (by decide) rest)
  have ends : ∀ c, (']' :: rest).head? = some c → isBare c = false := by simp [isBare]
  have read := readKeyParts?_dotted tables bare ends (by simp [stays]) few
  rw [stays] at read
  unfold readHeader?
  split
  · next same =>
      obtain ⟨c, later, written, first⟩ := exists_dotted_eq_cons tables bare
      rw [written] at same
      rw [(List.cons.inj same).1] at first
      cases first
  · simp [readKey?, read, Rfc3339.literal?, Line.take?, Option.map_eq_bind, Option.bind_assoc]

theorem readPair?_pair {key : String} (bare : IsBareKey key) {text : List Char} {value : Toml}
    (spells : Spells maxNesting text value) (draft : Draft) (rest : List Char)
    : readPair? draft (key.toList ++ ' ' :: '=' :: ' ' :: (text ++ '\n' :: rest))
      = ((Line.pair key text value).take? draft).map (·, '\n' :: rest) := by
  have starts := spells.starts ('\n' :: rest)
  have keyRead :=
    @readKeyParts?_dotted [] key nofun bare (' ' :: '=' :: ' ' :: (text ++ '\n' :: rest))
      (by simp [isBare]) (by simp [skipBlanks]) maxKeyParts (by decide)
  have equals
      : skipBlanks (' ' :: '=' :: ' ' :: (text ++ '\n' :: rest))
        = '=' :: ' ' :: (text ++ '\n' :: rest) := by
    simp [skipBlanks]
  have blank : skipBlanks (' ' :: (text ++ '\n' :: rest)) = text ++ '\n' :: rest :=
    skipBlanks_of_starts starts
  have read :=
    spells.reads ('\n' :: rest) (2 * (text ++ '\n' :: rest).length + 2)
      (closes_cons (by decide) rest) (by rw [List.length_append]; omega)
  rw [equals] at keyRead
  unfold readPair?
  rw [readKey?, show key.toList = dotted [] key from rfl, keyRead]
  simp only [Option.bind_eq_bind, Option.bind_some, Rfc3339.literal?, if_true, blank, read]
  simp [Line.take?, Option.map_eq_bind, Option.bind_assoc]

-----------------------------------------------------------------------------------------
-- Lines one after the other
-----------------------------------------------------------------------------------------

/-- A text that leads a reader from one draft to another, whatever comes after it. -/
def Leads (draft : Draft) (text : List Char) (later : Draft) : Prop :=
  ∀ rest fuel,
    (text ++ rest).length < fuel
    → ∃ left,
        rest.length < left
        ∧ readLinesOf? fuel draft (text ++ rest) = readLinesOf? left later rest

theorem Leads.nil (draft : Draft) : Leads draft [] draft :=
  fun _ fuel enough => ⟨fuel, enough, rfl⟩

theorem Leads.append {first second third : Draft} {text next : List Char}
    (leads : Leads first text second) (goesOn : Leads second next third)
    : Leads first (text ++ next) third := by
  intro rest fuel enough
  rw [List.append_assoc] at enough ⊢
  obtain ⟨left, enough, read⟩ := leads (next ++ rest) fuel enough
  obtain ⟨left, enough, readNext⟩ := goesOn rest left enough
  exact ⟨left, enough, read.trans readNext⟩

section

variable {draft later : Draft} {text rest : List Char}

/-- Where a line begins and what is read of it ends with it, the reader goes on behind it. -/
theorem readLinesOf?_header (read : readHeader? draft text = some (later, '\n' :: rest))
    (fuel : Nat)
    : readLinesOf? (fuel + 1) draft ('[' :: text) = readLinesOf? fuel later rest := by
  have starts : skipAll ('[' :: text) = '[' :: text :=
    skipAll_of_starts (starts_cons (by decide) text)
  simp [readLinesOf?, starts, read, skipBlanks, skipComment, lineEnd?]

theorem readLinesOf?_pair (starts : Starts text) (key : ∃ c after, text = c :: after ∧ c ≠ '[')
    (read : readPair? draft text = some (later, '\n' :: rest)) (fuel : Nat)
    : readLinesOf? (fuel + 1) draft text = readLinesOf? fuel later rest := by
  obtain ⟨c, after, rfl, other⟩ := key
  simp [readLinesOf?, skipAll_of_starts starts, other, read, skipBlanks, skipComment, lineEnd?]

end

theorem readLinesOf?_empty (fuel : Nat) (draft : Draft) (rest : List Char)
    : readLinesOf? fuel draft ('\n' :: rest) = readLinesOf? fuel draft rest := by
  have skips : skipAll ('\n' :: rest) = skipAll rest := rfl
  cases fuel with
  | zero => rfl
  | succ fuel => rw [readLinesOf?, skips, readLinesOf?]

/-- A readable line leads to what it makes of a draft. -/
theorem leads_of_take? {line : Line} (readable : line.IsReadable) {draft later : Draft}
    (taken : line.take? draft = some later)
    : Leads draft line.text later := by
  intro rest fuel enough
  rw [List.length_append] at enough
  obtain ⟨fuel, rfl⟩ := Nat.exists_eq_add_one.mpr (Nat.zero_lt_of_lt enough)
  cases line with
  | empty =>
      cases taken
      exact ⟨fuel + 1, by omega, readLinesOf?_empty (fuel + 1) draft rest⟩
  | header path key =>
      obtain ⟨few, tables, bare⟩ := readable
      have read := readHeader?_dotted few tables bare draft ('\n' :: rest)
      rw [taken] at read
      have written
          : (Line.header path key).text ++ rest
            = '[' :: (dotted path key ++ ']' :: '\n' :: rest) := by
        simp [Line.text]
      rw [Line.text, List.length_append, List.length_cons] at enough
      refine ⟨fuel, by omega, ?_⟩
      rw [written]
      exact readLinesOf?_header read fuel
  | pair key text value =>
      obtain ⟨bare, spells⟩ := readable
      have read := readPair?_pair bare spells draft rest
      rw [taken] at read
      have written
          : (Line.pair key text value).text ++ rest
            = key.toList ++ ' ' :: '=' :: ' ' :: (text ++ '\n' :: rest) := by
        simp [Line.text]
      have table : isBare '[' = false := by decide
      obtain ⟨c, after, spelled, first⟩ := bare.exists_cons
      have other : c ≠ '[' := by
        rintro rfl
        rw [table] at first
        cases first
      rw [Line.text, List.length_append, List.length_singleton] at enough
      refine ⟨fuel, by omega, ?_⟩
      rw [written]
      exact readLinesOf?_pair (starts_bareKey bare _) ⟨c, _, by rw [spelled]; rfl, other⟩ read fuel

/-- Readable lines lead to what they make of a draft one after the other, by induction on them. -/
theorem leads_of_foldlM {lines : List Line} (readable : ∀ line ∈ lines, line.IsReadable)
    {draft later : Draft} (taken : lines.foldlM Line.take? draft = some later)
    : Leads draft (lines.flatMap Line.text) later := by
  induction lines generalizing draft with
  | nil =>
      cases taken
      exact .nil _
  | cons line lines ih =>
      rw [List.forall_mem_cons] at readable
      obtain ⟨next, first, others⟩ := Option.bind_eq_some_iff.mp taken
      exact (leads_of_take? readable.1 first).append (ih readable.2 others)

/-- A document of readable lines is read as the table that they make. -/
theorem read?_of_lines {lines : List Line} (readable : ∀ line ∈ lines, line.IsReadable)
    {draft : Draft} (taken : lines.foldlM Line.take? {} = some draft)
    (mark : (lines.flatMap Line.text).head? ≠ some '\uFEFF')
    : read? (lines.flatMap Line.text) = some (.table (finishMembers draft.members)) := by
  obtain ⟨left, enough, read⟩ :=
    leads_of_foldlM readable taken [] ((lines.flatMap Line.text).length + 1) (by simp)
  obtain ⟨left, rfl⟩ := Nat.exists_eq_add_one.mpr (Nat.zero_lt_of_lt enough)
  rw [List.append_nil] at read
  unfold read?
  split
  · next same => exact absurd (by rw [same]; rfl) mark
  · simp only [read]
    rfl

end ValueHistory.Toml
