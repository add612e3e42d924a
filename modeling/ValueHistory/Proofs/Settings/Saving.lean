import ValueHistory.Proofs.Disk.Writing
import ValueHistory.Proofs.Toml.Lines
import ValueHistory.Settings.File

/-! Settings that are saved load back, whatever texts and lists they hold and whether they make
sense or not: their file is written line by line, and every line of it is read back.
-/

namespace ValueHistory

open Toml (Line)

-----------------------------------------------------------------------------------------
-- The lines of a settings file
-----------------------------------------------------------------------------------------

/-- The lines of the section of the store. -/
def StorageSettings.lines (settings : StorageSettings) : List Line :=
  [.ofText "backend" settings.backend, .ofText "path" settings.path]

/-- The lines of the section of the history. -/
def HistorySettings.lines (settings : HistorySettings) : List Line :=
  [ .ofCount "cursor_lifespan_secs" settings.cursorLifespan
  , .ofCount "sweep_interval_secs" settings.sweepInterval
  , .ofCount "default_limit" settings.defaultLimit ]

/-- The lines of the section of the recorder. -/
def RecorderSettings.lines (settings : RecorderSettings) : List Line :=
  [.ofCount "queue_capacity" settings.queueCapacity, .ofCount "workers" settings.workers]

/-- The lines of a filter. -/
def Filter.lines (filter : Filter) : List Line :=
  [ .ofTruth "enabled" filter.enabled
  , .ofTexts "include_things" filter.includeThings
  , .ofTexts "exclude_things" filter.excludeThings
  , .ofTexts "include_names" filter.includeNames
  , .ofTexts "exclude_names" filter.excludeNames
  , .ofTexts "affordance_types" (filter.affordances.map Affordance.name) ]

namespace Settings

/-- The lines of a settings file. -/
def lines (settings : Settings) : List Line :=
  .header [] "storage" :: settings.storage.lines
    ++ .empty :: .header [] "history" :: settings.history.lines
    ++ .empty :: .header [] "recorder" :: settings.recorder.lines
    ++ .empty :: .header ["filters"] "notifications" :: settings.filters.notifications.lines
    ++ .empty :: .header ["filters"] "requests" :: settings.filters.requests.lines

/-- The headers of a settings file, with the empty lines in front of them. -/
theorem headers_eq
    : "[storage]\n".toList = (Line.header [] "storage").text
      ∧ "\n[history]\n".toList = Line.empty.text ++ (Line.header [] "history").text
      ∧ "\n[recorder]\n".toList = Line.empty.text ++ (Line.header [] "recorder").text
      ∧ "\n[filters.notifications]\n".toList
        = Line.empty.text ++ (Line.header ["filters"] "notifications").text
      ∧ "\n[filters.requests]\n".toList
        = Line.empty.text ++ (Line.header ["filters"] "requests").text := by
  decide

theorem filterLines_eq (filter : Filter) : filterLines filter = filter.lines.flatMap Line.text := by
  simp only [filterLines, Filter.lines, List.flatMap_cons, List.flatMap_nil, List.append_assoc,
    List.append_nil]
  rfl

/-- A settings file consists of its lines. -/
theorem toFile_eq (settings : Settings)
    : settings.toFile = String.ofList (settings.lines.flatMap Line.text) := by
  obtain ⟨storage, history, recorder, notifications, requests⟩ := headers_eq
  unfold toFile
  simp only [storage, history, recorder, notifications, requests, filterLines_eq, lines,
    StorageSettings.lines, HistorySettings.lines, RecorderSettings.lines, List.flatMap_append,
    List.flatMap_cons, List.flatMap_nil, List.append_assoc, List.append_nil]
  rfl

-----------------------------------------------------------------------------------------
-- The document of a settings file
-----------------------------------------------------------------------------------------

/-- The table of both filters. -/
def filtersTable (filters : Filters) : Toml :=
  .table
    [ ("notifications", Toml.ofLines filters.notifications.lines)
    , ("requests", Toml.ofLines filters.requests.lines) ]

/-- The document of a settings file: a table for each section. -/
def document (settings : Settings) : Toml :=
  .table
    [ ("storage", Toml.ofLines settings.storage.lines)
    , ("history", Toml.ofLines settings.history.lines)
    , ("recorder", Toml.ofLines settings.recorder.lines)
    , ("filters", filtersTable settings.filters) ]

/-- The lines make the document out of nothing: no key is there twice, and the headers of the two
filters share the table that they imply.
-/
theorem exists_draft (settings : Settings)
    : ∃ draft,
        settings.lines.foldlM Line.take? {} = some draft
        ∧ .table (Toml.finishMembers draft.members) = settings.document :=
  ⟨_, rfl, rfl⟩

/-- Settings whose numbers can be kept in a file. -/
structure IsStorable (settings : Settings) : Prop where
  cursorLifespan : (settings.history.cursorLifespan : Int) ≤ Decimal.maxInteger64
  sweepInterval : (settings.history.sweepInterval : Int) ≤ Decimal.maxInteger64
  defaultLimit : (settings.history.defaultLimit : Int) ≤ Decimal.maxInteger64
  queueCapacity : (settings.recorder.queueCapacity : Int) ≤ Decimal.maxInteger64
  workers : (settings.recorder.workers : Int) ≤ Decimal.maxInteger64

theorem le_maxUnsigned128 {value : Nat} (small : (value : Int) ≤ Decimal.maxInteger64)
    : (value : Int) ≤ Toml.maxUnsigned128 :=
  Int.le_trans small (by decide)

theorem isReadable_of_mem_filter (filter : Filter) : ∀ line ∈ filter.lines, line.IsReadable := by
  unfold Filter.lines
  simp only [List.forall_mem_cons]
  refine ⟨?_, ?_, ?_, ?_, ?_, ?_, nofun⟩
  · exact Line.isReadable_ofTruth (by decide) _
  all_goals exact Line.isReadable_ofTexts (by decide) _

/-- Every line of settings that can be kept is read back. -/
theorem isReadable_of_mem_lines {settings : Settings} (storable : settings.IsStorable)
    : ∀ line ∈ settings.lines, line.IsReadable := by
  have storage : ∀ line ∈ settings.storage.lines, line.IsReadable := by
    unfold StorageSettings.lines
    simp only [List.forall_mem_cons]
    refine ⟨?_, ?_, nofun⟩
    all_goals exact Line.isReadable_ofText (by decide) _
  have history : ∀ line ∈ settings.history.lines, line.IsReadable := by
    unfold HistorySettings.lines
    simp only [List.forall_mem_cons]
    refine ⟨?_, ?_, ?_, nofun⟩
    · exact Line.isReadable_ofCount (by decide) (le_maxUnsigned128 storable.cursorLifespan)
    · exact Line.isReadable_ofCount (by decide) (le_maxUnsigned128 storable.sweepInterval)
    · exact Line.isReadable_ofCount (by decide) (le_maxUnsigned128 storable.defaultLimit)
  have recorder : ∀ line ∈ settings.recorder.lines, line.IsReadable := by
    unfold RecorderSettings.lines
    simp only [List.forall_mem_cons]
    refine ⟨?_, ?_, nofun⟩
    · exact Line.isReadable_ofCount (by decide) (le_maxUnsigned128 storable.queueCapacity)
    · exact Line.isReadable_ofCount (by decide) (le_maxUnsigned128 storable.workers)
  have notifications := isReadable_of_mem_filter settings.filters.notifications
  have requests := isReadable_of_mem_filter settings.filters.requests
  have empty : Line.empty.IsReadable := trivial
  have headers
      : (Line.header [] "storage").IsReadable
        ∧ (Line.header [] "history").IsReadable
        ∧ (Line.header [] "recorder").IsReadable
        ∧ (Line.header ["filters"] "notifications").IsReadable
        ∧ (Line.header ["filters"] "requests").IsReadable := by
    unfold Line.IsReadable
    decide
  obtain ⟨first, second, third, fourth, fifth⟩ := headers
  simp only [lines, List.forall_mem_append, List.forall_mem_cons]
  exact ⟨⟨⟨⟨⟨first, storage⟩, empty, second, history⟩, empty, third, recorder⟩, empty, fourth,
    notifications⟩, empty, fifth, requests⟩

-----------------------------------------------------------------------------------------
-- The settings in the document
-----------------------------------------------------------------------------------------

theorem unsigned?_integer {value : Nat} (small : (value : Int) ≤ Decimal.maxInteger64)
    : Toml.settingsSource.unsigned? (.integer value) = some value := by
  have fits : Decimal.fitsUnsigned64 value = true := by
    simp only [Decimal.fitsUnsigned64, Bool.and_eq_true, decide_eq_true_eq]
    exact ⟨Int.natCast_nonneg value, Int.le_trans small (by decide)⟩
  exact if_pos fits

/-- A list is read back when each item of it is, by induction on it. -/
theorem mapM_map {α β : Type} {write : α → β} {read : β → Option α}
    (readsBack : ∀ item, read (write item) = some item) (items : List α)
    : (items.map write).mapM read = some items := by
  induction items with
  | nil => rfl
  | cons item items ih =>
      rw [List.map_cons, List.mapM_cons, readsBack, ih]
      rfl

theorem texts?_map_string (texts : List String)
    : Toml.settingsSource.texts? (.array (texts.map .string)) = some texts := by
  have read : ∀ text : String, Toml.settingsSource.text? (.string text) = some text :=
    fun _ => rfl
  exact mapM_map read texts

theorem affordances?_map_name (affordances : List Affordance)
    : Toml.settingsSource.affordances? (.array ((affordances.map Affordance.name).map .string))
      = some affordances := by
  have read
      : ∀ kind : Affordance, Toml.settingsSource.affordance? (.string kind.name) = some kind :=
    Affordance.ofExactName?_name
  rw [List.map_map]
  exact mapM_map read affordances

theorem storage?_table (default settings : StorageSettings)
    : Toml.settingsSource.storage? default (Toml.ofLines settings.lines) = some settings :=
  rfl

theorem history?_table {settings : Settings} (storable : settings.IsStorable)
    : Toml.settingsSource.history? (Toml.ofLines settings.history.lines)
      = some settings.history := by
  have fields
      : Toml.settingsSource.fields?
          ["cursor_lifespan_secs", "sweep_interval_secs", "default_limit"]
          (Toml.ofLines settings.history.lines)
        = some
            [ some (.integer settings.history.cursorLifespan)
            , some (.integer settings.history.sweepInterval)
            , some (.integer settings.history.defaultLimit) ] :=
    rfl
  simp [Source.history?, fields, overlay, unsigned?_integer storable.cursorLifespan,
    unsigned?_integer storable.sweepInterval, unsigned?_integer storable.defaultLimit]

theorem recorder?_table {settings : Settings} (storable : settings.IsStorable)
    : Toml.settingsSource.recorder? (Toml.ofLines settings.recorder.lines)
      = some settings.recorder := by
  have fields
      : Toml.settingsSource.fields? ["queue_capacity", "workers"]
          (Toml.ofLines settings.recorder.lines)
        = some
            [ some (.integer settings.recorder.queueCapacity)
            , some (.integer settings.recorder.workers) ] :=
    rfl
  simp [Source.recorder?, fields, overlay, unsigned?_integer storable.queueCapacity,
    unsigned?_integer storable.workers]

theorem filter?_table (filter : Filter)
    : Toml.settingsSource.filter? (Toml.ofLines filter.lines) = some filter := by
  have fields
      : Toml.settingsSource.fields?
          [ "enabled", "include_things", "exclude_things", "include_names", "exclude_names"
          , "affordance_types" ]
          (Toml.ofLines filter.lines)
        = some
            [ some (.truth filter.enabled)
            , some (.array (filter.includeThings.map .string))
            , some (.array (filter.excludeThings.map .string))
            , some (.array (filter.includeNames.map .string))
            , some (.array (filter.excludeNames.map .string))
            , some (.array ((filter.affordances.map Affordance.name).map .string)) ] :=
    rfl
  have truth : Toml.settingsSource.truth? (.truth filter.enabled) = some filter.enabled := rfl
  simp only [Source.filter?, fields, overlay, truth, texts?_map_string, affordances?_map_name,
    Option.bind_eq_bind, Option.bind_some]

theorem filters?_filtersTable (filters : Filters)
    : Toml.settingsSource.filters? (filtersTable filters) = some filters := by
  have fields
      : Toml.settingsSource.fields? ["notifications", "requests"] (filtersTable filters)
        = some
            [ some (Toml.ofLines filters.notifications.lines)
            , some (Toml.ofLines filters.requests.lines) ] :=
    rfl
  simp [Source.filters?, fields, overlay, filter?_table]

/-- The document holds the settings, whatever the defaults are. -/
theorem settings?_document {settings : Settings} (storable : settings.IsStorable)
    (default : Settings)
    : Toml.settingsSource.settings? default settings.document = some settings := by
  have fields
      : Toml.settingsSource.fields? ["storage", "history", "recorder", "filters"] settings.document
        = some
            [ some (Toml.ofLines settings.storage.lines)
            , some (Toml.ofLines settings.history.lines)
            , some (Toml.ofLines settings.recorder.lines)
            , some (filtersTable settings.filters) ] :=
    rfl
  simp [Source.settings?, fields, overlay, storage?_table, history?_table storable,
    recorder?_table storable, filters?_filtersTable]

/-- The content of a settings file is read as the settings that it was made of. -/
theorem ofFile_toFile {settings : Settings} (storable : settings.IsStorable) (default : Settings)
    : ofFile default (some (Bytes.ofString settings.toFile)) = .ok settings := by
  obtain ⟨draft, taken, made⟩ := exists_draft settings
  have first : (settings.lines.flatMap Line.text).head? = some '[' := rfl
  have read :=
    Toml.read?_of_lines (isReadable_of_mem_lines storable) taken (by rw [first]; decide)
  have found := settings?_document storable default
  rw [ofFile, Option.bind_some, Bytes.toString?_ofString]
  simp only [toFile_eq, String.toList_ofList, read, made, Option.bind_some, found]

/-- Settings that are saved load back, whatever texts and lists they hold, as long as their numbers
can be kept: in a place where a file can be written at all, writing them succeeds, and what is read
there afterwards over any defaults is the settings again. So they are accepted or refused after they
have been saved as they were before. Witness: the text is read back line by line, and the disk holds
what was written to it.
-/
theorem saved_settings_load_back {settings : Settings} (storable : settings.IsStorable)
    {disk : Disk} {path : String} (writable : disk.IsWritable path)
    : ∃ saved,
        disk.write? path (Bytes.ofString settings.toFile) = some saved
        ∧ ∀ default,
          ofFile default (saved.read? path) = .ok settings
          ∧ ofFileChecked default (saved.read? path) = settings.check.map fun _ => settings := by
  obtain ⟨saved, written, read⟩ :=
    Disk.exists_write?_of_isWritable writable (Bytes.ofString settings.toFile)
  refine ⟨saved, written, fun default => ?_⟩
  have loaded := ofFile_toFile storable default
  rw [← read] at loaded
  refine ⟨loaded, ?_⟩
  rw [ofFileChecked, loaded]
  cases checked : settings.check with
  | error failure => simp [checked, bind, Except.bind, Except.map]
  | ok accepted => simp [checked, bind, Except.bind, Except.map, pure, Except.pure]

/-- Settings with all that is hard to write: quotes of both kinds, three in a row, backslashes, line
ends and controls, and lists of no, one and several texts.
-/
def awkward : Settings :=
  { storage :=
      { backend := "it\x27s \x22the\x22 \x5c lamp"
        path := "\n\x27\x27\x27\r\x22\x22\x22\x22" }
    history := { cursorLifespan := 0, sweepInterval := 9223372036854775807 }
    recorder := { workers := 1000 }
    filters :=
      { notifications := { includeThings := ["", "\x00lamp"], excludeNames := ["a\nb"] }
        requests := { enabled := false, affordances := [.event, .property, .event] } } }

/-- Awkward settings are written into a directory that is not there yet, and load back. -/
theorem awkward_settings_load_back
    : awkward.IsStorable
      ∧ ({} : Disk).IsWritable "lamps/server.toml"
      ∧ ∃ saved,
          ({} : Disk).write? "lamps/server.toml" (Bytes.ofString awkward.toFile) = some saved
          ∧ ofFile awkward (saved.read? "lamps/server.toml") = .ok awkward := by
  have storable : awkward.IsStorable :=
    ⟨by decide, by decide, by decide, by decide, by decide⟩
  have writable : ({} : Disk).IsWritable "lamps/server.toml" := ⟨[], by decide⟩
  obtain ⟨saved, written, loads⟩ := saved_settings_load_back storable writable
  exact ⟨storable, writable, saved, written, (loads awkward).1⟩

end Settings

end ValueHistory
