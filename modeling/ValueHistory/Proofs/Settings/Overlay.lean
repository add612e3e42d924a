import ValueHistory.Settings.File

/-! Settings files over the defaults. Whatever a file gives of the settings is what the settings
hold, and whatever it leaves out is what the defaults hold, in whichever parts it gives the tables.
One field is apart: a table of conditions on requests is read over the filter that lets everything
pass, and not over the default filter for requests, so that without kinds of affordance of its own
it lets all kinds pass.
-/

namespace ValueHistory

-----------------------------------------------------------------------------------------
-- What a record gives
-----------------------------------------------------------------------------------------

/-- What a record gives of the field at a place: a table by the name of the field, an array by the
place.
-/
def Toml.field? (document : Toml) (name : String) (place : Nat) : Option Toml :=
  match document with
  | .table members => member? members name
  | .array items => items[place]?
  | _ => none

theorem Toml.fields?_eq_some {names : List String} {document : Toml}
    {fields : List (Option Toml)} (read : fields? names document = some fields)
    : fields = names.zipIdx.map fun name => document.field? name.1 name.2 := by
  have named (values : String → Option Toml)
      : names.map values = names.zipIdx.map fun name => values name.1 := by
    rw [← Function.comp_def values Prod.fst, ← List.map_map, List.zipIdx_map_fst]
  unfold fields? at read
  split at read
  · split at read
    · exact (Option.some.inj read).symm.trans (named _)
    · cases read
  · exact (Option.some.inj read).symm
  · exact (Option.some.inj read).symm.trans (named _)
  · cases read

namespace Settings

-----------------------------------------------------------------------------------------
-- Fields and their values
-----------------------------------------------------------------------------------------

/-- The value of a field. -/
inductive Value where
  | text (value : String)
  | count (value : Nat)
  | truth (value : Bool)
  | texts (values : List String)
  | affordances (values : List Affordance)
deriving DecidableEq, Repr

/-- The writings of a value. A kind of affordance is a choice by its name. -/
def Value.IsWritten : Value → Toml → Prop
  | .text value, document => document = .string value
  | .count value, document => document = .integer value
  | .truth value, document => document = .truth value
  | .texts values, document => document = .array (values.map .string)
  | .affordances values, document =>
    ∃ items,
      document = .array items
      ∧ items.map Toml.choice? = values.map fun value => some value.name

/-- The value of a field is the one that the document gives, and else the one to fall back to. -/
def Value.Overlays (value fallback : Value) : Option Toml → Prop
  | none => value = fallback
  | some document => value.IsWritten document

/-- A field of a filter. -/
inductive FilterField where
  | enabled
  | includeThings
  | excludeThings
  | includeNames
  | excludeNames
  | affordances
deriving DecidableEq, Repr

/-- A field of the settings. -/
inductive Field where
  | backend
  | path
  | cursorLifespan
  | sweepInterval
  | defaultLimit
  | queueCapacity
  | workers
  | filter (kind : MessageKind) (field : FilterField)
deriving DecidableEq, Repr

/-- The value of a filter's field. -/
def FilterField.value (filter : Filter) : FilterField → Value
  | .enabled => .truth filter.enabled
  | .includeThings => .texts filter.includeThings
  | .excludeThings => .texts filter.excludeThings
  | .includeNames => .texts filter.includeNames
  | .excludeNames => .texts filter.excludeNames
  | .affordances => .affordances filter.affordances

/-- What a table of conditions gives of a field. -/
def FilterField.given? (field : FilterField) (document : Toml) : Option Toml :=
  match field with
  | .enabled => document.field? "enabled" 0
  | .includeThings => document.field? "include_things" 1
  | .excludeThings => document.field? "exclude_things" 2
  | .includeNames => document.field? "include_names" 3
  | .excludeNames => document.field? "exclude_names" 4
  | .affordances => document.field? "affordance_types" 5

namespace Field

/-- The value of a field. -/
def value (settings : Settings) : Field → Value
  | .backend => .text settings.storage.backend
  | .path => .text settings.storage.path
  | .cursorLifespan => .count settings.history.cursorLifespan
  | .sweepInterval => .count settings.history.sweepInterval
  | .defaultLimit => .count settings.history.defaultLimit
  | .queueCapacity => .count settings.recorder.queueCapacity
  | .workers => .count settings.recorder.workers
  | .filter kind field => field.value (settings.filters.ofKind kind)

/-- The table of conditions that the section of the filters gives for a kind of message. -/
def conditions? (kind : MessageKind) (filters : Toml) : Option Toml :=
  match kind with
  | .notification => filters.field? "notifications" 0
  | .request => filters.field? "requests" 1

/-- What a document gives of a field. -/
def given? (field : Field) (document : Toml) : Option Toml :=
  match field with
  | .backend => (document.field? "storage" 0).bind (·.field? "backend" 0)
  | .path => (document.field? "storage" 0).bind (·.field? "path" 1)
  | .cursorLifespan => (document.field? "history" 1).bind (·.field? "cursor_lifespan_secs" 0)
  | .sweepInterval => (document.field? "history" 1).bind (·.field? "sweep_interval_secs" 1)
  | .defaultLimit => (document.field? "history" 1).bind (·.field? "default_limit" 2)
  | .queueCapacity => (document.field? "recorder" 2).bind (·.field? "queue_capacity" 0)
  | .workers => (document.field? "recorder" 2).bind (·.field? "workers" 1)
  | .filter kind field =>
    ((document.field? "filters" 3).bind (conditions? kind)).bind field.given?

/-- Whether a document gives conditions on requests without their kinds of affordance. -/
def leavesKindsOpen (document : Toml) : Bool :=
  ((document.field? "filters" 3).bind (conditions? .request)).isSome
    && (given? (.filter .request .affordances) document).isNone

/-- The value to fall back to where a document does not give a field. -/
def fallback (default : Settings) (document : Toml) : Field → Value
  | .filter kind field =>
    if ((document.field? "filters" 3).bind (conditions? kind)).isSome then field.value {}
    else field.value (default.filters.ofKind kind)
  | field => field.value default

end Field

-----------------------------------------------------------------------------------------
-- Values that are read
-----------------------------------------------------------------------------------------

theorem map_eq_of_mapM_eq_some {α β γ : Type} {read : α → Option β} {left : α → γ}
    {right : β → γ} (each : ∀ {item value}, read item = some value → left item = right value)
    {items : List α} {values : List β} (all : items.mapM read = some values)
    : items.map left = values.map right := by
  induction items generalizing values with
  | nil =>
      cases all
      rfl
  | cons item items hypothesis =>
      rw [List.mapM_cons] at all
      obtain ⟨value, head, all⟩ := Option.bind_eq_some_iff.mp all
      obtain ⟨rest, tail, all⟩ := Option.bind_eq_some_iff.mp all
      cases all
      rw [List.map_cons, List.map_cons, each head, hypothesis tail]

theorem text?_eq_some {document : Toml} {value : String} (read : document.text? = some value)
    : document = .string value := by
  unfold Toml.text? at read
  split at read
  · rw [Option.some.inj read]
  · cases read

theorem truth?_eq_some {document : Toml} {value : Bool} (read : document.truth? = some value)
    : document = .truth value := by
  unfold Toml.truth? at read
  split at read
  · rw [Option.some.inj read]
  · cases read

theorem unsigned?_eq_some {document : Toml} {value : Nat}
    (read : document.unsigned? = some value)
    : document = .integer value := by
  unfold Toml.unsigned? at read
  split at read
  · next number =>
      split at read
      · next fits =>
          have natural : 0 ≤ number := by
            unfold Decimal.fitsUnsigned64 at fits
            grind
          rw [← Option.some.inj read, Int.toNat_of_nonneg natural]
      · cases read
  · cases read

theorem array_of_items?_eq_some {document : Toml} {items : List Toml}
    (read : document.items? = some items)
    : document = .array items := by
  unfold Toml.items? at read
  split at read
  · rw [Option.some.inj read]
  · cases read

theorem texts?_eq_some {document : Toml} {values : List String}
    (read : Toml.settingsSource.texts? document = some values)
    : document = .array (values.map .string) := by
  obtain ⟨items, array, all⟩ := Option.bind_eq_some_iff.mp read
  have written : items.map id = values.map .string :=
    map_eq_of_mapM_eq_some text?_eq_some all
  rw [array_of_items?_eq_some array, ← written, List.map_id]

theorem choice?_of_affordance?_eq_some {document : Toml} {kind : Affordance}
    (read : Toml.settingsSource.affordance? document = some kind)
    : document.choice? = some kind.name := by
  obtain ⟨text, choice, named⟩ := Option.bind_eq_some_iff.mp read
  unfold Affordance.ofExactName? at named
  have same := List.find?_some named
  rw [choice, of_decide_eq_true same]

theorem affordances?_eq_some {document : Toml} {values : List Affordance}
    (read : Toml.settingsSource.affordances? document = some values)
    : (Value.affordances values).IsWritten document := by
  obtain ⟨items, array, all⟩ := Option.bind_eq_some_iff.mp read
  exact
    ⟨ items, array_of_items?_eq_some array
    , map_eq_of_mapM_eq_some choice?_of_affordance?_eq_some all ⟩

-----------------------------------------------------------------------------------------
-- Sections that are read
-----------------------------------------------------------------------------------------

/-- A field of a record is read, if every writing that its reader takes is one of its value. -/
theorem Value.overlays_of_overlay {α : Type} {read : Toml → Option α} {value : α → Value}
    (reads : ∀ {document a}, read document = some a → (value a).IsWritten document)
    {default a : α} {given : Option Toml} (overlaid : overlay read default given = some a)
    : (value a).Overlays (value default) given := by
  cases given with
  | none =>
      cases overlaid
      rfl
  | some document => exact reads overlaid

/-- A field of a section that need not be there. -/
theorem Value.overlays_of_section {α : Type} {read : Toml → Option α} {default a : α}
    {given : Option Toml} (overlaid : overlay read default given = some a) (value : α → Value)
    {inner : Toml → Option Toml}
    (overlays
      : ∀ {document},
          read document = some a → (value a).Overlays (value default) (inner document))
    : (value a).Overlays (value default) (given.bind inner) := by
  cases given with
  | none =>
      cases overlaid
      rfl
  | some document => exact overlays overlaid

theorem storage?_overlays {default settings : StorageSettings} {document : Toml}
    (read : Toml.settingsSource.storage? default document = some settings)
    : (Value.text settings.backend).Overlays (.text default.backend)
          (document.field? "backend" 0)
      ∧ (Value.text settings.path).Overlays (.text default.path)
          (document.field? "path" 1) := by
  obtain ⟨fields, given, read⟩ := Option.bind_eq_some_iff.mp read
  cases Toml.fields?_eq_some given
  obtain ⟨backend, first, read⟩ := Option.bind_eq_some_iff.mp read
  obtain ⟨path, second, read⟩ := Option.bind_eq_some_iff.mp read
  cases read
  exact
    ⟨ Value.overlays_of_overlay text?_eq_some first
    , Value.overlays_of_overlay text?_eq_some second ⟩

theorem history?_overlays {settings : HistorySettings} {document : Toml}
    (read : Toml.settingsSource.history? document = some settings)
    : (Value.count settings.cursorLifespan).Overlays
          (.count ({} : HistorySettings).cursorLifespan)
          (document.field? "cursor_lifespan_secs" 0)
      ∧ (Value.count settings.sweepInterval).Overlays
          (.count ({} : HistorySettings).sweepInterval)
          (document.field? "sweep_interval_secs" 1)
      ∧ (Value.count settings.defaultLimit).Overlays
          (.count ({} : HistorySettings).defaultLimit)
          (document.field? "default_limit" 2) := by
  obtain ⟨fields, given, read⟩ := Option.bind_eq_some_iff.mp read
  cases Toml.fields?_eq_some given
  obtain ⟨lifespan, first, read⟩ := Option.bind_eq_some_iff.mp read
  obtain ⟨interval, second, read⟩ := Option.bind_eq_some_iff.mp read
  obtain ⟨limit, third, read⟩ := Option.bind_eq_some_iff.mp read
  cases read
  exact
    ⟨ Value.overlays_of_overlay unsigned?_eq_some first
    , Value.overlays_of_overlay unsigned?_eq_some second
    , Value.overlays_of_overlay unsigned?_eq_some third ⟩

theorem recorder?_overlays {settings : RecorderSettings} {document : Toml}
    (read : Toml.settingsSource.recorder? document = some settings)
    : (Value.count settings.queueCapacity).Overlays
          (.count ({} : RecorderSettings).queueCapacity)
          (document.field? "queue_capacity" 0)
      ∧ (Value.count settings.workers).Overlays
          (.count ({} : RecorderSettings).workers)
          (document.field? "workers" 1) := by
  obtain ⟨fields, given, read⟩ := Option.bind_eq_some_iff.mp read
  cases Toml.fields?_eq_some given
  obtain ⟨capacity, first, read⟩ := Option.bind_eq_some_iff.mp read
  obtain ⟨workers, second, read⟩ := Option.bind_eq_some_iff.mp read
  cases read
  exact
    ⟨ Value.overlays_of_overlay unsigned?_eq_some first
    , Value.overlays_of_overlay unsigned?_eq_some second ⟩

/-- A table of conditions is read over the filter that lets everything pass. -/
theorem filter?_overlays {filter : Filter} {document : Toml}
    (read : Toml.settingsSource.filter? document = some filter) (field : FilterField)
    : (field.value filter).Overlays (field.value {}) (field.given? document) := by
  obtain ⟨fields, given, read⟩ := Option.bind_eq_some_iff.mp read
  cases Toml.fields?_eq_some given
  obtain ⟨enabled, first, read⟩ := Option.bind_eq_some_iff.mp read
  obtain ⟨includeThings, second, read⟩ := Option.bind_eq_some_iff.mp read
  obtain ⟨excludeThings, third, read⟩ := Option.bind_eq_some_iff.mp read
  obtain ⟨includeNames, fourth, read⟩ := Option.bind_eq_some_iff.mp read
  obtain ⟨excludeNames, fifth, read⟩ := Option.bind_eq_some_iff.mp read
  obtain ⟨affordances, sixth, read⟩ := Option.bind_eq_some_iff.mp read
  cases read
  cases field with
  | enabled => exact Value.overlays_of_overlay truth?_eq_some first
  | includeThings => exact Value.overlays_of_overlay texts?_eq_some second
  | excludeThings => exact Value.overlays_of_overlay texts?_eq_some third
  | includeNames => exact Value.overlays_of_overlay texts?_eq_some fourth
  | excludeNames => exact Value.overlays_of_overlay texts?_eq_some fifth
  | affordances => exact Value.overlays_of_overlay affordances?_eq_some sixth

/-- A filter is read from its conditions, or the default one where there are none. -/
theorem filter_overlays {default filter : Filter} {given : Option Toml}
    (overlaid : overlay Toml.settingsSource.filter? default given = some filter)
    (field : FilterField)
    : (field.value filter).Overlays
        (if given.isSome then field.value {} else field.value default)
        (given.bind field.given?) := by
  cases given with
  | none =>
      cases overlaid
      rfl
  | some document => exact filter?_overlays overlaid field

theorem filters?_overlays {filters : Filters} {document : Toml}
    (read : Toml.settingsSource.filters? document = some filters) (kind : MessageKind)
    : overlay Toml.settingsSource.filter? (({} : Filters).ofKind kind)
        (Field.conditions? kind document) = some (filters.ofKind kind) := by
  obtain ⟨fields, given, read⟩ := Option.bind_eq_some_iff.mp read
  cases Toml.fields?_eq_some given
  obtain ⟨notifications, first, read⟩ := Option.bind_eq_some_iff.mp read
  obtain ⟨requests, second, read⟩ := Option.bind_eq_some_iff.mp read
  cases read
  cases kind with
  | notification => exact first
  | request => exact second

theorem filters_overlays {filters : Filters} {given : Option Toml}
    (overlaid : overlay Toml.settingsSource.filters? {} given = some filters)
    (kind : MessageKind)
    : overlay Toml.settingsSource.filter? (({} : Filters).ofKind kind)
        (given.bind (Field.conditions? kind)) = some (filters.ofKind kind) := by
  cases given with
  | none =>
      cases overlaid
      rfl
  | some document => exact filters?_overlays overlaid kind

-----------------------------------------------------------------------------------------
-- Files that are read
-----------------------------------------------------------------------------------------

theorem settings?_overlays {path : String} {settings : Settings} {document : Toml}
    (read : Toml.settingsSource.settings? (default path) document = some settings)
    (field : Field)
    : (field.value settings).Overlays (field.fallback (default path) document)
        (field.given? document) := by
  obtain ⟨fields, given, read⟩ := Option.bind_eq_some_iff.mp read
  cases Toml.fields?_eq_some given
  obtain ⟨storage, first, read⟩ := Option.bind_eq_some_iff.mp read
  obtain ⟨history, second, read⟩ := Option.bind_eq_some_iff.mp read
  obtain ⟨recorder, third, read⟩ := Option.bind_eq_some_iff.mp read
  obtain ⟨filters, fourth, read⟩ := Option.bind_eq_some_iff.mp read
  cases read
  cases field with
  | backend =>
      exact Value.overlays_of_section first (fun storage => .text storage.backend) fun read =>
        (storage?_overlays read).1
  | path =>
      exact Value.overlays_of_section first (fun storage => .text storage.path) fun read =>
        (storage?_overlays read).2
  | cursorLifespan =>
      exact Value.overlays_of_section second (fun history => .count history.cursorLifespan)
        fun read => (history?_overlays read).1
  | sweepInterval =>
      exact Value.overlays_of_section second (fun history => .count history.sweepInterval)
        fun read => (history?_overlays read).2.1
  | defaultLimit =>
      exact Value.overlays_of_section second (fun history => .count history.defaultLimit)
        fun read => (history?_overlays read).2.2
  | queueCapacity =>
      exact Value.overlays_of_section third (fun recorder => .count recorder.queueCapacity)
        fun read => (recorder?_overlays read).1
  | workers =>
      exact Value.overlays_of_section third (fun recorder => .count recorder.workers)
        fun read => (recorder?_overlays read).2
  | filter kind field => exact filter_overlays (filters_overlays fourth kind) field

namespace Field

/-- The filter that lets everything pass differs from the default one in a single field. -/
theorem fallback_of_ne {path : String} {document : Toml} {field : Field}
    (other : field ≠ .filter .request .affordances)
    : field.fallback (default path) document = field.value (default path) := by
  cases field with
  | filter kind field =>
      have same : field.value {} = field.value ((default path).filters.ofKind kind) := by
        cases kind with
        | notification => rfl
        | request =>
            cases field with
            | affordances => exact absurd rfl other
            | _ => rfl
      simp only [fallback, same, ite_self]
      rfl
  | _ => rfl

theorem fallback_of_leavesKindsOpen {path : String} {document : Toml}
    (kindsOpen : leavesKindsOpen document)
    : fallback (default path) document (.filter .request .affordances) = .affordances [] := by
  unfold leavesKindsOpen at kindsOpen
  exact if_pos (Bool.and_eq_true_iff.mp kindsOpen).1

theorem fallback_of_not_leavesKindsOpen {path : String} {document : Toml}
    (missing : given? (.filter .request .affordances) document = none)
    (settled : ¬leavesKindsOpen document)
    : fallback (default path) document (.filter .request .affordances)
        = .affordances [.action] := by
  unfold leavesKindsOpen at settled
  rw [missing, Option.isNone_none, Bool.and_true] at settled
  exact if_neg settled

/-- Only the kinds of requests that are recorded have a value to fall back to that need not be the
default.
-/
theorem fallback_eq_iff {path : String} {document : Toml} {field : Field}
    (missing : field.given? document = none)
    : field.fallback (default path) document = field.value (default path)
      ↔ ¬(field = .filter .request .affordances ∧ leavesKindsOpen document) := by
  by_cases special : field = .filter .request .affordances
  · subst special
    by_cases kindsOpen : leavesKindsOpen document
    · rw [fallback_of_leavesKindsOpen kindsOpen]
      simp [kindsOpen, value, FilterField.value, default, Filters.ofKind, Filter.actionsOnly]
    · rw [fallback_of_not_leavesKindsOpen missing kindsOpen]
      simp [kindsOpen, value, FilterField.value, default, Filters.ofKind, Filter.actionsOnly]
  · simp [special, fallback_of_ne special]

end Field

/-- What a settings file gives of the settings is what they hold, and what it leaves out is what the
defaults hold, except for the kinds of requests that are recorded: where the file gives conditions
on requests and not their kinds, all kinds are recorded, and not actions alone. Witness: each reader
of a record overlays its own fields, from the parts up to the whole document.
-/
theorem file_overlays_defaults {path : String} {content : Bytes} {settings : Settings}
    (loaded : ofFile (default path) (some content) = .ok settings)
    : ∃ text document,
        Bytes.toString? content = some text
        ∧ Toml.read? text.toList = some document
        ∧ (∀ {field given},
            Field.given? field document = some given
            → (field.value settings).IsWritten given)
        ∧ (∀ {field},
            Field.given? field document = none
            → (field.value settings = field.value (default path)
              ↔ ¬(field = .filter .request .affordances ∧ Field.leavesKindsOpen document)))
        ∧ (Field.leavesKindsOpen document → settings.filters.requests.affordances = []) := by
  unfold ofFile at loaded
  split at loaded
  · cases loaded
  · next text spelled =>
      split at loaded
      · cases loaded
      · next read =>
          cases loaded
          obtain ⟨document, parsed, read⟩ := Option.bind_eq_some_iff.mp read
          have overlays := settings?_overlays read
          refine ⟨text, document, spelled, parsed, ?_, ?_, ?_⟩
          · intro field given present
            have overlaid := overlays field
            rwa [present] at overlaid
          · intro field missing
            have overlaid := overlays field
            rw [missing] at overlaid
            rw [overlaid, Field.fallback_eq_iff missing]
          · intro kindsOpen
            have missing : Field.given? (.filter .request .affordances) document = none :=
              Option.isNone_iff_eq_none.mp (Bool.and_eq_true_iff.mp kindsOpen).2
            have overlaid := overlays (.filter .request .affordances)
            rw [missing, Field.fallback_of_leavesKindsOpen kindsOpen] at overlaid
            exact Value.affordances.inj overlaid

/-- A lamp's settings file: it says that requests are recorded, and not which kinds. -/
def fileOfLamp : String :=
  "[filters.requests]\nenabled = true\n"

/-- A lamp's requests of all kinds are recorded, where the defaults record its actions alone. -/
theorem lamp_requests_of_all_kinds
    : ∃ settings,
        ofFile (default "lamp.db") (some (Bytes.ofString fileOfLamp)) = .ok settings
        ∧ settings.filters.requests.affordances = []
        ∧ (default "lamp.db").filters.requests.affordances = [.action] := by
  have read
      : (Toml.read? fileOfLamp.toList).bind
            (Toml.settingsSource.settings? (default "lamp.db"))
          = some { default "lamp.db" with filters := { requests := {} } } := by
    decide +kernel
  have loaded
      : ofFile (default "lamp.db") (some (Bytes.ofString fileOfLamp))
          = .ok { default "lamp.db" with filters := { requests := {} } } := by
    simp only [ofFile, Option.bind_some, Bytes.toString?_ofString, read]
  have kindsOpen
      : (Toml.read? fileOfLamp.toList).map Field.leavesKindsOpen = some true := by
    decide +kernel
  obtain ⟨text, document, spelled, parsed, -, -, allKinds⟩ := file_overlays_defaults loaded
  cases (Bytes.toString?_ofString fileOfLamp).symm.trans spelled
  rw [parsed] at kindsOpen
  exact ⟨_, loaded, allKinds (Option.some.inj kindsOpen), rfl⟩

end Settings

end ValueHistory
