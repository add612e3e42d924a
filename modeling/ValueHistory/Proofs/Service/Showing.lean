import ValueHistory.Proofs.Cursor.Evidence
import ValueHistory.Proofs.Service.Events
import ValueHistory.Proofs.Wire.RoundTrip

/-! Responses over recorded entries. Whatever a request shows of them has a notation, also where
entries are added in the course of it, so that every response can be written. No request changes
which entries there are.
-/

namespace ValueHistory

-----------------------------------------------------------------------------------------
-- Recorded entries are shown with a notation
-----------------------------------------------------------------------------------------

/-- What a recorded entry reads back as has a time in universal time from 1970 on. -/
theorem Entry.IsRecorded.hasNotation {thing own : String} {entry : Entry} {value : Observation}
    (recorded : entry.IsRecorded own) (decoded : Entry.decode thing entry = .ok (some value))
    : value.HasNotation := by
  obtain ⟨_, written, _, parsed, _⟩ := recorded.exists_millis
  obtain ⟨_, _, _, _, time, known, read⟩ := Entry.decode_of_parse? parsed decoded
  rintro _ same
  cases known.symm.trans same
  obtain ⟨nanos, universal⟩ := Timestamp.nanos_of_ofMillis? read
  dsimp only at nanos
  exact Rfc3339.hasNotation_of_nonneg (by omega) universal

/-- A look-up that answers with recorded entries of a Thing. -/
abbrev Lookup.Recorded (lookup : Lookup) (thing : String) : Prop :=
  lookup.Answers fun entry => entry.IsRecorded thing

theorem Bucket.Recorded.lookup {bucket : Bucket} {thing : String}
    (recorded : bucket.Recorded thing)
    : (Lookup.ofBucket bucket).Recorded thing := by
  have answers := Lookup.answers_ofBucket bucket
  constructor
  · exact fun found => recorded _ (answers.ceiling found)
  · exact fun found => recorded _ (answers.floor found)

/-- A view that shows recorded entries of a Thing where it stands for recorded ones. -/
structure View.Recorded (view : View) : Prop where
  first : ∀ {thing lookup}, lookup.Recorded thing → (view.first thing lookup).Recorded thing
  second : ∀ {thing lookup}, lookup.Recorded thing → (view.second thing lookup).Recorded thing

section

variable {lookup later : Lookup} {own : String}

/-- Whatever a cursor shows of recorded entries has a notation. -/
theorem Cursor.hasNotation_of_read (cursor : Cursor) (recorded : lookup.Recorded own)
    (reading : Reading) {value : Observation} (shown : value ∈ (cursor.read lookup reading).1)
    : value.HasNotation := by
  obtain ⟨borneOut, _⟩ := cursor.read_borneOut recorded reading shown
  obtain ⟨entry, known, decoded⟩ := borneOut.decoded
  exact known.hasNotation decoded

/-- The values in the response to the use of a cursor. -/
theorem CursorCall.hasNotation_of_use (cursor : Cursor) (recorded : lookup.Recorded own)
    (moment : Moment) (default : Nat) (call : CursorCall)
    : ∀ value ∈ (call.use moment default cursor lookup).1.values, value.HasNotation := by
  intro value shown
  cases call with
  | first => exact cursor.hasNotation_of_read recorded (.first moment.now) shown
  | last => exact cursor.hasNotation_of_read recorded .last shown
  | next => exact cursor.hasNotation_of_read recorded (.next moment.now) shown
  | prev => exact cursor.hasNotation_of_read recorded .prev shown
  | seek time => exact cursor.hasNotation_of_read recorded (.seek moment.now time) shown
  | page direction bound limit =>
      exact cursor.hasNotation_of_read recorded
        (.page direction ⟨bound, effectiveLimit limit default⟩) shown
  | release => cases shown

theorem Cursor.hasNotation_of_readRange (cursor : Cursor) (recorded : lookup.Recorded own)
    (recordedLater : later.Recorded own) (now start bound : Timestamp) (direction : Direction)
    (limit : Nat)
    : ∀ value ∈ (cursor.readRange lookup now start bound direction limit later).values,
        value.HasNotation := by
  intro value shown
  rcases List.mem_append.mp shown with hit | following
  · exact cursor.hasNotation_of_read recorded (.seek now start) hit
  · exact Cursor.hasNotation_of_read _ recordedLater (.page direction ⟨bound, limit⟩) following

end

-----------------------------------------------------------------------------------------
-- Histories of recorded entries
-----------------------------------------------------------------------------------------

theorem Except.map_eq_ok {ε α β : Type} {f : α → β} {result : Except ε α} {value : β}
    (mapped : result.map f = .ok value)
    : ∃ held, result = .ok held ∧ f held = value := by
  cases result with
  | error failure => cases mapped
  | ok held => exact ⟨held, rfl, Except.ok.inj mapped⟩

namespace History

/-- A history all of whose entries were recorded. -/
def Recorded (history : History) : Prop :=
  ∀ thing, (history.store.bucket thing).Recorded thing

variable {history : History} {view : View}

/-- Only a working store is looked up. -/
theorem works_of_lookup {store : Store} {thing : String} {lookup : Lookup}
    (found : store.lookup thing = .ok lookup)
    : store.Works := by
  cases store with
  | inMemory memory => trivial
  | inDatabase database =>
      cases present : database.tables with
      | some tables => exact Option.isSome_iff_exists.mpr ⟨tables, present⟩
      | none =>
          simp [Store.lookup, Store.withTables, Database.tables?, present, Except.bind] at found

/-- A store that is looked up answers from its bucket. -/
theorem lookup_eq_ok {store : Store} {thing : String} {lookup : Lookup}
    (found : store.lookup thing = .ok lookup)
    : lookup = .ofBucket (store.bucket thing) :=
  Except.ok.inj (found.symm.trans (Store.lookup_of_works (works_of_lookup found) thing))

/-- What is opened holds what it held. -/
theorem Recorded.of_openBucket (recorded : history.Recorded) {thing : String} {opened : Store}
    (opens : history.store.openBucket thing = .ok opened)
    : Recorded { history with store := opened } := by
  obtain ⟨_, same, _, contents⟩ :=
    Store.openBucket_of_works (Store.works_of_openBucket opens) thing
  cases opens.symm.trans same
  intro other
  rw [contents]
  exact recorded other

/-- An addition to a store that works leaves recorded entries, and one to another store fails. -/
theorem Recorded.add (recorded : history.Recorded) (moment : Moment) (value : Observation)
    : (history.add moment value).2.Recorded := by
  by_cases works : history.store.Works
  · exact fun thing => recorded_add works (recorded thing) moment value
  · simp only [History.add, put, opening]
    split
    · exact recorded
    · split
      · exact recorded
      · split
        · exact recorded
        · next opens => exact absurd (Store.works_of_openBucket opens) works

theorem exists_withCursor {α : Type} (history : History) (moment : Moment)
    (client key : String) (use : Cursor → Lookup → α × Cursor) (view : View)
    : ∃ registry,
        (history.withCursor moment client key use view).2 = { history with registry } := by
  unfold withCursor
  rcases history.registry.get client key true moment.ticks with ⟨failure | lease, registry⟩
  · exact ⟨_, rfl⟩
  · dsimp only
    cases history.store.lookup lease.cursor.selection.thing with
    | error failure => exact ⟨_, rfl⟩
    | ok lookup => exact ⟨_, rfl⟩

/-- A request leaves the store as it is, but for a bucket that it may open. -/
theorem store_execute (history : History) (moment : Moment) (client : String)
    (request : Request) (view : View)
    : (history.execute moment client request view).2.store = history.store
      ∨ ∃ thing,
          history.store.openBucket thing
          = .ok (history.execute moment client request view).2.store := by
  cases request with
  | onCursor key call =>
      left
      by_cases uses : call = .release
      · rw [uses]
        rfl
      · obtain ⟨registry, same⟩ :=
          history.exists_withCursor moment client key (call.use moment history.defaultLimit) view
        rw [History.execute, call_eq_withCursor history moment client key uses view, same]
  | create thing name =>
      simp only [History.execute, respond, createCursor, opening]
      split
      · exact .inl rfl
      · next opens => exact .inr ⟨thing, opens⟩
  | read thing name start seconds limit =>
      simp only [History.execute, respond, History.read, opening]
      split
      · exact .inl rfl
      · next opens =>
          right
          split <;> exact ⟨thing, opens⟩

/-- No request changes which entries there are, also where it fails. -/
theorem bucket_execute (history : History) (moment : Moment) (client : String)
    (request : Request) (view : View) (thing : String)
    : (history.execute moment client request view).2.store.bucket thing
      = history.store.bucket thing := by
  rcases history.store_execute moment client request view with same | ⟨other, opens⟩
  · rw [same]
  · obtain ⟨_, again, _, contents⟩ :=
      Store.openBucket_of_works (Store.works_of_openBucket opens) other
    cases opens.symm.trans again
    exact contents thing

/-- A store that works is still working after a request. -/
theorem works_execute (works : history.store.Works) (moment : Moment) (client : String)
    (request : Request) (view : View)
    : (history.execute moment client request view).2.store.Works := by
  rcases history.store_execute moment client request view with same | ⟨other, opens⟩
  · rw [same]
    exact works
  · obtain ⟨_, again, opened, _⟩ := Store.openBucket_of_works works other
    cases opens.symm.trans again
    exact opened

/-- A cursor that is used answers from what is seen of the bucket of its Thing. -/
theorem withCursor_eq_ok {α : Type} {moment : Moment} {client key : String}
    {use : Cursor → Lookup → α × Cursor} {answer : α}
    (answered : (history.withCursor moment client key use view).1 = .ok answer)
    : ∃ (cursor : Cursor) (thing : String),
        (use cursor (view.first thing (.ofBucket (history.store.bucket thing)))).1 = answer := by
  unfold withCursor at answered
  dsimp only at answered
  split at answered
  · cases answered
  · next lease got =>
      split at answered
      · cases answered
      · next lookup found =>
          refine ⟨lease.cursor, lease.cursor.selection.thing, ?_⟩
          rw [← lookup_eq_ok found]
          exact Except.ok.inj answered

/-- A range is read from what is seen of the bucket of its Thing. -/
theorem read_eq_ok {moment : Moment} {thing : String} {name : Option String}
    {start : Timestamp} {seconds limit : Int} {page : Page}
    (answered : (history.read moment thing name start seconds limit view).1 = .ok page)
    : ∃ opened : Store,
        history.store.openBucket thing = .ok opened
        ∧ page
          = (Cursor.opened thing name).readRange
              (view.first thing (.ofBucket (opened.bucket thing))) moment.now start
              (start.addSeconds seconds) (if 0 < seconds then .forward else .backward)
              (effectiveLimit limit history.defaultLimit)
              (view.second thing (.ofBucket (opened.bucket thing))) := by
  simp only [History.read, opening] at answered
  split at answered
  · cases answered
  · next opened opens =>
      split at answered
      · cases answered
      · next lookup found =>
          refine ⟨opened, opens, ?_⟩
          rw [← lookup_eq_ok found]
          exact (Except.ok.inj answered).symm

/-- Every value that a request is answered with has a notation. -/
theorem Recorded.hasNotation_of_execute (recorded : history.Recorded) (shows : view.Recorded)
    {moment : Moment} {client : String} {request : Request} {response : Response}
    (answered : (history.execute moment client request view).1 = .ok response)
    : ∀ value ∈ response.values, value.HasNotation := by
  cases request with
  | onCursor key call =>
      by_cases uses : call = .release
      · subst uses
        simp only [History.execute, History.call, respond] at answered
        obtain ⟨_, _, rfl⟩ := Except.map_eq_ok answered
        exact fun value shown => absurd shown List.not_mem_nil
      · rw [History.execute, call_eq_withCursor history moment client key uses view] at answered
        obtain ⟨cursor, thing, rfl⟩ := withCursor_eq_ok answered
        exact call.hasNotation_of_use cursor (shows.first (recorded _).lookup) moment _
  | create thing name =>
      simp only [History.execute, respond] at answered
      obtain ⟨_, _, rfl⟩ := Except.map_eq_ok answered
      exact fun value shown => absurd shown List.not_mem_nil
  | read thing name start seconds limit =>
      simp only [History.execute, respond] at answered
      obtain ⟨page, read, rfl⟩ := Except.map_eq_ok answered
      obtain ⟨opened, opens, rfl⟩ := read_eq_ok read
      have known := (recorded.of_openBucket opens thing).lookup
      exact Cursor.hasNotation_of_readRange _ (shows.first known) (shows.second known) _ _ _ _ _

/-- Every response to a request has a notation. -/
theorem Recorded.exists_toJson?_dispatch (recorded : history.Recorded) (shows : view.Recorded)
    (moment : Moment) (client : String) (request : Request)
    : ∃ json, (history.dispatch moment client request view).1.toJson? = some json := by
  have shown := @hasNotation_of_execute history view recorded shows moment client request
  unfold dispatch
  generalize history.execute moment client request view = outcome at shown
  rcases outcome with ⟨failure | response, after⟩
  · exact ⟨_, rfl⟩
  · exact Response.exists_toJson? (shown rfl)

theorem dispatch_snd (history : History) (moment : Moment) (client : String)
    (request : Request) (view : View)
    : (history.dispatch moment client request view).2
      = (history.execute moment client request view).2 := by
  unfold dispatch
  rcases history.execute moment client request view with ⟨failure | response, after⟩ <;> rfl

-----------------------------------------------------------------------------------------
-- Views that show the same
-----------------------------------------------------------------------------------------

/-- Views that show the same wherever the store of a history answers. -/
structure Agree (history : History) (view other : View) : Prop where
  first : ∀ {thing lookup},
    history.store.lookup thing = .ok lookup
    → view.first thing lookup = other.first thing lookup
  second : ∀ {thing lookup},
    history.store.lookup thing = .ok lookup
    → view.second thing lookup = other.second thing lookup

variable {other : View}

theorem Agree.withCursor {α : Type} (agree : history.Agree view other) (moment : Moment)
    (client key : String) (use : Cursor → Lookup → α × Cursor)
    : history.withCursor moment client key use view
      = history.withCursor moment client key use other := by
  unfold History.withCursor
  rcases history.registry.get client key true moment.ticks with ⟨failure | lease, registry⟩
  · rfl
  · dsimp only
    cases found : history.store.lookup lease.cursor.selection.thing with
    | error failure => rfl
    | ok lookup => simp only [agree.first found]

/-- What is opened is looked up as before. -/
theorem lookup_of_openBucket {thing : String} {opened : Store} {lookup : Lookup}
    (opens : history.store.openBucket thing = .ok opened) (found : opened.lookup thing = .ok lookup)
    : history.store.lookup thing = .ok lookup := by
  have works := Store.works_of_openBucket opens
  obtain ⟨_, again, openedWorks, contents⟩ := Store.openBucket_of_works works thing
  cases opens.symm.trans again
  rw [Store.lookup_of_works openedWorks, contents] at found
  rw [Store.lookup_of_works works, found]

theorem Agree.read (agree : history.Agree view other) (moment : Moment) (thing : String)
    (name : Option String) (start : Timestamp) (seconds limit : Int)
    : history.read moment thing name start seconds limit view
      = history.read moment thing name start seconds limit other := by
  unfold History.read opening
  cases opens : history.store.openBucket thing with
  | error failure => rfl
  | ok opened =>
      dsimp only
      cases found : opened.lookup thing with
      | error failure => rfl
      | ok lookup =>
          have before := lookup_of_openBucket opens found
          dsimp only
          rw [agree.first before, agree.second before]

/-- A request is answered alike through views that show the same, and leaves the same. -/
theorem Agree.dispatch (agree : history.Agree view other) (moment : Moment) (client : String)
    (request : Request)
    : history.dispatch moment client request view
      = history.dispatch moment client request other := by
  have same
      : history.execute moment client request view
        = history.execute moment client request other := by
    cases request with
    | create thing name => rfl
    | read thing name start seconds limit =>
        simp only [History.execute, agree.read moment thing name start seconds limit]
    | onCursor key call =>
        by_cases uses : call = .release
        · rw [uses]
          rfl
        · rw [History.execute, History.execute,
            call_eq_withCursor history moment client key uses view,
            call_eq_withCursor history moment client key uses other, agree.withCursor]
  rw [History.dispatch, History.dispatch, same]

end History

end ValueHistory
