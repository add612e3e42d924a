import ValueHistory.CommandLine.Run
import ValueHistory.Proofs.Service.Deadlines
import ValueHistory.Service.Sweeper

/-! What settings that pass the check are good for. Each value lies within the limits of what it is
handed to, and is used there as it is: the store is known, the limit of pages, the lifespan of
cursors, the period of sweeps and the number of workers suit. Only the queue of the recorder is
bounded on one side: it may be given more places than a queue can have, and then the service breaks
off at its start.
-/

namespace ValueHistory

-----------------------------------------------------------------------------------------
-- What the check lets pass
-----------------------------------------------------------------------------------------

theorem StorageSettings.errors_eq_nil_iff {settings : StorageSettings}
    : settings.errors = []
      ↔ ∃ backend,
          Backend.ofName settings.backend = .ok backend
          ∧ (backend = .sqlite → settings.path ≠ "") := by
  rw [errors]
  cases Backend.ofName settings.backend with
  | error failure => simp
  | ok backend => cases backend <;> simp

theorem HistorySettings.intervalErrors_eq_nil_iff {field : String} {seconds : Nat}
    : intervalErrors field seconds = [] ↔ 1 ≤ seconds ∧ seconds ≤ maxInterval := by
  rw [intervalErrors]
  split
  · next short => exact iff_of_false (List.cons_ne_nil _ _) (by omega)
  · next long =>
      split
      · next long => exact iff_of_false (List.cons_ne_nil _ _) (by omega)
      · exact iff_of_true rfl (by omega)

/-- There is no error exactly if a value is positive and at most the greatest. -/
theorem SettingError.outside_eq_nil_iff {value most : Nat} {error : SettingError}
    : (if value = 0 || most < value then [error] else []) = [] ↔ 1 ≤ value ∧ value ≤ most := by
  split
  · next outside =>
      simp only [Bool.or_eq_true, decide_eq_true_eq] at outside
      exact iff_of_false (List.cons_ne_nil _ _) (by omega)
  · next inside =>
      simp only [Bool.or_eq_true, decide_eq_true_eq] at inside
      exact iff_of_true rfl (by omega)

theorem HistorySettings.errors_eq_nil_iff {settings : HistorySettings}
    : settings.errors = []
      ↔ (1 ≤ settings.cursorLifespan ∧ settings.cursorLifespan ≤ maxInterval)
        ∧ (1 ≤ settings.sweepInterval ∧ settings.sweepInterval ≤ maxInterval)
        ∧ 1 ≤ settings.defaultLimit
        ∧ settings.defaultLimit ≤ maxDefaultLimit := by
  rw [errors, List.append_eq_nil_iff, List.append_eq_nil_iff, intervalErrors_eq_nil_iff,
    intervalErrors_eq_nil_iff, SettingError.outside_eq_nil_iff, and_assoc]

theorem RecorderSettings.errors_eq_nil_iff {settings : RecorderSettings}
    : settings.errors = []
      ↔ 1 ≤ settings.queueCapacity ∧ 1 ≤ settings.workers ∧ settings.workers ≤ maxWorkers := by
  rw [errors, List.append_eq_nil_iff, SettingError.outside_eq_nil_iff, ite_eq_right_iff]
  simp only [List.cons_ne_nil, imp_false, Nat.one_le_iff_ne_zero]

/-- Settings pass the check if nothing is wrong with any section. -/
theorem Settings.check_eq_ok_iff {settings : Settings}
    : settings.check = .ok ()
      ↔ settings.storage.errors = []
        ∧ settings.history.errors = []
        ∧ settings.recorder.errors = []
        ∧ settings.filters.errors = [] := by
  simp only [check, errors, List.isEmpty_iff, List.append_eq_nil_iff, and_assoc]
  split <;> simp [*]

-----------------------------------------------------------------------------------------
-- What settings are handed to
-----------------------------------------------------------------------------------------

/-- A recorder has the places and workers that it is given, if it can have so many places. -/
theorem Recorder.start?_eq (filters : Filters) {settings : RecorderSettings}
    (right : settings.errors = [])
    : start? filters settings
      = if settings.queueCapacity ≤ maxPlaces then
          some
            { filters, capacity := settings.queueCapacity
              workers := List.replicate settings.workers none }
        else none := by
  obtain ⟨places, workers, _⟩ := RecorderSettings.errors_eq_nil_iff.mp right
  rw [start?, start, Nat.max_eq_right places, Nat.max_eq_right workers]

/-- A sweeper with time between its sweeps starts. -/
theorem Sweeper.start?_eq_some {period : Nat} (positive : 0 < period)
    : start? period = some ⟨period, positive⟩ :=
  dif_pos positive

/-- The service breaks off exactly if its recorder cannot be started. -/
theorem Command.serve_aborts_iff {σ : Type} (surroundings : Surroundings (StateM σ))
    (settings : Settings) (history : History) (state : σ)
    : ((Command.serve.run surroundings settings history).run state).1.1.problem = some .aborted
      ↔ Recorder.start? settings.filters settings.recorder = none := by
  rw [Command.run]
  cases Recorder.start? settings.filters settings.recorder with
  | none => exact iff_of_true rfl rfl
  | some recorder =>
      refine iff_of_false (fun aborts => ?_) (fun none => nomatch none)
      have ended
          : (if ((surroundings.serve { history, recorder }).run state).1.2.1 then none
              else some Problem.input)
            = some .aborted :=
        aborts
      split at ended <;> cases ended

namespace Settings

variable {settings : Settings}

/-- The store that is opened is of the kind that the settings name. -/
theorem backend_of_openStore {σ : Type} {surroundings : Surroundings (StateM σ)} {state : σ}
    {store : Store} {backend : Backend}
    (known : Backend.ofName settings.storage.backend = .ok backend)
    (opened : ((settings.openStore surroundings).run state).1 = .ok store)
    : store.backend = backend := by
  rw [openStore, known] at opened
  cases backend with
  | memory =>
      cases opened
      rfl
  | sqlite =>
      simp only [StateT.run_bind] at opened
      generalize (surroundings.openDatabase settings.storage.path).run state = found at opened
      obtain ⟨answer, state⟩ := found
      cases answer with
      | error failure => cases opened
      | ok database =>
          -- what is left of the database is kept either way, and does not decide the answer
          have ends
              : database.upgrade.1.map (fun _ => Store.inDatabase database.upgrade.2)
                = .ok store := opened
          cases upgraded : database.upgrade.1 with
          | error failure =>
              rw [upgraded] at ends
              cases ends
          | ok done =>
              rw [upgraded] at ends
              cases ends
              rfl

/-- A history takes the limit of its pages as it is given, and begins without leases. -/
theorem historyOver_eq (right : settings.history.errors = []) (store : Store)
    (keys : Nat → String)
    : settings.historyOver store keys
      = { store, keys, lifespan := settings.history.lifespan
          defaultLimit := settings.history.defaultLimit } := by
  obtain ⟨_, _, positive, _⟩ := HistorySettings.errors_eq_nil_iff.mp right
  rw [historyOver, History.withDefaultLimit, Nat.max_eq_right positive]
  rfl

/-- What settings are handed to, but for the recorder, takes them as they are: the store is of the
kind that they name, pages have the limit and sweeps the period that is set. And where every reading
of the clock leaves an hour to a last one, no deadline of a lease lies beyond this one.
-/
structure AreTaken (settings : Settings) : Prop where
  backend
    : ∃ backend,
        Backend.ofName settings.storage.backend = .ok backend
        ∧ ∀ (σ : Type) (surroundings : Surroundings (StateM σ)) (state : σ) store,
            ((settings.openStore surroundings).run state).1 = .ok store → store.backend = backend
  limit
    : ∀ store keys,
        (settings.historyOver store keys).defaultLimit = settings.history.defaultLimit
  sweeper
    : ∃ sweeper,
        Sweeper.start? settings.history.sweepPeriod = some sweeper
        ∧ sweeper.period = settings.history.sweepInterval * 1000000000
  deadlines
    : ∀ store keys last run,
        (∀ timed ∈ run, timed.1.ticks + 3600 * 1000000000 ≤ last)
        → ((settings.historyOver store keys).afterAll run).OverBy last
          ∧ ((settings.historyOver store keys).afterAll run).lifespan
            = settings.history.cursorLifespan * 1000000000

theorem areTaken_of_check (checked : settings.check = .ok ()) : settings.AreTaken := by
  obtain ⟨storage, history, _, _⟩ := check_eq_ok_iff.mp checked
  obtain ⟨lifespan, ⟨interval, _⟩, _⟩ := HistorySettings.errors_eq_nil_iff.mp history
  refine ⟨?_, fun store keys => by rw [historyOver_eq history], ?_, ?_⟩
  · obtain ⟨backend, known, _⟩ := StorageSettings.errors_eq_nil_iff.mp storage
    exact ⟨backend, known, fun _ _ _ _ opened => backend_of_openStore known opened⟩
  · have positive : 0 < settings.history.sweepPeriod := Nat.mul_pos interval (by decide)
    exact ⟨_, Sweeper.start?_eq_some positive, rfl⟩
  · intro store keys last run within
    rw [historyOver_eq history]
    refine History.OverBy.afterAll (Registry.overBy_empty _ _) fun timed member => ?_
    have room := within timed member
    have short : settings.history.lifespan ≤ 3600 * 1000000000 :=
      Nat.mul_le_mul_right _ lifespan.2
    exact Nat.le_trans (Nat.add_le_add_left short _) room

/-- Settings that pass the check can be served, but for a queue of more places than a queue can
have. All that they are handed to takes them as they are, and the recorder starts with exactly the
places and workers that are set if the places are at most an eighth of the numbers of 64 bits; if
there are more, it does not start at all, and the service breaks off. Witness: checked settings are
taken as they are, and the start fails exactly if the places are too many.
-/
theorem checked_settings_served_iff (checked : settings.check = .ok ())
    : settings.AreTaken
      ∧ (settings.recorder.queueCapacity ≤ Recorder.maxPlaces
        ↔ Recorder.start? settings.filters settings.recorder
          = some
              { filters := settings.filters, capacity := settings.recorder.queueCapacity
                workers := List.replicate settings.recorder.workers none })
      ∧ (Recorder.maxPlaces < settings.recorder.queueCapacity
        ↔ Recorder.start? settings.filters settings.recorder = none)
      ∧ ∀ (σ : Type) (surroundings : Surroundings (StateM σ)) (history : History) (state : σ),
          ((Command.serve.run surroundings settings history).run state).1.1.problem
            = some .aborted
          ↔ Recorder.maxPlaces < settings.recorder.queueCapacity := by
  obtain ⟨_, _, recorder, _⟩ := check_eq_ok_iff.mp checked
  have started := Recorder.start?_eq settings.filters recorder
  refine ⟨areTaken_of_check checked, ?_, ?_, ?_⟩
  · rw [started]
    simp
  · rw [started]
    simp
  · intro σ surroundings history state
    rw [Command.serve_aborts_iff, started]
    simp

/-- The settings of a store in memory and a queue with a number of places for a single worker. -/
def ofPlaces (places : Nat) : Settings :=
  { storage := { backend := "memory", path := "" }
    recorder := { queueCapacity := places, workers := 1 } }

/-- A queue with one place more than a queue can have passes the check, and the service that is
given it breaks off; with one place less it starts.
-/
theorem place_too_many_not_served
    : (ofPlaces (Recorder.maxPlaces + 1)).check = .ok ()
      ∧ (ofPlaces (Recorder.maxPlaces + 1)).AreTaken
      ∧ Recorder.start? (ofPlaces 0).filters (ofPlaces (Recorder.maxPlaces + 1)).recorder = none
      ∧ (ofPlaces Recorder.maxPlaces).check = .ok ()
      ∧ Recorder.start? (ofPlaces 0).filters (ofPlaces Recorder.maxPlaces).recorder
        = some
            { filters := (ofPlaces 0).filters, capacity := 2305843009213693951
              workers := [none] } := by
  have tooMany : (ofPlaces (Recorder.maxPlaces + 1)).check = .ok () := rfl
  have most : (ofPlaces Recorder.maxPlaces).check = .ok () := rfl
  obtain ⟨taken, _, breaksOff, _⟩ := checked_settings_served_iff tooMany
  obtain ⟨_, starts, _⟩ := checked_settings_served_iff most
  exact ⟨tooMany, taken, breaksOff.mp (Nat.lt_succ_self _), most, starts.mp (Nat.le_refl _)⟩

end Settings

end ValueHistory
