import ValueHistory.Proofs.Service.Shutdown

/-! What a recorder leaves in the store when its messages tell their times. If no two queued values
are in one slot of a Thing, the order in which the workers store them does not matter: every Thing
has the entries of its valid ones. A single worker stores the values in the order of the messages.
-/

namespace ValueHistory

-----------------------------------------------------------------------------------------
-- Values that tell their times
-----------------------------------------------------------------------------------------

section

variable {value : Observation}

/-- It does not matter when a value that tells its time is checked. -/
theorem Observation.check_of_timed (timed : value.time.isSome = true) (now other : Timestamp)
    : value.check now = value.check other := by
  obtain ⟨time, told⟩ := Option.isSome_iff_exists.mp timed
  rw [check, check, told, Option.getD_some, Option.getD_some]

/-- A value that tells its time is accepted as it is. -/
theorem Observation.eq_of_check {now : Timestamp} {valid : Observation}
    (timed : value.time.isSome = true) (checked : value.check now = .ok valid)
    : valid = value := by
  obtain ⟨same, _⟩ := check_eq_ok checked
  obtain ⟨time, told⟩ := Option.isSome_iff_exists.mp timed
  rw [same, told, Option.getD_some, ← told]

theorem Observation.isOk_check_iff (timed : value.time.isSome = true) {now : Timestamp}
    : (value.check now).isOk = true ↔ value.check now = .ok value := by
  cases checked : value.check now with
  | error rejection => exact ⟨nofun, nofun⟩
  | ok valid => simp [eq_of_check timed checked, Except.isOk, Except.toBool]

/-- It does not matter when a value that tells its time is added. -/
theorem History.add_of_timed (timed : value.time.isSome = true) (history : History)
    (moment other : Moment)
    : history.add moment value = history.add other value := by
  rw [add, add, Observation.check_of_timed timed moment.now other.now]

/-- A value has the time of its message, and the kind of affordance that the message names. -/
theorem Message.toObservation_eq_ok {message : Message}
    (told : message.toObservation = .ok value)
    : value.time = message.time ∧ message.affordance? = some value.affordance := by
  rw [toObservation] at told
  split at told
  · cases told
  · next affordance known =>
      cases told
      exact ⟨rfl, known⟩

/-- A kind of affordance that is found by a name has this name in lower case. -/
theorem Affordance.name_of_ofName? {text : String} {kind : Affordance}
    (h : ofName? text = some kind)
    : kind.name = String.ofList (text.toList.map Char.toLower) := by
  rw [ofName?, ofExactName?] at h
  simpa using List.find?_some h

end

namespace Recording

open Recorder (Step)

variable {recording following : Recording}

/-- The values of messages that tell their times tell them, too. -/
theorem timed_queued
    (timed : ∀ message ∈ recording.submissions.map Prod.fst, message.time.isSome = true)
    : ∀ value ∈ recording.queued, value.time.isSome = true := by
  intro value member
  obtain ⟨message, submitted, told⟩ := mem_queued_iff.mp member
  rw [(Message.toObservation_eq_ok told).1]
  exact timed message (List.mem_map_of_mem submitted)

section

variable (timed : ∀ value ∈ recording.handed, value.time.isSome = true)

include timed

/-- The values that a history accepts are those that are valid at any time. -/
theorem accepted_additions (now : Timestamp)
    : History.accepted recording.additions
      = recording.handed.filter fun value => (value.check now).isOk := by
  rw [History.accepted, additions, handed, List.filterMap_map, ← List.filterMap_eq_filter,
    List.filterMap_map]
  refine List.filterMap_congr fun handover member => ?_
  have told := timed _ (List.mem_map_of_mem member)
  have same := Observation.check_of_timed told handover.moment.now now
  simp only [History.Operation.accepted?, Function.comp_apply, same]
  cases checked : handover.value.check now with
  | error rejection =>
      simp [Option.guard, checked, Except.toOption, Except.isOk, Except.toBool]
  | ok last =>
      have own := Observation.eq_of_check told checked
      simp [Option.guard, checked, own, Except.toOption, Except.isOk, Except.toBool]

/-- It does not matter when values are added, but only in which order. -/
theorem operateAll_additions (before : History) (moment : Moment)
    : before.operateAll recording.additions
      = before.operateAll
          (recording.handed.map fun value => (moment, .event (.add value))) := by
  rw [History.operateAll, History.operateAll, additions, handed, List.map_map, List.foldl_map,
    List.foldl_map]
  refine List.foldl_ext _ _ _ fun history handover member => ?_
  exact congrArg Prod.snd (History.add_of_timed (timed _ (List.mem_map_of_mem member)) ..)

end

-----------------------------------------------------------------------------------------
-- A single worker
-----------------------------------------------------------------------------------------

/-- A recording with one worker, which has handed over the oldest values and holds the next one. -/
structure InOrder (recording : Recording) : Prop where
  single : recording.recorder.workers.length = 1
  values
    : recording.queued
      = recording.handed ++ (recording.recorder.held ++ recording.recorder.queue)

namespace InOrder

theorem start (filters : Filters) {settings : RecorderSettings} (single : settings.workers ≤ 1)
    (before : History)
    : InOrder (.start filters settings before) := by
  have one : max 1 settings.workers = 1 := Nat.max_eq_left single
  constructor
  · rw [Recording.start, Recorder.start, one]
    rfl
  · rw [Recording.start, Recorder.start, one]
    rfl

theorem next (inOrder : recording.InOrder) {step : Step} (next : Next recording step following)
    : following.InOrder := by
  obtain ⟨held, alone⟩ := List.length_eq_one_iff.mp inOrder.single
  have values := inOrder.values
  rw [Recorder.held, alone] at values
  have own {worker : Nat} {value : Option Observation}
      (found : recording.recorder.workers[worker]? = some value)
      : worker = 0 ∧ held = value := by
    rw [alone] at found
    cases worker with
    | zero => exact ⟨rfl, Option.some.inj found⟩
    | succ worker => cases found
  refine ⟨next.workers_length.trans inOrder.single, ?_⟩
  cases next with
  | idled => exact inOrder.values
  | refused refused =>
      rw [queued_refused refused]
      exact inOrder.values
  | queued passes told room =>
      rw [queued_queued told, inOrder.values, List.append_assoc, List.append_assoc]
      rfl
  | @took _ _ value queue idle waiting =>
      obtain ⟨rfl, rfl⟩ := own idle
      rw [waiting] at values
      rw [Recorder.held, alone]
      exact values
  | @handed _ _ value _ _ holds added =>
      obtain ⟨rfl, rfl⟩ := own holds
      rw [Recorder.held, alone, handed, List.map_append, List.append_assoc]
      exact values

theorem afterAll (inOrder : recording.InOrder) (steps : List Step)
    : (recording.afterAll steps).InOrder :=
  afterAll_invariant (fun inOrder step => inOrder.next step) inOrder steps

/-- When nothing is left, the values were handed over in the order in which they were queued. -/
theorem handed_eq (inOrder : recording.InOrder) (drained : recording.recorder.isDrained = true)
    : recording.handed = recording.queued := by
  obtain ⟨empty, idle⟩ := Recorder.isDrained_iff.mp drained
  rw [inOrder.values, empty, idle, List.append_nil, List.append_nil]

end InOrder

-----------------------------------------------------------------------------------------
-- What is stored
-----------------------------------------------------------------------------------------

/-- When nothing is left and no two queued values are in one slot of a Thing, every Thing has the
entries of its valid queued values.
-/
theorem Accounted.mem_entries_iff {filters : Filters} {capacity workers : Nat} {before : History}
    (accounted : Accounted filters capacity workers before recording)
    (works : before.store.Works) (blank : ∀ thing, (before.store.bucket thing).entries = [])
    (timed : ∀ value ∈ recording.queued, value.time.isSome = true)
    (drained : recording.recorder.isDrained = true)
    (distinct : (recording.queued.map fun value => (value.thing, value.slot)).Nodup)
    (now : Timestamp) {thing : String} {entry : Entry}
    : entry ∈ (recording.history.store.bucket thing).entries
      ↔ ∃ value ∈ recording.queued,
          value.thing = thing ∧ value.check now = .ok value ∧ value.encode = .ok entry := by
  have handed := accounted.handed_perm drained
  have timedHanded : ∀ value ∈ recording.handed, value.time.isSome = true :=
    fun value member => timed value (handed.mem_iff.mp member)
  have start : before.HoldsLast [] :=
    ⟨works, by simp, fun thing => .of_entries_eq_nil (blank thing)⟩
  have holds := start.operateAll recording.additions
  rw [← accounted.history_eq, List.nil_append, accepted_additions timedHanded now] at holds
  have distinctHanded
      : ((recording.handed.filter fun value => (value.check now).isOk).map fun value =>
          (value.thing, value.slot)).Nodup :=
    ((handed.map _).nodup_iff.mpr distinct).sublist (List.filter_sublist.map _)
  rw [holds.buckets thing entry]
  refine exists_congr fun value => ?_
  rw [lastWrite?_eq_some_iff distinctHanded, List.mem_filter, handed.mem_iff]
  constructor
  · rintro ⟨⟨⟨member, valid⟩, own, _⟩, encoded⟩
    exact ⟨member, own, (Observation.isOk_check_iff (timed value member)).mp valid, encoded⟩
  · rintro ⟨member, own, valid, encoded⟩
    exact ⟨⟨⟨member, (Observation.isOk_check_iff (timed value member)).mpr valid⟩, own, rfl⟩,
      encoded⟩

/-- The messages of a run all tell their times. When nothing is left on a working store that held
nothing, and no two queued values are in one slot of a Thing, each queued value that is valid has
its entry with its Thing, and the Thing has no other entries. A single worker leaves the history
that has the queued values added in their order, whatever slots they are in. A queued message has
passed the filter of its kind, and names a kind of affordance in some letter case. Witness: the log
accounts for every value, and values in distinct slots can be added in any order.
-/
theorem queued_messages_are_stored {filters : Filters} {settings : RecorderSettings}
    {before : History} (works : before.store.Works)
    (blank : ∀ thing, (before.store.bucket thing).entries = []) {steps : List Step}
    (timed : ∀ message ∈ steps.filterMap Step.message?, message.time.isSome = true)
    {final : Recording}
    (settles : ((start filters settings before).afterAll steps).Settles final)
    : ((final.queued.map fun value => (value.thing, value.slot)).Nodup
        → ∀ now,
            (∀ message value valid,
              (message, .queued) ∈ final.submissions
              → message.toObservation = .ok value
              → value.check now = .ok valid
              → ∃ entry,
                  value.encode = .ok entry
                  ∧ entry ∈ (final.history.store.bucket value.thing).entries)
            ∧ ∀ thing,
                ∀ entry ∈ (final.history.store.bucket thing).entries,
                  ∃ message value,
                    (message, .queued) ∈ final.submissions
                    ∧ message.toObservation = .ok value
                    ∧ value.thing = thing
                    ∧ value.check now = .ok value
                    ∧ value.encode = .ok entry)
      ∧ (settings.workers ≤ 1
        → ∀ moment,
            final.history
            = before.operateAll
                (final.queued.map fun value => (moment, .event (.add value))))
      ∧ ∀ message,
          (message, .queued) ∈ final.submissions
          → (filters.ofKind message.kind).passes message = true
            ∧ ∃ affordance,
                message.affordance? = some affordance
                ∧ affordance.name
                  = String.ofList (message.affordanceName.toList.map Char.toLower) := by
  have accounted := settles.accounted ((Accounted.start filters settings before).afterAll steps)
  have drained := settles.isDrained
  have inTime : ∀ value ∈ final.queued, value.time.isSome = true := by
    apply timed_queued
    rw [settles.submissions_eq, messages_of_start]
    exact timed
  refine ⟨?_, ?_, ?_⟩
  · intro distinct now
    constructor
    · intro message value valid submitted told checked
      have member := mem_queued_iff.mpr ⟨message, submitted, told⟩
      have same := Observation.eq_of_check (inTime value member) checked
      subst same
      have last : valid.IsAccepted := ⟨_, _, checked⟩
      obtain ⟨key, encoded⟩ := last.exists_encode
      refine ⟨_, encoded, ?_⟩
      apply (accounted.mem_entries_iff works blank inTime drained distinct now).mpr
      exact ⟨valid, member, rfl, checked, encoded⟩
    · intro thing entry member
      obtain ⟨value, queued, own, checked, encoded⟩ :=
        (accounted.mem_entries_iff works blank inTime drained distinct now).mp member
      obtain ⟨message, submitted, told⟩ := mem_queued_iff.mp queued
      exact ⟨message, value, submitted, told, own, checked, encoded⟩
  · intro single moment
    have inOrder : final.InOrder := by
      obtain ⟨turns, rfl, _⟩ := settles
      exact ((InOrder.start filters single before).afterAll steps).afterAll _
    have handed := inOrder.handed_eq drained
    rw [accounted.history_eq, operateAll_additions (handed ▸ inTime) before moment, handed]
  · intro message submitted
    obtain ⟨passes, value, told⟩ := accounted.passed message submitted
    have known := (Message.toObservation_eq_ok told).2
    exact ⟨passes, value.affordance, known, Affordance.name_of_ofName? known⟩

/-- A lamp sends two messages, of which the first worker takes one. -/
def lampQueued : List Step :=
  [ .submit (.ofLamp "on" .epoch)
  , .work ⟨.epoch, 0⟩ 0
  , .submit (.ofLamp "bright" .epoch) ]

/-- What is left when a number of workers have taken turns over the messages of the lamp. -/
def lampStored (workers : Nat) (turns : List Nat) : Recording :=
  ((start {} ⟨8, workers⟩ { store := .empty, keys := toString }).afterAll lampQueued).takeTurns
    (turns.map fun worker => (⟨.epoch, 0⟩, worker))

/-- Of two workers the second one takes and stores the second value before the first one is stored:
the lamp has the entries of both. A single worker leaves both as if they had been added in their
order, at any moment.
-/
theorem lamp_messages_are_stored
    : (∀ value ∈ [Observation.ofLamp "on" .epoch, .ofLamp "bright" .epoch],
        ∃ entry,
          value.encode = .ok entry
          ∧ entry ∈ ((lampStored 2 [1, 1, 0]).history.store.bucket "lamp").entries)
      ∧ ∀ moment,
          (lampStored 1 [0, 0, 0]).history
          = History.operateAll { store := .empty, keys := toString }
              [ (moment, .event (.add (.ofLamp "on" .epoch)))
              , (moment, .event (.add (.ofLamp "bright" .epoch))) ] := by
  have works : Store.empty.Works := trivial
  have blank : ∀ thing, (Store.empty.bucket thing).entries = [] := fun _ => rfl
  have timed : ∀ message ∈ lampQueued.filterMap Step.message?, message.time.isSome = true := by
    simp [lampQueued, Step.message?, Message.ofLamp]
  have ended : (lampStored 2 [1, 1, 0]).recorder.isDrained = true := rfl
  have endedToo : (lampStored 1 [0, 0, 0]).recorder.isDrained = true := rfl
  obtain ⟨stored, _, _⟩ :=
    @queued_messages_are_stored {} ⟨8, 2⟩ { store := .empty, keys := toString } works blank
      lampQueued timed (lampStored 2 [1, 1, 0]) ⟨_, rfl, ended⟩
  obtain ⟨_, ordered, _⟩ :=
    @queued_messages_are_stored {} ⟨8, 1⟩ { store := .empty, keys := toString } works blank
      lampQueued timed (lampStored 1 [0, 0, 0]) ⟨_, rfl, endedToo⟩
  have submissions
      : (lampStored 2 [1, 1, 0]).submissions
        = [(.ofLamp "on" .epoch, .queued), (.ofLamp "bright" .epoch, .queued)] := rfl
  have queued
      : (lampStored 2 [1, 1, 0]).queued = [.ofLamp "on" .epoch, .ofLamp "bright" .epoch] := rfl
  have queuedToo
      : (lampStored 1 [0, 0, 0]).queued = [.ofLamp "on" .epoch, .ofLamp "bright" .epoch] := rfl
  rw [queued, submissions] at stored
  rw [queuedToo] at ordered
  refine ⟨?_, ordered (Nat.le_refl 1)⟩
  have entries := (stored (by decide) .epoch).1
  intro value member
  rcases List.mem_cons.mp member with rfl | member
  · exact entries (.ofLamp "on" .epoch) _ _ (.head _) rfl rfl
  · obtain rfl := List.mem_singleton.mp member
    exact entries (.ofLamp "bright" .epoch) _ _ (.tail _ (.head _)) rfl rfl

end Recording

end ValueHistory
