import ValueHistory.Proofs.Service.Events

/-! What is seen of sweeps. Runs that differ in their sweeps alone hold the same leases but for
those that are over, and get the same answers. Only a release shows the difference: it looks at the
owner of a lease and not at its time, so that a client may be refused the release of a lease that is
over, and is granted it when the lease has been swept out.
-/

namespace ValueHistory

-----------------------------------------------------------------------------------------
-- Registries that differ in leases that are over
-----------------------------------------------------------------------------------------

namespace Registry

/-- A registry that holds what another one holds, but for leases that are over at a time. -/
structure IsSwept (ticks : Nat) (swept whole : Registry) : Prop where
  kept : ∀ {key lease}, swept.leases.get? key = some lease → whole.leases.get? key = some lease
  live
    : ∀ {key lease},
        whole.leases.get? key = some lease
        → ticks < lease.deadline
        → swept.leases.get? key = some lease

namespace IsSwept

variable {ticks : Nat} {swept whole : Registry} {key : String}

theorem refl (ticks : Nat) (registry : Registry) : IsSwept ticks registry registry :=
  ⟨id, fun held _ => held⟩

theorem later {since : Nat} (isSwept : IsSwept since swept whole) (onward : since ≤ ticks)
    : IsSwept ticks swept whole :=
  ⟨isSwept.kept, fun held live => isSwept.live held (Nat.lt_of_le_of_lt onward live)⟩

/-- A lease that only the whole registry holds is over. -/
theorem lapsed (isSwept : IsSwept ticks swept whole) (vacant : swept.leases.get? key = none)
    {lease : Lease} (held : whole.leases.get? key = some lease)
    : lease.deadline ≤ ticks := by
  rcases Nat.lt_or_ge ticks lease.deadline with live | lapsed
  · cases vacant.symm.trans (isSwept.live held live)
  · exact lapsed

theorem insert (isSwept : IsSwept ticks swept whole) (key : String) (lease : Lease)
    : IsSwept ticks ⟨swept.leases.insert key lease⟩ ⟨whole.leases.insert key lease⟩ := by
  constructor
  · intro other found held
    rw [OrderedMap.get?_insert] at held ⊢
    split
    · next same => rwa [if_pos same] at held
    · next different => exact isSwept.kept (by rwa [if_neg different] at held)
  · intro other found held live
    rw [OrderedMap.get?_insert] at held ⊢
    split
    · next same => rwa [if_pos same] at held
    · next different => exact isSwept.live (by rwa [if_neg different] at held) live

theorem erase (isSwept : IsSwept ticks swept whole) (key : String)
    : IsSwept ticks ⟨swept.leases.erase key⟩ ⟨whole.leases.erase key⟩ := by
  constructor
  · intro other found held
    rw [OrderedMap.get?_erase] at held ⊢
    split
    · next same => rwa [if_pos same] at held
    · next different => exact isSwept.kept (by rwa [if_neg different] at held)
  · intro other found held live
    rw [OrderedMap.get?_erase] at held ⊢
    split
    · next same => rwa [if_pos same] at held
    · next different => exact isSwept.live (by rwa [if_neg different] at held) live

/-- Where the swept registry holds nothing, the whole one may lose its lease, too. -/
theorem erase_vacant (isSwept : IsSwept ticks swept whole)
    (vacant : swept.leases.get? key = none)
    : IsSwept ticks swept ⟨whole.leases.erase key⟩ := by
  constructor
  · intro other found held
    have different : other ≠ key := by
      rintro rfl
      cases vacant.symm.trans held
    rw [OrderedMap.get?_erase, if_neg different]
    exact isSwept.kept held
  · intro other found held live
    rw [OrderedMap.get?_erase] at held
    split at held
    · cases held
    · exact isSwept.live held live

theorem sweep (isSwept : IsSwept ticks swept whole)
    : IsSwept ticks (swept.sweep ticks).2 whole := by
  constructor
  · intro key lease held
    exact isSwept.kept (get?_sweep_eq_some_iff.mp held).1
  · intro key lease held live
    exact get?_sweep_eq_some_iff.mpr ⟨isSwept.live held live, live⟩

/-- An access is answered alike, since it finds no lease that is over. -/
theorem get (isSwept : IsSwept ticks swept whole) (owner key : String) (refresh : Bool)
    : (swept.get owner key refresh ticks).1 = (whole.get owner key refresh ticks).1
      ∧ IsSwept ticks (swept.get owner key refresh ticks).2
          (whole.get owner key refresh ticks).2 := by
  cases held : swept.leases.get? key with
  | some lease =>
      simp only [Registry.get, held, isSwept.kept held]
      split
      · exact ⟨rfl, isSwept.erase key⟩
      · split
        · exact ⟨rfl, isSwept⟩
        · split
          · exact ⟨rfl, isSwept.insert key _⟩
          · exact ⟨rfl, isSwept⟩
  | none =>
      cases whole_held : whole.leases.get? key with
      | none =>
          simp only [Registry.get, held, whole_held]
          exact ⟨trivial, isSwept⟩
      | some lease =>
          have lapsed := (lease.isExpired_eq_true_iff ticks).mpr (isSwept.lapsed held whole_held)
          simp only [Registry.get, held, whole_held, lapsed, if_true]
          exact ⟨trivial, isSwept.erase_vacant held⟩

/-- A release removes the same lease, if it removes any. -/
theorem release (isSwept : IsSwept ticks swept whole) (owner key : String)
    : IsSwept ticks (swept.release owner key).2 (whole.release owner key).2 := by
  cases held : swept.leases.get? key with
  | some lease =>
      simp only [Registry.release, held, isSwept.kept held]
      split
      · exact isSwept
      · exact isSwept.erase key
  | none =>
      rw [release_of_vacant held]
      have releasing := whole.release_releasing owner key
      generalize whole.release owner key = result at releasing
      cases releasing with
      | vacant _ => exact isSwept
      | foreign _ _ => exact isSwept
      | own _ _ => exact isSwept.erase_vacant held

end IsSwept

/-- A lease of another client that is over and that one registry still holds, while the other one
holds none under its key.
-/
def Lingers (ticks : Nat) (client key : String) (holding swept : Registry) : Prop :=
  swept.leases.get? key = none
  ∧ ∃ lease,
      holding.leases.get? key = some lease ∧ lease.owner ≠ client ∧ lease.deadline ≤ ticks

/-- Where a lease lingers, its release is refused, and it is granted where it does not. -/
theorem Lingers.release {ticks : Nat} {client key : String} {holding swept : Registry}
    (lingers : Lingers ticks client key holding swept)
    : (holding.release client key).1 = .error (.notAuthorized key)
      ∧ (swept.release client key).1 = .ok () := by
  obtain ⟨vacant, lease, held, foreign, _⟩ := lingers
  exact ⟨congrArg Prod.fst (release_of_foreign held foreign),
    congrArg Prod.fst (release_of_vacant vacant client)⟩

/-- Two registries that are swept from the same one answer a release alike, unless a lease lingers
in one of them.
-/
theorem release_eq_or_lingers {ticks : Nat} {left right whole : Registry}
    (leftSwept : IsSwept ticks left whole) (rightSwept : IsSwept ticks right whole)
    (client key : String)
    : (left.release client key).1 = (right.release client key).1
      ∨ Lingers ticks client key left right
      ∨ Lingers ticks client key right left := by
  have fromVacant {holding swept : Registry} (isSwept : IsSwept ticks holding whole)
      (isSweptToo : IsSwept ticks swept whole) (vacant : swept.leases.get? key = none)
      : (holding.release client key).1 = .ok () ∨ Lingers ticks client key holding swept := by
    have releasing := holding.release_releasing client key
    generalize holding.release client key = result at releasing
    cases releasing with
    | vacant _ => exact .inl rfl
    | own _ _ => exact .inl rfl
    | foreign held foreign =>
        exact .inr ⟨vacant, _, held, foreign, isSweptToo.lapsed vacant (isSwept.kept held)⟩
  cases leftHeld : left.leases.get? key with
  | none =>
      have released := congrArg Prod.fst (release_of_vacant leftHeld client)
      rcases fromVacant rightSwept leftSwept leftHeld with same | lingers
      · exact .inl (released.trans same.symm)
      · exact .inr (.inr lingers)
  | some lease =>
      cases rightHeld : right.leases.get? key with
      | none =>
          have released := congrArg Prod.fst (release_of_vacant rightHeld client)
          rcases fromVacant leftSwept rightSwept rightHeld with same | lingers
          · exact .inl (same.trans released.symm)
          · exact .inr (.inl lingers)
      | some other =>
          cases (leftSwept.kept leftHeld).symm.trans (rightSwept.kept rightHeld)
          simp only [Registry.release, leftHeld, rightHeld]
          left
          split <;> rfl

end Registry

-----------------------------------------------------------------------------------------
-- Histories that differ in leases that are over
-----------------------------------------------------------------------------------------

namespace History

/-- A history that is another one but for leases that are over at a time. -/
structure IsSwept (ticks : Nat) (swept whole : History) : Prop where
  rest : swept = { whole with registry := swept.registry }
  leases : swept.registry.IsSwept ticks whole.registry

/-- Outcomes with the same answer, of which one leaves the other's history but for leases that are
over.
-/
structure Outcome.Alike {α : Type} (ticks : Nat) (swept whole : Outcome α) : Prop where
  answer : swept.1 = whole.1
  left : swept.2.IsSwept ticks whole.2

namespace IsSwept

variable {α : Type} {ticks : Nat} {swept whole : History}

theorem respond {swept whole : Outcome α} (alike : Outcome.Alike ticks swept whole)
    (response : α → Response)
    : Outcome.Alike ticks (History.respond swept response) (History.respond whole response) :=
  ⟨congrArg (Except.map response) alike.answer, alike.left⟩

theorem opening (isSwept : IsSwept ticks swept whole) (thing : String)
    {next : History → Outcome α}
    (goesOn
      : ∀ {swept whole},
          IsSwept ticks swept whole → Outcome.Alike ticks (next swept) (next whole))
    : Outcome.Alike ticks (swept.opening thing next) (whole.opening thing next) := by
  obtain ⟨registry, rfl, leases⟩
      : ∃ registry, swept = { whole with registry } ∧ registry.IsSwept ticks whole.registry :=
    ⟨_, isSwept.rest, isSwept.leases⟩
  simp only [History.opening]
  cases whole.store.openBucket thing with
  | error failure => exact ⟨rfl, isSwept⟩
  | ok store => exact goesOn ⟨rfl, leases⟩

theorem add (isSwept : IsSwept ticks swept whole) (moment : Moment) (value : Observation)
    : Outcome.Alike ticks (swept.add moment value) (whole.add moment value) := by
  simp only [History.add]
  split
  · exact ⟨rfl, isSwept⟩
  · split
    · exact ⟨rfl, isSwept⟩
    · next entry _ =>
        refine isSwept.opening _ fun {swept whole} isSwept => ?_
        rw [isSwept.rest]
        cases whole.store.set _ entry.1 entry.2 with
        | error failure => exact ⟨rfl, rfl, isSwept.leases⟩
        | ok store => exact ⟨rfl, rfl, isSwept.leases⟩

theorem createCursor (isSwept : IsSwept ticks swept whole) (moment : Moment)
    (client thing : String) (name : Option String)
    : Outcome.Alike ticks (swept.createCursor moment client thing name)
        (whole.createCursor moment client thing name) := by
  refine isSwept.opening thing fun {swept whole} isSwept => ?_
  rw [isSwept.rest]
  exact ⟨rfl, rfl, isSwept.leases.insert _ _⟩

theorem read (isSwept : IsSwept ticks swept whole) (moment : Moment) (thing : String)
    (name : Option String) (start : Timestamp) (seconds limit : Int)
    : Outcome.Alike ticks (swept.read moment thing name start seconds limit)
        (whole.read moment thing name start seconds limit) := by
  refine isSwept.opening thing fun {swept whole} isSwept => ?_
  rw [isSwept.rest]
  cases whole.store.lookup thing with
  | error failure => exact ⟨rfl, rfl, isSwept.leases⟩
  | ok lookup => exact ⟨rfl, rfl, isSwept.leases⟩

theorem withCursor {moment : Moment} (isSwept : IsSwept moment.ticks swept whole)
    (client key : String) (use : Cursor → Lookup → α × Cursor)
    : Outcome.Alike moment.ticks (swept.withCursor moment client key use)
        (whole.withCursor moment client key use) := by
  have got := isSwept.leases.get client key true
  rw [isSwept.rest]
  simp only [History.withCursor]
  generalize swept.registry.get client key true moment.ticks = sweptGot at got
  generalize whole.registry.get client key true moment.ticks = wholeGot at got
  obtain ⟨found, sweptLeft⟩ := sweptGot
  obtain ⟨_, wholeLeft⟩ := wholeGot
  obtain ⟨rfl, leases⟩ := got
  cases found with
  | error failure => exact ⟨rfl, rfl, leases⟩
  | ok lease =>
      dsimp only
      cases whole.store.lookup lease.cursor.selection.thing with
      | error failure => exact ⟨rfl, rfl, leases⟩
      | ok lookup => exact ⟨rfl, rfl, leases.insert key _⟩

/-- Every request but a release is answered alike. -/
theorem execute {moment : Moment} (isSwept : IsSwept moment.ticks swept whole) (client : String)
    {request : Request} (keeps : ∀ key, request ≠ .onCursor key .release)
    : Outcome.Alike moment.ticks (swept.execute moment client request)
        (whole.execute moment client request) := by
  cases request with
  | create thing name => exact respond (isSwept.createCursor ..) _
  | read thing name start seconds limit => exact respond (isSwept.read ..) _
  | onCursor key call =>
      have uses : call ≠ .release := fun same => keeps key (same ▸ rfl)
      have limit : swept.defaultLimit = whole.defaultLimit := by rw [isSwept.rest]
      simp only [History.execute, call_eq_withCursor _ _ _ _ uses, limit]
      exact isSwept.withCursor client key _

end IsSwept

-----------------------------------------------------------------------------------------
-- Runs
-----------------------------------------------------------------------------------------

/-- What may be done: an event happens to the history, or a cursor is leased or looked at in its
registry.
-/
inductive Step where
  | event (event : Event)
  | lease (owner : String) (cursor : Cursor) (lifespan : Nat)
  | access (owner key : String) (refresh : Bool)

/-- What is replied to it. -/
inductive Reply where
  | response (answer : Except Failure Response)
  | added (answer : Except Failure Unit)
  | swept (count : Nat)
  | leased (key : String)
  | accessed (answer : Except Failure Lease)

/-- The reply to a step, and the history after it. -/
def perform (history : History) (moment : Moment) : Step → Reply × History
  | .event (.request client request) =>
    (history.execute moment client request).map .response id
  | .event (.add value) => (history.add moment value).map .added id
  | .event .sweep => (history.sweep moment).map .swept id
  | .lease owner cursor lifespan =>
    let key := history.keys history.issued
    let registry := history.registry.add owner key cursor lifespan moment.ticks
    (.leased key, { history with registry, issued := history.issued + 1 })
  | .access owner key refresh =>
    let (answer, registry) := history.registry.get owner key refresh moment.ticks
    (.accessed answer, { history with registry })

/-- The history after steps with their moments, one after the other. -/
def performAll (history : History) (run : List (Moment × Step)) : History :=
  run.foldl (fun history timed => (history.perform timed.1 timed.2).2) history

/-- Whether a step is a sweep. -/
def Step.isSweep : Step → Bool
  | .event .sweep => true
  | _ => false

/-- The step of a client that releases a key. -/
def Step.release (client key : String) : Step :=
  .event (.request client (.onCursor key .release))

/-- A run without its sweeps. -/
def unswept (run : List (Moment × Step)) : List (Moment × Step) :=
  run.filter fun timed => !timed.2.isSweep

/-- A run in which the clock does not go back and that ends by a time. -/
def EndsBy (ticks : Nat) (run : List (Moment × Step)) : Prop :=
  (run.map fun timed => timed.1.ticks).Pairwise (· ≤ ·)
  ∧ ∀ timed ∈ run, timed.1.ticks ≤ ticks

namespace IsSwept

variable {moment : Moment} {swept whole : History}

/-- Every step but a sweep leaves two histories that differ only in leases that are over, and gets
the same reply of both unless it is a release.
-/
theorem perform (isSwept : IsSwept moment.ticks swept whole) {step : Step}
    (asks : step.isSweep = false)
    : (swept.perform moment step).2.IsSwept moment.ticks (whole.perform moment step).2
      ∧ ((∀ client key, step ≠ .release client key)
        → (swept.perform moment step).1 = (whole.perform moment step).1) := by
  have of_alike {α : Type} {reply : α → Reply} {sweptOutcome wholeOutcome : α × History}
      (answer : sweptOutcome.1 = wholeOutcome.1)
      (left : sweptOutcome.2.IsSwept moment.ticks wholeOutcome.2)
      : (sweptOutcome.map reply id).2.IsSwept moment.ticks (wholeOutcome.map reply id).2
        ∧ ((∀ client key, step ≠ .release client key)
          → (sweptOutcome.map reply id).1 = (wholeOutcome.map reply id).1) :=
    ⟨left, fun _ => congrArg reply answer⟩
  cases step with
  | access owner key refresh =>
      have got := isSwept.leases.get owner key refresh
      rw [isSwept.rest]
      exact ⟨⟨rfl, got.2⟩, fun _ => congrArg Reply.accessed got.1⟩
  | lease owner cursor lifespan =>
      rw [isSwept.rest]
      exact ⟨⟨rfl, isSwept.leases.insert _ _⟩, fun _ => rfl⟩
  | event event =>
      cases event with
      | sweep => cases asks
      | add value =>
          have alike := isSwept.add moment value
          exact of_alike alike.answer alike.left
      | request client request =>
          by_cases released : ∃ key, request = .onCursor key .release
          · obtain ⟨key, rfl⟩ := released
            refine ⟨?_, fun other => absurd rfl (other client key)⟩
            rw [isSwept.rest]
            exact ⟨rfl, isSwept.leases.release client key⟩
          · have alike := isSwept.execute client (not_exists.mp released)
            exact of_alike alike.answer alike.left

/-- Runs keep that, whatever sweeps one of them has, by induction on the run. -/
theorem performAll {since ticks : Nat} (isSwept : IsSwept since swept whole)
    {run : List (Moment × Step)}
    (chronological : (since :: run.map fun timed => timed.1.ticks).Pairwise (· ≤ ·))
    (ended : ∀ timed ∈ run, timed.1.ticks ≤ ticks) (onward : since ≤ ticks)
    : (swept.performAll run).IsSwept ticks (whole.performAll (unswept run)) := by
  induction run generalizing swept whole since with
  | nil => exact ⟨isSwept.rest, isSwept.leases.later onward⟩
  | cons timed run ih =>
      obtain ⟨moment, step⟩ := timed
      obtain ⟨before, ordered⟩ := List.pairwise_cons.mp chronological
      have inTime : IsSwept moment.ticks swept whole :=
        ⟨isSwept.rest, isSwept.leases.later (before _ List.mem_cons_self)⟩
      have endedLater := fun later member => ended later (List.mem_cons_of_mem _ member)
      have onwardLater := ended _ List.mem_cons_self
      cases sweeps : step.isSweep with
      | false =>
          have kept : unswept ((moment, step) :: run) = (moment, step) :: unswept run :=
            List.filter_cons_of_pos (by simp [sweeps])
          rw [kept]
          exact ih (inTime.perform sweeps).1 ordered endedLater onwardLater
      | true =>
          have dropped : unswept ((moment, step) :: run) = unswept run :=
            List.filter_cons_of_neg (by simp [sweeps])
          have swept_after : (swept.perform moment step).2.IsSwept moment.ticks whole := by
            cases step with
            | lease | access => cases sweeps
            | event event =>
                cases event with
                | request | add => cases sweeps
                | sweep =>
                    rw [inTime.rest]
                    exact ⟨rfl, inTime.leases.sweep⟩
          rw [dropped]
          exact ih swept_after ordered endedLater onwardLater

/-- A run from a history leaves what it leaves without its sweeps, but for leases that are over. -/
theorem of_run (start : History) {run : List (Moment × Step)} {ticks : Nat}
    (ends : EndsBy ticks run)
    : (start.performAll run).IsSwept ticks (start.performAll (unswept run)) := by
  have begun : IsSwept 0 start start := ⟨rfl, .refl 0 _⟩
  refine begun.performAll (List.pairwise_cons.mpr ⟨?_, ends.1⟩) ends.2 (Nat.zero_le ticks)
  exact fun later _ => Nat.zero_le later

end IsSwept

/-- The reply to a release is that of the registry. -/
theorem perform_release (history : History) (moment : Moment) (client key : String)
    : (history.perform moment (.release client key)).1
      = .response ((history.registry.release client key).1.map fun _ => .released) :=
  rfl

/-- Runs that differ only in their sweeps leave histories that give the same reply to every step at
any later time, whoever takes it. Only the release of another client's lease shows a difference: if
the lease is over and lingers in one of the histories, but not in the other one, the first refuses
the release and the second grants it. Witness: each of the two histories lacks only leases that are
over, compared with one that is never swept, by induction on its run.
-/
theorem sweeps_show_in_foreign_release {start first second : History}
    {left right : List (Moment × Step)} (same : unswept left = unswept right)
    (reachesFirst : start.performAll left = first)
    (reachesSecond : start.performAll right = second) {moment : Moment}
    (leftEnds : EndsBy moment.ticks left) (rightEnds : EndsBy moment.ticks right) {step : Step}
    (asks : step.isSweep = false)
    : ((first.perform moment step).1 ≠ (second.perform moment step).1
        ↔ ∃ client key,
            step = .release client key
            ∧ (first.registry.Lingers moment.ticks client key second.registry
              ∨ second.registry.Lingers moment.ticks client key first.registry))
      ∧ ∀ (client key : String) (holding swept : History),
          holding.registry.Lingers moment.ticks client key swept.registry
          → (holding.perform moment (.release client key)).1
              = .response (.error (.notAuthorized key))
            ∧ (swept.perform moment (.release client key)).1 = .response (.ok .released) := by
  have shown {client key : String} {holding swept : History}
      (lingers : holding.registry.Lingers moment.ticks client key swept.registry)
      : (holding.perform moment (.release client key)).1
          = .response (.error (.notAuthorized key))
        ∧ (swept.perform moment (.release client key)).1 = .response (.ok .released) := by
    obtain ⟨refused, granted⟩ := lingers.release
    rw [perform_release, perform_release, refused, granted]
    exact ⟨rfl, rfl⟩
  have firstSwept := IsSwept.of_run start leftEnds
  have secondSwept := IsSwept.of_run start rightEnds
  rw [reachesFirst, same] at firstSwept
  rw [reachesSecond] at secondSwept
  refine ⟨⟨fun different => ?_, ?_⟩, fun _ _ _ _ => shown⟩
  · by_cases released : ∃ client key, step = .release client key
    · obtain ⟨client, key, rfl⟩ := released
      refine ⟨client, key, rfl, ?_⟩
      rcases Registry.release_eq_or_lingers firstSwept.leases secondSwept.leases client key with
        alike | lingers
      · rw [perform_release, perform_release, alike] at different
        exact absurd rfl different
      · exact lingers
    · have other : ∀ client key, step ≠ .release client key :=
        fun client key equal => released ⟨client, key, equal⟩
      have firstReply := (firstSwept.perform asks).2 other
      have secondReply := (secondSwept.perform asks).2 other
      exact absurd (firstReply.trans secondReply.symm) different
  · rintro ⟨client, key, rfl, lingers | lingers⟩ alike
    · obtain ⟨refused, granted⟩ := shown lingers
      cases refused.symm.trans (alike.trans granted)
    · obtain ⟨refused, granted⟩ := shown lingers
      cases granted.symm.trans (alike.trans refused)

/-- A cursor on a lamp is leased to an owner for five ticks. -/
def lampLeased : List (Moment × Step) :=
  [(⟨.epoch, 0⟩, .lease "owner" (.opened "lamp" none) 5)]

/-- The lease of the lamp is swept out as soon as it is over. -/
def lampSwept : List (Moment × Step) :=
  lampLeased ++ [(⟨.epoch, 5⟩, .event .sweep)]

/-- A stranger that releases the lease after five ticks is refused where the lease lingers, and not
where it has been swept out.
-/
theorem lamp_sweep_shows_in_release
    : ∃ first second,
        performAll { store := .empty, keys := toString } lampLeased = first
        ∧ performAll { store := .empty, keys := toString } lampSwept = second
        ∧ (first.perform ⟨.epoch, 5⟩ (.release "stranger" "0")).1
          ≠ (second.perform ⟨.epoch, 5⟩ (.release "stranger" "0")).1
        ∧ (first.perform ⟨.epoch, 5⟩ (.release "stranger" "0")).1
          = .response (.error (.notAuthorized "0"))
        ∧ (second.perform ⟨.epoch, 5⟩ (.release "stranger" "0")).1 = .response (.ok .released) := by
  have leased : EndsBy 5 lampLeased := ⟨by decide, by decide⟩
  have swept : EndsBy 5 lampSwept := ⟨by decide, by decide⟩
  obtain ⟨differs, shown⟩ :=
    @sweeps_show_in_foreign_release { store := .empty, keys := toString } _ _ lampLeased lampSwept
      rfl rfl rfl ⟨.epoch, 5⟩ leased swept (.release "stranger" "0") rfl
  have lingers
      : Registry.Lingers 5 "stranger" "0"
          (performAll { store := .empty, keys := toString } lampLeased).registry
          (performAll { store := .empty, keys := toString } lampSwept).registry :=
    ⟨rfl, _, rfl, by decide, by decide⟩
  refine ⟨_, _, rfl, rfl, ?_, shown _ _ _ _ lingers⟩
  exact differs.mpr ⟨"stranger", "0", rfl, .inl lingers⟩

end History

end ValueHistory
