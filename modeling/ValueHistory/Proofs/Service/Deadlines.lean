import ValueHistory.Proofs.Service.Leasing

/-! The deadlines of leases. Every lease of a history lasts for the lifespan that the history was
given, and its deadline is that long after a reading of the clock. So no deadline lies beyond a time
that leaves room for the lifespan after every reading.
-/

namespace ValueHistory

namespace Registry

/-- All leases last for a lifespan and are over by a time. -/
def OverBy (lifespan limit : Nat) (registry : Registry) : Prop :=
  ∀ key lease,
    registry.leases.get? key = some lease → lease.lifespan = lifespan ∧ lease.deadline ≤ limit

variable {lifespan limit ticks : Nat} {registry : Registry}

theorem overBy_empty (lifespan limit : Nat) : OverBy lifespan limit .empty :=
  fun _ _ held => nomatch held

/-- A lease more may be there if it is over by the time as well. -/
theorem OverBy.insert (overBy : OverBy lifespan limit registry) (key : String) {lease : Lease}
    (same : lease.lifespan = lifespan) (within : lease.deadline ≤ limit)
    : OverBy lifespan limit ⟨registry.leases.insert key lease⟩ := by
  intro other found held
  rw [OrderedMap.get?_insert] at held
  split at held
  · cases held
    exact ⟨same, within⟩
  · exact overBy other found held

theorem OverBy.erase (overBy : OverBy lifespan limit registry) (key : String)
    : OverBy lifespan limit ⟨registry.leases.erase key⟩ := by
  intro other found held
  rw [OrderedMap.get?_erase] at held
  split at held
  · cases held
  · exact overBy other found held

/-- An access renews a lease for its lifespan, from the reading of the clock on. -/
theorem OverBy.get (overBy : OverBy lifespan limit registry) (within : ticks + lifespan ≤ limit)
    (client key : String) (refresh : Bool)
    : OverBy lifespan limit (registry.get client key refresh ticks).2
      ∧ ∀ lease, (registry.get client key refresh ticks).1 = .ok lease
        → lease.lifespan = lifespan ∧ lease.deadline ≤ limit := by
  have access := registry.get_access client key refresh ticks
  generalize registry.get client key refresh ticks = result at access
  cases access with
  | vacant | foreign => exact ⟨overBy, fun _ ok => nomatch ok⟩
  | expired => exact ⟨overBy.erase key, fun _ ok => nomatch ok⟩
  | @own lease after held _ _ left =>
      obtain ⟨same, early⟩ := overBy key lease held
      have renewed
          : (lease.accessed refresh ticks).lifespan = lifespan
            ∧ (lease.accessed refresh ticks).deadline ≤ limit := by
        rw [Lease.lifespan_accessed, Lease.deadline_accessed, same]
        refine ⟨rfl, ?_⟩
        split <;> assumption
      refine ⟨fun other found heldAfter => ?_, ?_⟩
      · rw [left] at heldAfter
        split at heldAfter
        · cases heldAfter
          exact renewed
        · exact overBy other found heldAfter
      · intro found ok
        cases ok
        exact renewed

theorem OverBy.release (overBy : OverBy lifespan limit registry) (client key : String)
    : OverBy lifespan limit (registry.release client key).2 := by
  have releasing := registry.release_releasing client key
  generalize registry.release client key = result at releasing
  cases releasing with
  | vacant | foreign => exact overBy
  | own => exact overBy.erase key

theorem OverBy.sweep (overBy : OverBy lifespan limit registry) (ticks : Nat)
    : OverBy lifespan limit (registry.sweep ticks).2 :=
  fun key lease held => overBy key lease (get?_sweep_eq_some_iff.mp held).1

end Registry

namespace History

variable {history : History} {moment : Moment} {limit : Nat}

/-- All leases of a history last for its lifespan and are over by a time. -/
def OverBy (limit : Nat) (history : History) : Prop :=
  history.registry.OverBy history.lifespan limit

theorem OverBy.withCursor {α : Type} (overBy : history.OverBy limit)
    (within : moment.ticks + history.lifespan ≤ limit) (client key : String)
    (use : Cursor → Lookup → α × Cursor)
    : (history.withCursor moment client key use).2.OverBy limit
      ∧ (history.withCursor moment client key use).2.lifespan = history.lifespan := by
  obtain ⟨left, answered⟩ := Registry.OverBy.get overBy within client key true
  rw [History.withCursor]
  rcases got : history.registry.get client key true moment.ticks with ⟨failure | lease, registry⟩
  · rw [got] at left
    exact ⟨left, rfl⟩
  · rw [got] at left answered
    obtain ⟨same, early⟩ := answered lease rfl
    dsimp only
    cases history.store.lookup lease.cursor.selection.thing with
    | error => exact ⟨left, rfl⟩
    | ok lookup => exact ⟨left.insert key same early, rfl⟩

/-- No event brings a deadline beyond the time, if there is room for the lifespan after the reading
of the clock; and none changes the lifespan.
-/
theorem OverBy.after (overBy : history.OverBy limit)
    (within : moment.ticks + history.lifespan ≤ limit) (event : Event)
    : (history.after moment event).OverBy limit
      ∧ (history.after moment event).lifespan = history.lifespan := by
  cases event with
  | sweep => exact ⟨Registry.OverBy.sweep overBy moment.ticks, rfl⟩
  | add value =>
      obtain ⟨store, same⟩ := history.exists_add moment value
      rw [History.after, same]
      exact ⟨overBy, rfl⟩
  | request client request =>
      cases request with
      | onCursor key call =>
          rw [History.after, execute]
          by_cases uses : call = .release
          · rw [uses]
            exact ⟨Registry.OverBy.release overBy client key, rfl⟩
          · rw [call_eq_withCursor history moment client key uses]
            exact overBy.withCursor within client key _
      | create thing name =>
          rw [History.after, execute, respond, createCursor, opening]
          cases history.store.openBucket thing with
          | error => exact ⟨overBy, rfl⟩
          | ok store => exact ⟨Registry.OverBy.insert overBy _ rfl within, rfl⟩
      | read thing name start seconds limit =>
          rw [History.after, execute, respond, read, opening]
          cases history.store.openBucket thing with
          | error => exact ⟨overBy, rfl⟩
          | ok store =>
              dsimp only
              cases store.lookup thing <;> exact ⟨overBy, rfl⟩

/-- The history after a run of events. -/
def afterAll (history : History) (run : Course) : History :=
  run.foldl (fun history timed => history.after timed.1 timed.2) history

/-- No run of events brings a deadline beyond the time, by induction on the run. -/
theorem OverBy.afterAll {run : Course} (overBy : history.OverBy limit)
    (within : ∀ timed ∈ run, timed.1.ticks + history.lifespan ≤ limit)
    : (history.afterAll run).OverBy limit
      ∧ (history.afterAll run).lifespan = history.lifespan := by
  induction run generalizing history with
  | nil => exact ⟨overBy, rfl⟩
  | cons timed later ih =>
      obtain ⟨first, others⟩ := List.forall_mem_cons.mp within
      obtain ⟨next, same⟩ := overBy.after first timed.2
      rw [← same] at others
      obtain ⟨last, sameLast⟩ := ih next others
      exact ⟨last, sameLast.trans same⟩

end History

end ValueHistory
