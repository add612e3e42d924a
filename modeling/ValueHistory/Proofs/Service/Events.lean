import ValueHistory.Proofs.History.Adding
import ValueHistory.Proofs.Registry.Access
import ValueHistory.Service.Request

/-! What may happen to a history: clients make requests, values are added, and expired leases are
swept. Only an addition changes what is stored. A lease is changed by the calls of its owner on its
key, and removed by them or when its time is over.
-/

namespace ValueHistory

/-- The response to a call that uses a cursor, and the cursor after it. -/
def CursorCall.use (moment : Moment) (default : Nat) (call : CursorCall) (cursor : Cursor)
    (lookup : Lookup) : Response × Cursor :=
  match call with
  | .first => (cursor.first lookup moment.now).map .ofValue id
  | .last => (cursor.last lookup).map .ofValue id
  | .next => (cursor.next lookup moment.now).map .ofValue id
  | .prev => (cursor.prev lookup).map .ofValue id
  | .page direction bound limit =>
    (cursor.page lookup direction bound (effectiveLimit limit default)).map .page id
  | .seek time => (cursor.seek lookup moment.now time).map .ofValue id
  | .release => (.released, cursor)

namespace History

-----------------------------------------------------------------------------------------
-- The use of a cursor
-----------------------------------------------------------------------------------------

section

variable {α : Type} {history : History} {moment : Moment} {client key : String}

/-- What the use of a cursor of a working store answers and leaves: its lease is refused, or it is
moved over the values of its Thing and kept.
-/
inductive Use (history : History) (moment : Moment) (client key : String)
    (use : Cursor → Lookup → α × Cursor) : Outcome α → Prop where
  | refused {failure : Failure} {registry : Registry}
      (got : history.registry.get client key true moment.ticks = (.error failure, registry))
    : Use history moment client key use (.error failure, { history with registry })
  | used {lease : Lease} {registry : Registry}
      (got : history.registry.get client key true moment.ticks = (.ok lease, registry))
      {answer : α} {cursor : Cursor}
      (moved
        : use lease.cursor (.ofBucket (history.store.bucket lease.cursor.selection.thing))
          = (answer, cursor))
    : Use history moment client key use
        (.ok answer, { history with registry := registry.keep key lease cursor })

theorem withCursor_use (works : history.store.Works) (moment : Moment) (client key : String)
    (use : Cursor → Lookup → α × Cursor)
    : Use history moment client key use (history.withCursor moment client key use) := by
  rw [withCursor]
  rcases got : history.registry.get client key true moment.ticks with ⟨failure | lease, registry⟩
  · exact .refused got
  · simp only [Store.lookup_of_works works]
    exact .used got rfl

theorem respond_withCursor (history : History) (moment : Moment) (client key : String)
    (use : Cursor → Lookup → α × Cursor) (response : α → Response) (view : View)
    : respond (history.withCursor moment client key use view) response
      = history.withCursor moment client key
          (fun cursor lookup => (use cursor lookup).map response id) view := by
  rw [withCursor, withCursor]
  rcases history.registry.get client key true moment.ticks with ⟨failure | lease, registry⟩
  · rfl
  · dsimp only
    cases history.store.lookup lease.cursor.selection.thing <;> rfl

/-- Every call but a release uses the cursor. -/
theorem call_eq_withCursor (history : History) (moment : Moment) (client key : String)
    {call : CursorCall} (uses : call ≠ .release) (view : View := .still)
    : history.call moment client key call view
      = history.withCursor moment client key (call.use moment history.defaultLimit) view := by
  cases call with
  | release => exact absurd rfl uses
  | first | last | next | prev | page | seek => exact respond_withCursor ..

/-- The owner of a lease that is not over gets the answer of the cursor. The lease is renewed, and
keeps the cursor where it has moved.
-/
theorem withCursor_of_own (works : history.store.Works) {lease : Lease}
    (held : history.registry.leases.get? key = some lease) (live : moment.ticks < lease.deadline)
    (use : Cursor → Lookup → α × Cursor) {answer : α} {cursor : Cursor}
    (moved
      : use lease.cursor (.ofBucket (history.store.bucket lease.cursor.selection.thing))
        = (answer, cursor))
    : ∃ registry,
        history.withCursor moment lease.owner key use = (.ok answer, { history with registry })
        ∧ registry.leases.get? key
          = some { lease with deadline := moment.ticks + lease.lifespan, cursor } := by
  have access := history.registry.get_access lease.owner key true moment.ticks
  rw [withCursor]
  generalize history.registry.get lease.owner key true moment.ticks = result at access
  cases access with
  | vacant absent => cases absent.symm.trans held
  | expired heldToo lapsed =>
      cases held.symm.trans heldToo
      omega
  | foreign heldToo _ other =>
      cases held.symm.trans heldToo
      exact absurd rfl other
  | own heldToo _ _ left =>
      cases held.symm.trans heldToo
      simp only [Lease.cursor_accessed, Store.lookup_of_works works, View.first_still, moved]
      refine ⟨_, rfl, ?_⟩
      rw [Registry.keep, OrderedMap.get?_insert, if_pos rfl]
      rfl

end

-----------------------------------------------------------------------------------------
-- Events
-----------------------------------------------------------------------------------------

/-- What may happen to a history. -/
inductive Event where
  | request (client : String) (request : Request)
  | add (value : Observation)
  | sweep

/-- The history after an event. -/
def after (history : History) (moment : Moment) : Event → History
  | .request client request => (history.execute moment client request).2
  | .add value => (history.add moment value).2
  | .sweep => (history.sweep moment).2

/-- The call that a client makes on a key. -/
def Event.callOn? (client key : String) : Event → Option CursorCall
  | .request caller (.onCursor target call) =>
    if caller = client ∧ target = key then some call else none
  | _ => none

theorem Event.callOn?_eq_some_iff {event : Event} {client key : String} {call : CursorCall}
    : event.callOn? client key = some call ↔ event = .request client (.onCursor key call) := by
  constructor
  · intro own
    unfold callOn? at own
    split at own
    · obtain ⟨⟨rfl, rfl⟩, same⟩ := Option.ite_none_right_eq_some.mp own
      rw [Option.some.inj same]
    · cases own
  · rintro rfl
    exact if_pos ⟨rfl, rfl⟩

/-- A history that has stored the same as before, and may have given out more keys. -/
structure Continues (before after : History) : Prop where
  works : after.store.Works
  contents : ∀ thing, after.store.bucket thing = before.store.bucket thing
  keys : after.keys = before.keys
  limit : after.defaultLimit = before.defaultLimit
  issued : before.issued ≤ after.issued

section

variable {history : History}

theorem Continues.of_registry (works : history.store.Works) (registry : Registry)
    : Continues history { history with registry } :=
  ⟨works, fun _ => rfl, rfl, rfl, Nat.le_refl _⟩

theorem Continues.withCursor {α : Type} (works : history.store.Works) (moment : Moment)
    (client key : String) (use : Cursor → Lookup → α × Cursor)
    : Continues history (history.withCursor moment client key use).2 := by
  have used := withCursor_use works moment client key use
  generalize history.withCursor moment client key use = outcome at used
  cases used with
  | refused _ => exact .of_registry works _
  | used _ _ => exact .of_registry works _

theorem Continues.call (works : history.store.Works) (moment : Moment) (client key : String)
    (call : CursorCall)
    : Continues history (history.call moment client key call).2 := by
  by_cases uses : call = .release
  · rw [uses]
    exact .of_registry works _
  · rw [call_eq_withCursor history moment client key uses]
    exact .withCursor works moment client key _

/-- No request changes what is stored. -/
theorem Continues.execute (works : history.store.Works) (moment : Moment) (client : String)
    (request : Request)
    : Continues history (history.execute moment client request).2 := by
  cases request with
  | onCursor key call => exact .call works moment client key call
  | create thing name =>
      obtain ⟨opened, opens, openedWorks, contents⟩ := Store.openBucket_of_works works thing
      simp only [History.execute, respond, createCursor, opening, opens]
      exact ⟨openedWorks, contents, rfl, rfl, Nat.le_succ _⟩
  | read thing name start seconds limit =>
      obtain ⟨opened, opens, openedWorks, contents⟩ := Store.openBucket_of_works works thing
      simp only [History.execute, respond, read, opening, opens,
        Store.lookup_of_works openedWorks]
      exact ⟨openedWorks, contents, rfl, rfl, Nat.le_refl _⟩

/-- An addition leaves all but the store as it was. -/
theorem exists_add (history : History) (moment : Moment) (value : Observation)
    : ∃ store, (history.add moment value).2 = { history with store } := by
  simp only [add, put, opening]
  split
  · exact ⟨_, rfl⟩
  · split
    · exact ⟨_, rfl⟩
    · split
      · exact ⟨_, rfl⟩
      · split <;> exact ⟨_, rfl⟩

/-- Histories that store the same go on storing the same when a value is added to each. -/
theorem bucket_add {other : History} (works : history.store.Works)
    (otherWorks : other.store.Works)
    (same : ∀ thing, history.store.bucket thing = other.store.bucket thing) (moment : Moment)
    (value : Observation) (thing : String)
    : (history.add moment value).2.store.bucket thing
      = (other.add moment value).2.store.bucket thing := by
  rcases add_of_works works moment value with
    ⟨_, rejected, left⟩ | ⟨_, _, _, checked, encoded, left, _, contents⟩
  all_goals
    rcases add_of_works otherWorks moment value with
      ⟨_, rejectedToo, right⟩ | ⟨_, _, _, checkedToo, encodedToo, right, _, contentsToo⟩
    all_goals rw [left, right]
  · exact same thing
  · cases rejected.symm.trans checkedToo
  · cases checked.symm.trans rejectedToo
  · cases checked.symm.trans checkedToo
    cases encoded.symm.trans encodedToo
    simp only [contents, contentsToo, same]

/-- Working stores answer an addition alike, whatever they hold. -/
theorem answer_add {other : History} (works : history.store.Works)
    (otherWorks : other.store.Works) (moment : Moment) (value : Observation)
    : (history.add moment value).1 = (other.add moment value).1 := by
  rcases add_of_works works moment value with
    ⟨_, rejected, left⟩ | ⟨_, _, _, checked, _, left, _⟩
  all_goals
    rcases add_of_works otherWorks moment value with
      ⟨_, rejectedToo, right⟩ | ⟨_, _, _, checkedToo, _, right, _⟩
    all_goals rw [left, right]
  · cases rejected.symm.trans rejectedToo
    rfl
  · cases rejected.symm.trans checkedToo
  · cases checked.symm.trans rejectedToo

-----------------------------------------------------------------------------------------
-- What spares a lease
-----------------------------------------------------------------------------------------

variable {moment : Moment} {client key target : String} {lease : Lease}

theorem withCursor_spares {α : Type} (works : history.store.Works)
    (held : history.registry.leases.get? key = some lease) (live : moment.ticks < lease.deadline)
    (other : lease.owner ≠ client ∨ key ≠ target) (use : Cursor → Lookup → α × Cursor)
    : (history.withCursor moment client target use).2.registry.leases.get? key = some lease := by
  have spared := Registry.get_spares held live other true
  have used := withCursor_use works moment client target use
  generalize history.withCursor moment client target use = outcome at used
  cases used with
  | refused got =>
      rw [got] at spared
      exact spared
  | used got moved =>
      rw [Registry.keep, OrderedMap.get?_insert]
      split
      · next same =>
          -- A client that is not the owner would not have got the lease.
          subst same
          have foreign := other.resolve_right (not_not_intro rfl)
          have alive := (lease.isExpired_eq_false_iff moment.ticks).mpr live
          cases got.symm.trans (Registry.get_of_foreign held alive foreign true)
      · rw [got] at spared
        exact spared

theorem call_spares (works : history.store.Works)
    (held : history.registry.leases.get? key = some lease) (live : moment.ticks < lease.deadline)
    (other : lease.owner ≠ client ∨ key ≠ target) (call : CursorCall)
    : (history.call moment client target call).2.registry.leases.get? key = some lease := by
  by_cases uses : call = .release
  · rw [uses]
    exact Registry.release_spares held other
  · rw [call_eq_withCursor history moment client target uses]
    exact withCursor_spares works held live other _

/-- A lease that is not over is spared by every event but the calls of its owner on its key, unless
its key is given out anew.
-/
theorem after_spares (works : history.store.Works)
    (held : history.registry.leases.get? key = some lease) (live : moment.ticks < lease.deadline)
    (fresh : key ≠ history.keys history.issued) {event : Event}
    (other : event.callOn? lease.owner key = none)
    : (history.after moment event).registry.leases.get? key = some lease := by
  cases event with
  | sweep => exact Registry.get?_sweep_eq_some_iff.mpr ⟨held, live⟩
  | add value =>
      obtain ⟨store, same⟩ := history.exists_add moment value
      rw [after, same]
      exact held
  | request client request =>
      cases request with
      | onCursor target call =>
          refine call_spares works held live ?_ call
          by_contra own
          obtain ⟨rfl, rfl⟩ : lease.owner = client ∧ key = target := by simpa [not_or] using own
          cases other.symm.trans (if_pos ⟨rfl, rfl⟩)
      | create thing name =>
          obtain ⟨opened, opens, _, _⟩ := Store.openBucket_of_works works thing
          simp only [after, execute, respond, createCursor, opening, opens]
          rw [Registry.add, OrderedMap.get?_insert, if_neg fresh]
          exact held
      | read thing name start seconds limit =>
          obtain ⟨opened, opens, openedWorks, _⟩ := Store.openBucket_of_works works thing
          simp only [after, execute, respond, read, opening, opens,
            Store.lookup_of_works openedWorks]
          exact held

end

end History

end ValueHistory
