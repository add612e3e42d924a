import ValueHistory.Proofs.Registry.Access
import ValueHistory.Service.Request

/-! What a client learns of the cursors of others. Every call on a cursor that it does not own is
answered as if there were no such cursor, but for the release: it fails on the cursor of another
client, and succeeds where there is none.
-/

namespace ValueHistory

namespace History

variable {history : History} {moment : Moment} {client key : String}

/-- A cursor whose lease is refused is not used, and the refusal is the answer. -/
theorem withCursor_of_refused {failure : Failure}
    (refused : (history.registry.get client key true moment.ticks).1 = .error failure) {α : Type}
    (use : Cursor → Lookup → α × Cursor)
    : (history.withCursor moment client key use).1 = .error failure := by
  cases answer : history.registry.get client key true moment.ticks with
  | mk found registry =>
      rw [answer] at refused
      cases refused
      rw [withCursor, answer]

/-- An answer that is a failure is the response of a failure. -/
theorem dispatch_of_failure (request : Request) {failure : Failure}
    (failed : (history.execute moment client request).1 = .error failure)
    : (history.dispatch moment client request).1 = .ofFailure failure := by
  cases outcome : history.execute moment client request with
  | mk answer after =>
      rw [outcome] at failed
      cases failed
      rw [dispatch, outcome]

/-- A call other than a release on a cursor whose lease is refused fails with the refusal. -/
theorem call_of_refused {failure : Failure}
    (refused : (history.registry.get client key true moment.ticks).1 = .error failure)
    {call : CursorCall} (uses : call ≠ .release)
    : (history.call moment client key call).1 = .error failure := by
  cases call with
  | release => exact absurd rfl uses
  | first | last | next | prev | page | seek =>
      exact congrArg (Except.map _) (withCursor_of_refused refused _)

/-- The response to a release is told by the registry alone. -/
theorem dispatch_release (history : History) (moment : Moment) (client key : String)
    : (history.dispatch moment client (.onCursor key .release)).1
      = match (history.registry.release client key).1 with
        | .ok _ => .released
        | .error failure => .ofFailure failure := by
  cases answer : history.registry.release client key with
  | mk released registry =>
      have executed
          : history.execute moment client (.onCursor key .release)
            = (released.map fun _ => .released, { history with registry }) := by
        simp only [execute, call, respond, releaseCursor, answer]
      cases released <;> rw [dispatch, executed] <;> rfl

/-- A client cannot tell the live cursor of another client from none at all by any call on it,
except by a release: this one fails for the cursor and succeeds where there is none. Witness: the
registry refuses the key before the call is looked at, and the two refusals are one response.
-/
theorem foreign_cursor_disclosed_by_release {lease : Lease}
    (held : history.registry.leases.get? key = some lease)
    (live : lease.isExpired moment.ticks = false) (foreign : lease.owner ≠ client)
    {without : History} (vacant : without.registry.leases.get? key = none) (call : CursorCall)
    : (history.dispatch moment client (.onCursor key call)).1
        = (without.dispatch moment client (.onCursor key call)).1
      ↔ call ≠ .release := by
  have refused := congrArg Prod.fst
    (Registry.get_of_foreign held live foreign true)
  have missing := congrArg Prod.fst
    (Registry.get_of_vacant vacant client true moment.ticks)
  constructor
  · rintro same rfl
    rw [dispatch_release, dispatch_release, Registry.release_of_foreign held foreign,
      Registry.release_of_vacant vacant] at same
    cases same
  · intro uses
    rw [dispatch_of_failure (.onCursor key call) (call_of_refused refused uses),
      dispatch_of_failure (.onCursor key call) (call_of_refused missing uses)]
    rfl

/-- A history in memory without cursors. -/
def withoutCursors : History := { store := .inMemory .empty, keys := toString }

/-- The history after an owner has asked for a cursor on a lamp. -/
def withCursorOnLamp : History :=
  (withoutCursors.createCursor ⟨.epoch, 0⟩ "owner" "lamp" none).2

/-- A stranger finds out about the cursor on the lamp by a release of it. -/
theorem lamp_cursor_disclosed
    : (withCursorOnLamp.dispatch ⟨.epoch, 1⟩ "stranger" (.onCursor "0" .next)).1
        = (withoutCursors.dispatch ⟨.epoch, 1⟩ "stranger" (.onCursor "0" .next)).1
      ∧ (withCursorOnLamp.dispatch ⟨.epoch, 1⟩ "stranger" (.onCursor "0" .release)).1
        ≠ (withoutCursors.dispatch ⟨.epoch, 1⟩ "stranger" (.onCursor "0" .release)).1 := by
  have held
      : withCursorOnLamp.registry.leases.get? "0"
        = some ⟨"owner", defaultLifespan, defaultLifespan, .opened "lamp" none⟩ := rfl
  have told (call : CursorCall)
      : (withCursorOnLamp.dispatch ⟨.epoch, 1⟩ "stranger" (.onCursor "0" call)).1
          = (withoutCursors.dispatch ⟨.epoch, 1⟩ "stranger" (.onCursor "0" call)).1
        ↔ call ≠ .release :=
    foreign_cursor_disclosed_by_release held rfl (by decide) rfl call
  exact ⟨(told .next).mpr (by decide), fun same => (told .release).mp same rfl⟩

end History

end ValueHistory
