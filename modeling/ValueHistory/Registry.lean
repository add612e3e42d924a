import ValueHistory.Cursor.Basic
import ValueHistory.Failure

/-! The registry of cursors that clients keep between requests. Each cursor is leased to its owner
for a span of time that every use begins anew; after it the cursor is gone, whether or not it has
been swept out by then. Clock readings and spans are in nanoseconds.
-/

namespace ValueHistory

/-- A cursor in the hands of a client. -/
structure Lease where
  owner : String
  lifespan : Nat
  deadline : Nat
  cursor : Cursor
deriving DecidableEq, Repr

/-- Whether the time of a lease is over. -/
def Lease.isExpired (lease : Lease) (ticks : Nat) : Bool :=
  lease.deadline ≤ ticks

/-- The leases under the keys of their cursors. -/
structure Registry where
  leases : OrderedMap String Lease

namespace Registry

/-- The registry without leases. -/
def empty : Registry := ⟨.empty⟩

/-- The number of leases, expired ones that nobody met since included. -/
def size (registry : Registry) : Nat :=
  registry.leases.size

/-- Leases a cursor under a key. -/
def add (registry : Registry) (owner key : String) (cursor : Cursor) (lifespan ticks : Nat)
    : Registry :=
  ⟨registry.leases.insert key { owner, lifespan, deadline := ticks + lifespan, cursor }⟩

/-- The lease of a key for its owner, on demand with a new deadline. An expired one is removed and
answered for as if it had never been, before the owner is looked at.
-/
def get (registry : Registry) (owner key : String) (refresh : Bool) (ticks : Nat)
    : Except Failure Lease × Registry :=
  match registry.leases.get? key with
  | none => (.error (.cursorNotFound key), registry)
  | some lease =>
    if lease.isExpired ticks then (.error (.cursorNotFound key), ⟨registry.leases.erase key⟩)
    else if lease.owner ≠ owner then (.error (.notAuthorized key), registry)
    else if refresh then
      let lease := { lease with deadline := ticks + lease.lifespan }
      (.ok lease, ⟨registry.leases.insert key lease⟩)
    else (.ok lease, registry)

/-- Keeps a cursor as it is after a use. -/
def keep (registry : Registry) (key : String) (lease : Lease) (cursor : Cursor) : Registry :=
  ⟨registry.leases.insert key { lease with cursor }⟩

/-- Ends the lease of a key. Nothing happens where there is none; a lease of another owner stays. -/
def release (registry : Registry) (owner key : String) : Except Failure Unit × Registry :=
  match registry.leases.get? key with
  | none => (.ok (), registry)
  | some lease =>
    if lease.owner ≠ owner then (.error (.notAuthorized key), registry)
    else (.ok (), ⟨registry.leases.erase key⟩)

/-- Removes every expired lease, and counts them. -/
def sweep (registry : Registry) (ticks : Nat) : Nat × Registry :=
  let swept : Registry := ⟨registry.leases.filter fun entry => !entry.2.isExpired ticks⟩
  (registry.size - swept.size, swept)

end Registry

end ValueHistory
