import ValueHistory.Proofs.OrderedMap.Entries
import ValueHistory.Registry

/-! How leases are accessed and ended. An access finds no lease, or one that is over and removes it,
or that of another client, or it gets its own and may renew it. A lease is looked at for its time
before it is looked at for its owner.
-/

namespace ValueHistory

/-- A lease after its owner has accessed it, with a new deadline where it is renewed. -/
def Lease.accessed (lease : Lease) (refresh : Bool) (ticks : Nat) : Lease :=
  if refresh then { lease with deadline := ticks + lease.lifespan } else lease

namespace Lease

variable (lease : Lease) (refresh : Bool) (ticks : Nat)

@[simp]
theorem owner_accessed : (lease.accessed refresh ticks).owner = lease.owner := by
  cases refresh <;> rfl

@[simp]
theorem lifespan_accessed : (lease.accessed refresh ticks).lifespan = lease.lifespan := by
  cases refresh <;> rfl

@[simp]
theorem cursor_accessed : (lease.accessed refresh ticks).cursor = lease.cursor := by
  cases refresh <;> rfl

@[simp]
theorem deadline_accessed
    : (lease.accessed refresh ticks).deadline
      = if refresh then ticks + lease.lifespan else lease.deadline := by
  cases refresh <;> rfl

theorem isExpired_eq_true_iff : lease.isExpired ticks = true ↔ lease.deadline ≤ ticks :=
  decide_eq_true_iff

theorem isExpired_eq_false_iff : lease.isExpired ticks = false ↔ ticks < lease.deadline := by
  rw [isExpired, decide_eq_false_iff_not, Nat.not_le]

end Lease

namespace Registry

variable {registry : Registry} {owner key : String} {refresh : Bool} {ticks : Nat}

/-- What an access to a key answers, and what it leaves. -/
inductive Access (registry : Registry) (owner key : String) (refresh : Bool) (ticks : Nat)
    : Except Failure Lease × Registry → Prop where
  | vacant (absent : registry.leases.get? key = none)
    : Access registry owner key refresh ticks (.error (.cursorNotFound key), registry)
  | expired {lease : Lease} (held : registry.leases.get? key = some lease)
      (lapsed : lease.deadline ≤ ticks)
    : Access registry owner key refresh ticks
        (.error (.cursorNotFound key), ⟨registry.leases.erase key⟩)
  | foreign {lease : Lease} (held : registry.leases.get? key = some lease)
      (live : ticks < lease.deadline) (other : lease.owner ≠ owner)
    : Access registry owner key refresh ticks (.error (.notAuthorized key), registry)
  | own {lease : Lease} {after : Registry} (held : registry.leases.get? key = some lease)
      (live : ticks < lease.deadline) (same : lease.owner = owner)
      (left
        : ∀ other,
            after.leases.get? other
            = if other = key then some (lease.accessed refresh ticks)
              else registry.leases.get? other)
    : Access registry owner key refresh ticks (.ok (lease.accessed refresh ticks), after)

theorem get_access (registry : Registry) (owner key : String) (refresh : Bool) (ticks : Nat)
    : Access registry owner key refresh ticks (registry.get owner key refresh ticks) := by
  rw [get]
  cases held : registry.leases.get? key with
  | none => exact .vacant held
  | some lease =>
      by_cases lapsed : lease.isExpired ticks = true
      · simp only [if_pos lapsed]
        exact .expired held ((lease.isExpired_eq_true_iff ticks).mp lapsed)
      · have live := (lease.isExpired_eq_false_iff ticks).mp (Bool.eq_false_iff.mpr lapsed)
        simp only [if_neg lapsed]
        by_cases same : lease.owner = owner
        · simp only [if_neg (not_not_intro same)]
          cases refresh with
          | true => exact .own held live same fun other => OrderedMap.get?_insert ..
          | false =>
              refine .own held live same fun other => ?_
              split
              · next equal => rw [equal, held]; rfl
              · rfl
        · simp only [if_pos same]
          exact .foreign held live same

theorem get_of_vacant (vacant : registry.leases.get? key = none) (client : String)
    (refresh : Bool) (ticks : Nat)
    : registry.get client key refresh ticks = (.error (.cursorNotFound key), registry) := by
  rw [get, vacant]

theorem get_of_foreign {lease : Lease} (held : registry.leases.get? key = some lease)
    {ticks : Nat} (live : lease.isExpired ticks = false) {client : String}
    (foreign : lease.owner ≠ client) (refresh : Bool)
    : registry.get client key refresh ticks = (.error (.notAuthorized key), registry) := by
  simp only [get, held, live, Bool.false_eq_true, if_false]
  exact if_pos foreign

/-- What a release of a key answers, and what it leaves. -/
inductive Releasing (registry : Registry) (owner key : String)
    : Except Failure Unit × Registry → Prop where
  | vacant (absent : registry.leases.get? key = none)
    : Releasing registry owner key (.ok (), registry)
  | foreign {lease : Lease} (held : registry.leases.get? key = some lease)
      (other : lease.owner ≠ owner)
    : Releasing registry owner key (.error (.notAuthorized key), registry)
  | own {lease : Lease} (held : registry.leases.get? key = some lease)
      (same : lease.owner = owner)
    : Releasing registry owner key (.ok (), ⟨registry.leases.erase key⟩)

theorem release_releasing (registry : Registry) (owner key : String)
    : Releasing registry owner key (registry.release owner key) := by
  rw [release]
  cases held : registry.leases.get? key with
  | none => exact .vacant held
  | some lease =>
      by_cases same : lease.owner = owner
      · simp only [if_neg (not_not_intro same)]
        exact .own held same
      · simp only [if_pos same]
        exact .foreign held same

theorem release_of_vacant (vacant : registry.leases.get? key = none) (client : String)
    : registry.release client key = (.ok (), registry) := by
  rw [release, vacant]

theorem release_of_foreign {lease : Lease} (held : registry.leases.get? key = some lease)
    {client : String} (foreign : lease.owner ≠ client)
    : registry.release client key = (.error (.notAuthorized key), registry) := by
  simp only [release, held]
  exact if_pos foreign

/-- What a sweep leaves are the leases that are not over. -/
theorem get?_sweep (registry : Registry) (ticks : Nat) (key : String)
    : (registry.sweep ticks).2.leases.get? key
      = (registry.leases.get? key).filter fun lease => !lease.isExpired ticks :=
  registry.leases.get?_filter _ key

theorem get?_sweep_eq_some_iff {lease : Lease}
    : (registry.sweep ticks).2.leases.get? key = some lease
      ↔ registry.leases.get? key = some lease ∧ ticks < lease.deadline := by
  rw [get?_sweep, Option.filter_eq_some_iff, Bool.not_eq_true', Lease.isExpired_eq_false_iff]

/-- A sweep counts the leases that it removes. -/
theorem sweep_count (registry : Registry) (ticks : Nat)
    : (registry.sweep ticks).1 + (registry.sweep ticks).2.size = registry.size :=
  Nat.sub_add_cancel (List.length_filter_le ..)

section

variable {target client : String} {lease : Lease}

/-- An access to another key, or by another client, leaves a lease that is not over as it is. -/
theorem get_spares (held : registry.leases.get? key = some lease) (live : ticks < lease.deadline)
    (other : lease.owner ≠ client ∨ key ≠ target) (refresh : Bool)
    : (registry.get client target refresh ticks).2.leases.get? key = some lease := by
  have access := registry.get_access client target refresh ticks
  generalize registry.get client target refresh ticks = result at access
  cases access with
  | vacant _ => exact held
  | foreign _ _ _ => exact held
  | expired heldToo lapsed =>
      rw [OrderedMap.get?_erase]
      split
      · next same =>
          cases held.symm.trans (same ▸ heldToo)
          omega
      · exact held
  | own heldToo _ same left =>
      rw [left]
      split
      · next equal =>
          cases held.symm.trans (equal ▸ heldToo)
          exact absurd equal (other.resolve_left (not_not_intro same))
      · exact held

/-- A release of another key, or by another client, leaves a lease as it is. -/
theorem release_spares (held : registry.leases.get? key = some lease)
    (other : lease.owner ≠ client ∨ key ≠ target)
    : (registry.release client target).2.leases.get? key = some lease := by
  have releasing := registry.release_releasing client target
  generalize registry.release client target = result at releasing
  cases releasing with
  | vacant _ => exact held
  | foreign _ _ => exact held
  | own heldToo same =>
      rw [OrderedMap.get?_erase]
      split
      · next equal =>
          cases held.symm.trans (equal ▸ heldToo)
          exact absurd equal (other.resolve_left (not_not_intro same))
      · exact held

end

end Registry

end ValueHistory
