import ValueHistory.Proofs.Registry.Access

/-! Logs of what happens to a registry. A log tells which leases it grants: those that were added
and not released by their owner since, each with the deadline that its last renewal has given it.
-/

namespace ValueHistory.Registry

/-- What may happen to a registry. -/
inductive Event where
  | add (owner key : String) (cursor : Cursor) (lifespan : Nat)
  | get (owner key : String) (refresh : Bool)
  | release (owner key : String)
  | sweep

/-- What is answered to it. -/
inductive Reply where
  | added
  | got (answer : Except Failure Lease)
  | released (answer : Except Failure Unit)
  | swept (count : Nat)

/-- An event at a time with its reply. -/
structure Record where
  ticks : Nat
  event : Event
  reply : Reply

/-- The reply to an event, and the registry after it. -/
def react (registry : Registry) (ticks : Nat) : Event → Reply × Registry
  | .add owner key cursor lifespan => (.added, registry.add owner key cursor lifespan ticks)
  | .get owner key refresh =>
    ((registry.get owner key refresh ticks).map .got id)
  | .release owner key => ((registry.release owner key).map .released id)
  | .sweep => ((registry.sweep ticks).map .swept id)

/-- Whether an event adds a lease under a key. -/
def Event.Adds (key : String) (event : Event) : Prop :=
  ∃ owner cursor lifespan, event = .add owner key cursor lifespan

/-- The runs of a registry: events from the empty registry on, with the log that they leave. The
clock does not go back, and no key is given twice.
-/
inductive Run : List Record → Registry → Prop where
  | start : Run [] .empty
  | react {log : List Record} {registry : Registry} (run : Run log registry) {ticks : Nat}
      {event : Event} (later : ∀ record ∈ log, record.ticks ≤ ticks)
      (fresh : ∀ key, event.Adds key → ∀ record ∈ log, ¬record.event.Adds key)
    : Run (log ++ [⟨ticks, event, (registry.react ticks event).1⟩]) (registry.react ticks event).2

/-- Whether a record is one of a successful access by an owner that renews the lease of a key. -/
def Record.renews (owner key : String) (record : Record) : Bool :=
  match record.event, record.reply with
  | .get client target true, .got (.ok _) => client = owner ∧ target = key
  | _, _ => false

/-- The time from which a lease runs: that of the last renewal, or else the one at which it began.
-/
def renewedAt (owner key : String) (began : Nat) (log : List Record) : Nat :=
  ((log.filter fun record => record.renews owner key).map Record.ticks).getLastD began

/-- The lease that a log grants under a key: it was added, its owner has not released it since, and
it ends when its lifespan has gone by since the last renewal.
-/
def Granted (log : List Record) (key : String) (lease : Lease) : Prop :=
  ∃ earlier began later,
    log = earlier ++ ⟨began, .add lease.owner key lease.cursor lease.lifespan, .added⟩ :: later
    ∧ (∀ record ∈ later, record.event ≠ .release lease.owner key)
    ∧ lease.deadline = renewedAt lease.owner key began later + lease.lifespan

/-- Whether an owner has a lease under a key at a time. -/
def Live (log : List Record) (owner key : String) (ticks : Nat) : Prop :=
  ∃ lease, Granted log key lease ∧ lease.owner = owner ∧ ticks < lease.deadline

-----------------------------------------------------------------------------------------
-- What one more record changes
-----------------------------------------------------------------------------------------

theorem Record.renews_eq_true_iff {record : Record} {owner key : String}
    : record.renews owner key = true
      ↔ record.event = .get owner key true ∧ ∃ lease, record.reply = .got (.ok lease) := by
  obtain ⟨ticks, event, reply⟩ := record
  constructor
  · intro renewed
    simp only [renews] at renewed
    split at renewed
    · obtain ⟨rfl, rfl⟩ := of_decide_eq_true renewed
      exact ⟨rfl, _, rfl⟩
    · cases renewed
  · rintro ⟨rfl, lease, rfl⟩
    simp [renews]

theorem renewedAt_concat (owner key : String) (began : Nat) (log : List Record) (record : Record)
    : renewedAt owner key began (log ++ [record])
      = if record.renews owner key then record.ticks else renewedAt owner key began log := by
  rw [renewedAt, List.filter_append]
  split
  · next renewed => rw [List.filter_cons_of_pos renewed, List.filter_nil, List.map_append]; simp
  · next other => rw [List.filter_cons_of_neg other, List.filter_nil, List.append_nil, renewedAt]

/-- One more record grants the lease that it adds, and those granted before that it does not
release, with a new deadline where it renews them.
-/
theorem granted_concat {log : List Record} {record : Record} {key : String} {lease : Lease}
    : Granted (log ++ [record]) key lease
      ↔ (record = ⟨record.ticks, .add lease.owner key lease.cursor lease.lifespan, .added⟩
          ∧ lease.deadline = record.ticks + lease.lifespan)
        ∨ ∃ old,
            Granted log key old
            ∧ record.event ≠ .release old.owner key
            ∧ lease = old.accessed (record.renews old.owner key) record.ticks := by
  constructor
  · rintro ⟨earlier, began, later, split, unreleased, deadline⟩
    rcases List.eq_nil_or_concat later with rfl | ⟨middle, last, rfl⟩
    · obtain ⟨_, same⟩ := List.append_inj' split rfl
      cases same
      exact .inl ⟨rfl, deadline⟩
    · rw [List.concat_eq_append] at split unreleased deadline
      rw [← List.cons_append, ← List.append_assoc] at split
      obtain ⟨same, last⟩ := List.append_inj' split rfl
      cases last
      let old := { lease with deadline := renewedAt lease.owner key began middle + lease.lifespan }
      refine .inr ⟨old, ⟨earlier, began, middle, same, ?_, rfl⟩, ?_, ?_⟩
      · exact fun other member => unreleased other (List.mem_append_left _ member)
      · exact unreleased _ (List.mem_append_right _ List.mem_cons_self)
      · rw [renewedAt_concat] at deadline
        obtain ⟨owner, lifespan, ending, cursor⟩ := lease
        simp only [old, Lease.accessed] at deadline ⊢
        split at deadline <;> simp_all
  · intro granted
    rcases granted with
      ⟨added, deadline⟩ | ⟨old, ⟨earlier, began, later, rfl, unreleased, deadline⟩, kept, rfl⟩
    · exact ⟨log, record.ticks, [], by rw [← added], fun _ none => (nomatch none), deadline⟩
    · refine ⟨earlier, began, later ++ [record], by simp, fun other member => ?_, ?_⟩
      · rw [Lease.owner_accessed]
        rcases List.mem_append.mp member with before | last
        · exact unreleased other before
        · exact List.mem_singleton.mp last ▸ kept
      · rw [Lease.owner_accessed, Lease.lifespan_accessed, Lease.deadline_accessed,
          renewedAt_concat, deadline]
        split <;> rfl

section

variable {log : List Record} {ticks : Nat} {owner key other : String} {lease : Lease}
  {reply : Reply}

theorem exists_added (granted : Granted log key lease) : ∃ record ∈ log, record.event.Adds key := by
  obtain ⟨earlier, began, later, rfl, _⟩ := granted
  exact ⟨_, List.mem_append_right _ List.mem_cons_self, _, _, _, rfl⟩

/-- A record that neither adds nor releases a lease changes those that it renews. -/
theorem granted_concat_of_use {record : Record} (notAdded : ∀ key, ¬record.event.Adds key)
    (notReleased : ∀ owner key, record.event ≠ .release owner key)
    : Granted (log ++ [record]) key lease
      ↔ ∃ old,
          Granted log key old
          ∧ lease = old.accessed (record.renews old.owner key) record.ticks := by
  rw [granted_concat]
  constructor
  · rintro (⟨added, _⟩ | ⟨old, granted, _, same⟩)
    · exact absurd ⟨_, _, _, congrArg Record.event added⟩ (notAdded key)
    · exact ⟨old, granted, same⟩
  · rintro ⟨old, granted, same⟩
    exact .inr ⟨old, granted, notReleased _ _, same⟩

theorem granted_concat_of_idle {record : Record} (notAdded : ∀ key, ¬record.event.Adds key)
    (notReleased : ∀ owner key, record.event ≠ .release owner key)
    (notRenewed : ∀ owner key, record.renews owner key = false)
    : Granted (log ++ [record]) key lease ↔ Granted log key lease := by
  rw [granted_concat_of_use notAdded notReleased]
  simp only [notRenewed, Lease.accessed, Bool.false_eq_true, if_false, exists_eq_right']

theorem granted_concat_add {cursor : Cursor} {lifespan : Nat}
    : Granted (log ++ [⟨ticks, .add owner key cursor lifespan, .added⟩]) other lease
      ↔ (other = key ∧ lease = { owner, lifespan, deadline := ticks + lifespan, cursor })
        ∨ Granted log other lease := by
  rw [granted_concat]
  refine or_congr ?_ ?_
  · obtain ⟨leaseOwner, leaseLifespan, deadline, leaseCursor⟩ := lease
    simp only [Record.mk.injEq, Event.add.injEq, Lease.mk.injEq, true_and, and_true]
    constructor
    · rintro ⟨⟨rfl, rfl, rfl, rfl⟩, rfl⟩
      exact ⟨rfl, rfl, rfl, rfl, rfl⟩
    · rintro ⟨rfl, rfl, rfl, rfl, rfl⟩
      exact ⟨⟨rfl, rfl, rfl, rfl⟩, rfl⟩
  · constructor
    · rintro ⟨old, granted, _, rfl⟩
      exact granted
    · exact fun granted => ⟨lease, granted, (nomatch ·), rfl⟩

theorem granted_concat_release
    : Granted (log ++ [⟨ticks, .release owner key, reply⟩]) other lease
      ↔ Granted log other lease ∧ ¬(lease.owner = owner ∧ other = key) := by
  rw [granted_concat]
  constructor
  · rintro (⟨added, _⟩ | ⟨old, granted, kept, rfl⟩)
    · cases congrArg Record.event added
    · exact ⟨granted, fun ⟨own, same⟩ => kept (by rw [own, same])⟩
  · rintro ⟨granted, foreign⟩
    refine .inr ⟨lease, granted, fun released => foreign ?_, rfl⟩
    cases released
    exact ⟨rfl, rfl⟩

end

end ValueHistory.Registry
