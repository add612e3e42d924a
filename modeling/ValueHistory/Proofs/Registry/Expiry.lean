import Mathlib.Data.List.Induction
import ValueHistory.Proofs.Registry.Log

/-! Which leases a registry gives out. Whatever has happened to it, the log tells: a client gets the
cursor that it has a live lease of, another client learns that it may not use it, and all other keys
are unknown. A lease that is over stays over, and a sweep leaves the live leases.
-/

namespace ValueHistory.Registry

/-- A registry holds only leases that its log grants, and lacks of those only leases that are over.
-/
structure Reflects (log : List Record) (registry : Registry) : Prop where
  granted : ∀ {key lease}, registry.leases.get? key = some lease → Granted log key lease
  kept
    : ∀ {key lease},
        Granted log key lease
        → registry.leases.get? key = some lease ∨ ∃ record ∈ log, lease.deadline ≤ record.ticks
  unique : ∀ {key lease other}, Granted log key lease → Granted log key other → lease = other

namespace Reflects

variable {log : List Record} {registry : Registry}

theorem start : Reflects [] .empty := by
  have nothing {key : String} {lease : Lease} : ¬Granted [] key lease := by
    rintro ⟨earlier, _, _, split, _⟩
    cases earlier <;> cases split
  exact ⟨fun held => (nomatch held), fun granted => absurd granted nothing,
    fun granted => absurd granted nothing⟩

/-- What is kept goes on being kept, or is over, when a record is added to the log. -/
theorem kept_concat (reflects : Reflects log registry) (record : Record) {key : String}
    {lease : Lease} (granted : Granted log key lease)
    : registry.leases.get? key = some lease
      ∨ ∃ other ∈ log ++ [record], lease.deadline ≤ other.ticks :=
  (reflects.kept granted).imp_right fun ⟨other, member, lapsed⟩ =>
    ⟨other, List.mem_append_left _ member, lapsed⟩

theorem add (reflects : Reflects log registry) {key : String}
    (fresh : ∀ record ∈ log, ¬record.event.Adds key) (owner : String) (cursor : Cursor)
    (lifespan ticks : Nat)
    : Reflects (log ++ [⟨ticks, .add owner key cursor lifespan, .added⟩])
        (registry.add owner key cursor lifespan ticks) := by
  have other {target : String} {lease : Lease} (granted : Granted log target lease)
      : target ≠ key := by
    rintro rfl
    obtain ⟨record, member, adds⟩ := exists_added granted
    exact fresh record member adds
  have stored (target : String)
      : (registry.add owner key cursor lifespan ticks).leases.get? target
        = if target = key then some { owner, lifespan, deadline := ticks + lifespan, cursor }
          else registry.leases.get? target :=
    OrderedMap.get?_insert ..
  refine ⟨fun {target lease} held => ?_, fun {target lease} granted => ?_,
    fun {target lease another} granted grantedToo => ?_⟩
  · rw [stored] at held
    rw [granted_concat_add]
    split at held
    · next same => exact .inl ⟨same, (Option.some.inj held).symm⟩
    · exact .inr (reflects.granted held)
  · rw [stored]
    rcases granted_concat_add.mp granted with ⟨same, rfl⟩ | granted
    · exact .inl (if_pos same)
    · rw [if_neg (other granted)]
      exact reflects.kept_concat _ granted
  · rcases granted_concat_add.mp granted with ⟨same, rfl⟩ | granted
    · rcases granted_concat_add.mp grantedToo with ⟨_, rfl⟩ | grantedToo
      · rfl
      · exact absurd same (other grantedToo)
    · rcases granted_concat_add.mp grantedToo with ⟨same, _⟩ | grantedToo
      · exact absurd same (other granted)
      · exact reflects.unique granted grantedToo

/-- A record that changes no grant, and after which no lease is lost but those that are over. -/
theorem idle (reflects : Reflects log registry) {record : Record}
    (same : ∀ {key lease}, Granted (log ++ [record]) key lease ↔ Granted log key lease)
    {after : Registry}
    (held
      : ∀ {key lease},
          after.leases.get? key = some lease → registry.leases.get? key = some lease)
    (left
      : ∀ {key lease},
          registry.leases.get? key = some lease
          → after.leases.get? key = some lease ∨ lease.deadline ≤ record.ticks)
    : Reflects (log ++ [record]) after := by
  refine ⟨fun found => same.mpr (reflects.granted (held found)), fun granted => ?_,
    fun granted grantedToo => reflects.unique (same.mp granted) (same.mp grantedToo)⟩
  rcases reflects.kept_concat record (same.mp granted) with found | lapsed
  · refine (left found).imp_right fun lapsed => ⟨record, ?_, lapsed⟩
    exact List.mem_append_right _ List.mem_cons_self
  · exact .inr lapsed

/-- An access by the owner of a lease gives it its new deadline and leaves the others. -/
theorem renew (reflects : Reflects log registry) {key : String} {lease : Lease}
    (held : registry.leases.get? key = some lease) {refresh : Bool} {ticks : Nat}
    {after : Registry}
    (left
      : ∀ other,
          after.leases.get? other
          = if other = key then some (lease.accessed refresh ticks)
            else registry.leases.get? other)
    : Reflects
        (log
          ++ [⟨ticks, .get lease.owner key refresh, .got (.ok (lease.accessed refresh ticks))⟩])
        after := by
  have used {target : String} {other : Lease} :=
    @granted_concat_of_use log target other
      ⟨ticks, .get lease.owner key refresh, .got (.ok (lease.accessed refresh ticks))⟩
      (fun _ ⟨_, _, _, adds⟩ => nomatch adds) fun _ _ => (nomatch ·)
  generalize record
    : (⟨ticks, .get lease.owner key refresh, .got (.ok (lease.accessed refresh ticks))⟩ : Record)
      = last at used ⊢
  have own : last.renews lease.owner key = refresh := by
    cases refresh <;> simp [← record, Record.renews]
  have foreign {client target : String} (different : target ≠ key)
      : last.renews client target = false := by
    cases refresh <;> simp [← record, Record.renews, different.symm]
  have renewed {other : Lease}
      : Granted (log ++ [last]) key other ↔ other = lease.accessed refresh ticks := by
    rw [used]
    constructor
    · rintro ⟨old, granted, rfl⟩
      rw [← reflects.unique (reflects.granted held) granted, own, ← record]
    · rintro rfl
      exact ⟨lease, reflects.granted held, by rw [own, ← record]⟩
  have others {target : String} {other : Lease} (different : target ≠ key)
      : Granted (log ++ [last]) target other ↔ Granted log target other := by
    rw [used]
    simp only [foreign different, Lease.accessed, Bool.false_eq_true, if_false,
      exists_eq_right']
  refine ⟨fun {target other} found => ?_, fun {target other} granted => ?_,
    fun {target other another} granted grantedToo => ?_⟩
  · rw [left] at found
    split at found
    · next same => exact same ▸ renewed.mpr (Option.some.inj found).symm
    · next different => exact (others different).mpr (reflects.granted found)
  · rw [left]
    split
    · next same => exact .inl (congrArg some (renewed.mp (same ▸ granted)).symm)
    · next different => exact reflects.kept_concat last ((others different).mp granted)
  · by_cases same : target = key
    · subst same
      exact (renewed.mp granted).trans (renewed.mp grantedToo).symm
    · exact reflects.unique ((others same).mp granted) ((others same).mp grantedToo)

theorem get (reflects : Reflects log registry) (owner key : String) (refresh : Bool) (ticks : Nat)
    : Reflects
        (log ++ [⟨ticks, .get owner key refresh, .got (registry.get owner key refresh ticks).1⟩])
        (registry.get owner key refresh ticks).2 := by
  have access := registry.get_access owner key refresh ticks
  generalize registry.get owner key refresh ticks = result at access
  have refused (failure : Failure)
      : ∀ {target lease},
          Granted (log ++ [⟨ticks, .get owner key refresh, .got (.error failure)⟩]) target lease
          ↔ Granted log target lease := by
    refine granted_concat_of_idle (fun _ ⟨_, _, _, adds⟩ => nomatch adds) (fun _ _ => (nomatch ·))
      fun client target => ?_
    cases refresh <;> rfl
  cases access with
  | vacant absent => exact reflects.idle (refused _) id .inl
  | foreign held live other => exact reflects.idle (refused _) id .inl
  | expired held lapsed =>
      refine reflects.idle (refused _) (fun {target lease} found => ?_)
        fun {target lease} found => ?_
      · rw [OrderedMap.get?_erase] at found
        split at found
        · cases found
        · exact found
      · rw [OrderedMap.get?_erase]
        split
        · next same =>
          subst same
          cases held.symm.trans found
          exact .inr lapsed
        · exact .inl found
  | @own lease after held live same left =>
      subst same
      exact reflects.renew held left

theorem release (reflects : Reflects log registry) (owner key : String) (ticks : Nat)
    : Reflects (log ++ [⟨ticks, .release owner key, .released (registry.release owner key).1⟩])
        (registry.release owner key).2 := by
  have releasing := registry.release_releasing owner key
  generalize registry.release owner key = result at releasing
  have grantedBefore {reply : Reply} {target : String} {lease : Lease}
      (granted : Granted (log ++ [⟨ticks, .release owner key, reply⟩]) target lease) :=
    granted_concat_release.mp granted
  have unique {reply : Reply} {target : String} {lease other : Lease}
      (granted : Granted (log ++ [⟨ticks, .release owner key, reply⟩]) target lease)
      (grantedToo : Granted (log ++ [⟨ticks, .release owner key, reply⟩]) target other)
      : lease = other :=
    reflects.unique (grantedBefore granted).1 (grantedBefore grantedToo).1
  cases releasing with
  | vacant absent =>
      refine ⟨fun {target lease} found => ?_, fun granted => ?_, unique⟩
      · refine granted_concat_release.mpr ⟨reflects.granted found, fun ⟨_, same⟩ => ?_⟩
        cases absent.symm.trans (same ▸ found)
      · exact reflects.kept_concat _ (grantedBefore granted).1
  | foreign held other =>
      refine ⟨fun {target lease} found => ?_, fun granted => ?_, unique⟩
      · refine granted_concat_release.mpr ⟨reflects.granted found, fun ⟨own, same⟩ => ?_⟩
        cases held.symm.trans (same ▸ found)
        exact other own
      · exact reflects.kept_concat _ (grantedBefore granted).1
  | @own lease held same =>
      refine ⟨fun {target other} found => ?_, fun {target other} granted => ?_, unique⟩
      · rw [OrderedMap.get?_erase] at found
        split at found
        · cases found
        · next different =>
          refine granted_concat_release.mpr ⟨reflects.granted found, fun ⟨_, same⟩ => ?_⟩
          exact different same
      · obtain ⟨before, foreign⟩ := grantedBefore granted
        rw [OrderedMap.get?_erase]
        split
        · next equal =>
          subst equal
          cases reflects.unique (reflects.granted held) before
          exact absurd ⟨same, rfl⟩ foreign
        · exact reflects.kept_concat _ before

theorem sweep (reflects : Reflects log registry) (ticks : Nat)
    : Reflects (log ++ [⟨ticks, .sweep, .swept (registry.sweep ticks).1⟩])
        (registry.sweep ticks).2 := by
  refine reflects.idle ?_ (fun found => (get?_sweep_eq_some_iff.mp found).1)
    fun {key lease} found => ?_
  · exact granted_concat_of_idle (fun _ ⟨_, _, _, adds⟩ => nomatch adds) (fun _ _ => (nomatch ·))
      fun _ _ => rfl
  · rcases Nat.lt_or_ge ticks lease.deadline with live | lapsed
    · exact .inl (get?_sweep_eq_some_iff.mpr ⟨found, live⟩)
    · exact .inr lapsed

end Reflects

/-- The registry of a run reflects its log, by induction on the run. -/
theorem Run.reflects {log : List Record} {registry : Registry} (run : Run log registry)
    : Reflects log registry := by
  induction run with
  | start => exact .start
  | @react log registry _ ticks event _ fresh ih =>
      cases event with
      | add owner key cursor lifespan =>
          exact ih.add (fresh key ⟨_, _, _, rfl⟩) owner cursor lifespan ticks
      | get owner key refresh => exact ih.get owner key refresh ticks
      | release owner key => exact ih.release owner key ticks
      | sweep => exact ih.sweep ticks

/-- The last event of a run happened to the registry of the run before it. -/
theorem Run.exists_before {log : List Record} {record : Record} {registry : Registry}
    (run : Run (log ++ [record]) registry)
    : ∃ before,
        Run log before
        ∧ record.reply = (before.react record.ticks record.event).1
        ∧ (∀ other ∈ log, other.ticks ≤ record.ticks)
        ∧ ∀ key, record.event.Adds key → ∀ other ∈ log, ¬other.event.Adds key := by
  generalize whole : log ++ [record] = entire at run
  cases run with
  | start => simp at whole
  | @react _ before run ticks event later fresh =>
      obtain ⟨rfl, last⟩ := List.append_inj' whole rfl
      cases last
      exact ⟨before, run, rfl, later, fresh⟩

-----------------------------------------------------------------------------------------
-- Live leases
-----------------------------------------------------------------------------------------

section

variable {log : List Record} {registry : Registry} {ticks : Nat}

/-- The live leases of a log are those that the registry holds and that are not over. -/
theorem Reflects.live_iff (reflects : Reflects log registry)
    (now : ∀ record ∈ log, record.ticks ≤ ticks) {owner key : String}
    : Live log owner key ticks
      ↔ ∃ lease,
          registry.leases.get? key = some lease
          ∧ lease.owner = owner
          ∧ ticks < lease.deadline := by
  constructor
  · rintro ⟨lease, granted, own, live⟩
    rcases reflects.kept granted with held | ⟨record, member, lapsed⟩
    · exact ⟨lease, held, own, live⟩
    · have past := now record member
      omega
  · rintro ⟨lease, held, own, live⟩
    exact ⟨lease, reflects.granted held, own, live⟩

/-- What an access answers is told by the live lease of the key, if there is one. -/
theorem Reflects.get_answer (reflects : Reflects log registry)
    (now : ∀ record ∈ log, record.ticks ≤ ticks) (owner key : String) (refresh : Bool)
    : ((∃ lease, (registry.get owner key refresh ticks).1 = .ok lease) ∧ Live log owner key ticks
        ∧ ∀ other, Live log other key ticks → other = owner)
      ∨ ((registry.get owner key refresh ticks).1 = .error (.notAuthorized key)
        ∧ (∃ other, other ≠ owner ∧ Live log other key ticks)
        ∧ ¬Live log owner key ticks)
      ∨ ((registry.get owner key refresh ticks).1 = .error (.cursorNotFound key)
        ∧ ∀ other, ¬Live log other key ticks) := by
  have access := registry.get_access owner key refresh ticks
  generalize registry.get owner key refresh ticks = result at access
  simp only [reflects.live_iff now]
  cases access with
  | vacant absent =>
      refine .inr (.inr ⟨rfl, ?_⟩)
      rintro other ⟨lease, held, _⟩
      cases absent.symm.trans held
  | expired held lapsed =>
      refine .inr (.inr ⟨rfl, ?_⟩)
      rintro other ⟨lease, heldToo, _, live⟩
      cases held.symm.trans heldToo
      omega
  | foreign held live other =>
      refine .inr (.inl ⟨rfl, ⟨_, other, _, held, rfl, live⟩, ?_⟩)
      rintro ⟨lease, heldToo, own, _⟩
      cases held.symm.trans heldToo
      exact other own
  | own held live same left =>
      refine .inl ⟨⟨_, rfl⟩, ⟨_, held, same, live⟩, ?_⟩
      rintro other ⟨lease, heldToo, own, _⟩
      cases held.symm.trans heldToo
      exact own.symm.trans same

/-- A key that has no live lease at some time has none afterwards, by induction on what happens
after that time: a lease is only renewed while it is live, and no key is given twice.
-/
theorem not_live_of_lapsed {more : List Record} {past : Nat} {key : String}
    (run : Run (log ++ more) registry) (added : ∃ record ∈ log, record.event.Adds key)
    (later : ∀ record ∈ more, past ≤ record.ticks)
    (lapsed : ∀ owner, ¬Live log owner key past) (onward : past ≤ ticks) (owner : String)
    : ¬Live (log ++ more) owner key ticks := by
  induction more using List.reverseRecOn generalizing registry ticks with
  | nil =>
      rintro ⟨lease, granted, own, live⟩
      rw [List.append_nil] at granted
      exact lapsed owner ⟨lease, granted, own, Nat.lt_of_le_of_lt onward live⟩
  | append_singleton more record ih =>
      rw [← List.append_assoc] at run ⊢
      obtain ⟨before, runBefore, reply, chronological, fresh⟩ := run.exists_before
      have laterBefore : ∀ other ∈ more, past ≤ other.ticks := fun other member =>
        later other (List.mem_append_left _ member)
      have since := later record (List.mem_append_right _ List.mem_cons_self)
      rintro ⟨lease, granted, own, live⟩
      rcases granted_concat.mp granted with ⟨adds, _⟩ | ⟨old, grantedBefore, _, rfl⟩
      · obtain ⟨other, member, addsToo⟩ := added
        exact fresh key ⟨_, _, _, congrArg Record.event adds⟩ other
          (List.mem_append_left _ member) addsToo
      · rw [Lease.owner_accessed] at own
        subst own
        cases renewed : record.renews old.owner key with
        | false =>
            rw [renewed] at live
            exact ih runBefore laterBefore onward ⟨old, grantedBefore, rfl, live⟩
        | true =>
            obtain ⟨event, found, answered⟩ := Record.renews_eq_true_iff.mp renewed
            rw [event, answered] at reply
            have got : (before.get old.owner key true record.ticks).1 = .ok found :=
              (Reply.got.inj reply).symm
            rcases runBefore.reflects.get_answer chronological old.owner key true with
              ⟨_, alive, _⟩ | ⟨refused, _⟩ | ⟨missing, _⟩
            · exact ih runBefore laterBefore since alive
            · cases refused.symm.trans got
            · cases missing.symm.trans got

/-- An access that fails or does not renew changes no lease, and removes one only if it is over. -/
theorem get_unmoved {owner key : String} {refresh : Bool}
    (idle : refresh = false ∨ ∀ lease, (registry.get owner key refresh ticks).1 ≠ .ok lease)
    (other : String) (lease : Lease)
    : ((registry.get owner key refresh ticks).2.leases.get? other = some lease
        → registry.leases.get? other = some lease)
      ∧ (registry.leases.get? other = some lease
        → (registry.get owner key refresh ticks).2.leases.get? other = some lease
          ∨ lease.deadline ≤ ticks) := by
  have access := registry.get_access owner key refresh ticks
  generalize registry.get owner key refresh ticks = result at access idle
  cases access with
  | vacant absent => exact ⟨id, .inl⟩
  | foreign held live different => exact ⟨id, .inl⟩
  | expired held lapsed =>
      rw [OrderedMap.get?_erase]
      split
      · next same =>
        refine ⟨fun found => ?_, fun found => .inr ?_⟩
        · cases found
        · cases held.symm.trans (same ▸ found)
          exact lapsed
      · exact ⟨id, .inl⟩
  | own held live same left =>
      rcases idle with rfl | failed
      · rw [left]
        split
        · next equal => rw [equal, held]; exact ⟨id, .inl⟩
        · exact ⟨id, .inl⟩
      · exact absurd rfl (failed _)

end

/-- What the log of a run tells of its registry at a time. -/
structure ToldBy (log : List Record) (registry : Registry) (ticks : Nat) : Prop where
  /-- A client gets the cursor of a key if it has a live lease under the key. -/
  found
    : ∀ owner key refresh,
        (∃ lease, (registry.get owner key refresh ticks).1 = .ok lease)
        ↔ Live log owner key ticks
  /-- It is refused the cursor if another client has a live lease under the key. -/
  refused
    : ∀ owner key refresh,
        (registry.get owner key refresh ticks).1 = .error (.notAuthorized key)
        ↔ ∃ other, other ≠ owner ∧ Live log other key ticks
  /-- There is no cursor if nobody has a live lease under the key. -/
  missing
    : ∀ owner key refresh,
        (registry.get owner key refresh ticks).1 = .error (.cursorNotFound key)
        ↔ ∀ other, ¬Live log other key ticks
  /-- A key of which a lease was over once has no live lease any more. -/
  lapsed
    : ∀ earlier later past key,
        log = earlier ++ later
        → (∃ record ∈ earlier, record.event.Adds key)
        → (∀ record ∈ later, past ≤ record.ticks)
        → past ≤ ticks
        → (∀ owner, ¬Live earlier owner key past)
        → ∀ owner, ¬Live log owner key ticks
  /-- An access that fails or does not renew leaves every lease as it is, unless it is over. -/
  unmoved
    : ∀ owner key refresh,
        (refresh = false ∨ ∀ lease, (registry.get owner key refresh ticks).1 ≠ .ok lease)
        → ∀ other lease,
            ((registry.get owner key refresh ticks).2.leases.get? other = some lease
              → registry.leases.get? other = some lease)
            ∧ (registry.leases.get? other = some lease
              → (registry.get owner key refresh ticks).2.leases.get? other = some lease
                ∨ lease.deadline ≤ ticks)
  /-- A sweep leaves the leases that are granted and not over. -/
  swept
    : ∀ key lease,
        (registry.sweep ticks).2.leases.get? key = some lease
        ↔ Granted log key lease ∧ ticks < lease.deadline
  /-- A sweep counts what it removes. -/
  counted : (registry.sweep ticks).1 + (registry.sweep ticks).2.size = registry.size

/-- At every time after a run, the log of the run tells who gets the cursor of a key and what a
sweep leaves. Witness: a registry reflects its log after every record, by induction on the run.
-/
theorem registry_told_by_log {log : List Record} {registry : Registry} (run : Run log registry)
    {ticks : Nat} (now : ∀ record ∈ log, record.ticks ≤ ticks)
    : ToldBy log registry ticks := by
  have reflects := run.reflects
  have answer := reflects.get_answer now
  refine {
    found := fun owner key refresh => ?_
    refused := fun owner key refresh => ?_
    missing := fun owner key refresh => ?_
    lapsed := fun earlier later past key split added after onward lapsed => ?_
    unmoved := fun owner key refresh => get_unmoved
    swept := fun key lease => ?_
    counted := registry.sweep_count ticks
  }
  · rcases answer owner key refresh with ⟨got, live, _⟩ | ⟨got, _, dead⟩ | ⟨got, dead⟩
    · exact iff_of_true got live
    · exact iff_of_false (fun ⟨_, ok⟩ => nomatch got.symm.trans ok) dead
    · exact iff_of_false (fun ⟨_, ok⟩ => nomatch got.symm.trans ok) (dead owner)
  · rcases answer owner key refresh with ⟨⟨_, got⟩, _, only⟩ | ⟨got, live, _⟩ | ⟨got, dead⟩
    · refine iff_of_false (fun refused => nomatch got.symm.trans refused) ?_
      exact fun ⟨other, different, live⟩ => different (only other live)
    · exact iff_of_true got live
    · exact iff_of_false (fun refused => nomatch got.symm.trans refused)
        fun ⟨other, _, live⟩ => dead other live
  · rcases answer owner key refresh with ⟨⟨_, got⟩, live, _⟩ | ⟨got, ⟨_, _, live⟩, _⟩ | ⟨got, dead⟩
    · exact iff_of_false (fun missing => nomatch got.symm.trans missing) fun dead => dead _ live
    · exact iff_of_false (fun missing => nomatch got.symm.trans missing) fun dead => dead _ live
    · exact iff_of_true got dead
  · subst split
    exact not_live_of_lapsed run added after lapsed onward
  · rw [get?_sweep_eq_some_iff]
    refine ⟨fun ⟨held, live⟩ => ⟨reflects.granted held, live⟩, fun ⟨granted, live⟩ => ?_⟩
    rcases reflects.kept granted with held | ⟨record, member, past⟩
    · exact ⟨held, live⟩
    · have before := now record member
      omega

/-- A cursor of an owner that is kept for five ticks, and is used after three of them, is there
after seven ticks and gone after eight.
-/
theorem registry_told_after_use
    : ∃ log registry,
        Run log registry
        ∧ ToldBy log registry 7
        ∧ Live log "owner" "key" 7
        ∧ ToldBy log registry 8
        ∧ ¬Live log "owner" "key" 8 := by
  have added : Run _ _ :=
    @Run.react _ _ .start 0 (.add "owner" "key" (.opened "lamp" none) 5)
      (fun _ none => (nomatch none))
      fun _ _ _ none => (nomatch none)
  have used : Run _ _ :=
    @Run.react _ _ added 3 (.get "owner" "key" true) (by decide)
      fun _ ⟨_, _, _, adds⟩ => nomatch adds
  have seven := @registry_told_by_log _ _ used 7 (by decide)
  have eight := @registry_told_by_log _ _ used 8 (by decide)
  refine ⟨_, _, used, seven, ?_, eight, ?_⟩
  · exact (seven.found "owner" "key" false).mp ⟨_, rfl⟩
  · exact (eight.missing "owner" "key" false).mp rfl "owner"

end ValueHistory.Registry
