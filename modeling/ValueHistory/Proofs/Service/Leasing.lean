import ValueHistory.Proofs.Service.Events

/-! A leased cursor is as good as a private one. As long as its owner uses it within its lifespan
and does not release it, the owner gets the answers of a cursor of its own on the same values,
whatever other clients do in between.
-/

namespace ValueHistory

-----------------------------------------------------------------------------------------
-- Private cursors
-----------------------------------------------------------------------------------------

/-- A cursor that no client knows of, on a history that no client makes requests to. -/
structure Reader where
  history : History
  cursor : Cursor

namespace Reader

/-- What happens to a reader: a call on its cursor, or a value that is added to its history. -/
inductive Step where
  | call (call : CursorCall)
  | add (value : Observation)

/-- The entries that the cursor moves over. -/
def bucket (reader : Reader) : Bucket :=
  reader.history.store.bucket reader.cursor.selection.thing

/-- The response to a call, and the reader after it. -/
def call (reader : Reader) (moment : Moment) (call : CursorCall) : Response × Reader :=
  (call.use moment reader.history.defaultLimit reader.cursor (.ofBucket reader.bucket)).map id
    fun cursor => { reader with cursor }

/-- The reader after a value has been added. -/
def add (reader : Reader) (moment : Moment) (value : Observation) : Reader :=
  { reader with history := (reader.history.add moment value).2 }

/-- The responses to the calls among steps. -/
def answers (reader : Reader) : List (Moment × Step) → List Response
  | [] => []
  | (moment, .call call) :: steps =>
    (reader.call moment call).1 :: (reader.call moment call).2.answers steps
  | (moment, .add value) :: steps => (reader.add moment value).answers steps

end Reader

namespace History

-----------------------------------------------------------------------------------------
-- Runs of events, as a client sees them
-----------------------------------------------------------------------------------------

/-- Events with their moments, in the order in which they happen. -/
abbrev Course := List (Moment × Event)

/-- The answers that a client gets to its calls on a key. -/
def answers (history : History) (client key : String) : Course → List (Except Failure Response)
  | [] => []
  | (moment, event) :: run =>
    match event.callOn? client key with
    | some call =>
      (history.call moment client key call).1 :: (history.after moment event).answers client key run
    | none => (history.after moment event).answers client key run

/-- What an event means to a reader in the place of a client's cursor. -/
def Event.step? (client key : String) : Event → Option Reader.Step
  | .add value => some (.add value)
  | event => (event.callOn? client key).map .call

/-- What a run means to a reader in the place of a client's cursor: its calls and the additions. -/
def steps (client key : String) (run : Course) : List (Moment × Reader.Step) :=
  run.filterMap fun timed => (timed.2.step? client key).map (timed.1, ·)

/-- The times at which a client makes calls on a key. -/
def uses (client key : String) (run : Course) : List Nat :=
  (run.filter fun timed => (timed.2.callOn? client key).isSome).map fun timed => timed.1.ticks

/-- A client keeps a lease through a run: the clock does not go back, the client does not release
the lease, and it uses it each time before the lifespan has gone by since the last use.
-/
structure Keeps (client key : String) (lifespan since : Nat) (run : Course) : Prop where
  chronological : (since :: run.map fun timed => timed.1.ticks).Pairwise (· ≤ ·)
  unreleased : ∀ timed ∈ run, timed.2.callOn? client key ≠ some .release
  renewed : (since :: uses client key run).IsChain fun last use => use < last + lifespan

section

variable {client key : String} {lifespan since : Nat} {moment : Moment} {event : Event}
  {run : Course} {call : CursorCall}

theorem steps_call (own : event.callOn? client key = some call)
    : steps client key ((moment, event) :: run)
      = (moment, .call call) :: steps client key run := by
  obtain rfl := Event.callOn?_eq_some_iff.mp own
  have step : (Event.request client (.onCursor key call)).step? client key = some (.call call) :=
    congrArg (Option.map Reader.Step.call) own
  exact List.filterMap_cons_some (by rw [step]; rfl)

theorem steps_add (value : Observation)
    : steps client key ((moment, .add value) :: run)
      = (moment, .add value) :: steps client key run :=
  rfl

theorem uses_call (own : event.callOn? client key = some call)
    : uses client key ((moment, event) :: run) = moment.ticks :: uses client key run := by
  rw [uses, List.filter_cons_of_pos (by rw [own]; rfl)]
  rfl

theorem uses_other (other : event.callOn? client key = none)
    : uses client key ((moment, event) :: run) = uses client key run := by
  rw [uses, List.filter_cons_of_neg (by rw [other]; exact Bool.false_ne_true)]
  rfl

theorem mem_of_mem_uses {ticks : Nat} (used : ticks ∈ uses client key run)
    : ticks ∈ run.map fun timed => timed.1.ticks :=
  List.map_subset _ (List.filter_subset_self _) used

/-- A lease that is kept is not over at the first use, and is kept on from then on. -/
theorem Keeps.of_call (keeps : Keeps client key lifespan since ((moment, event) :: run))
    (own : event.callOn? client key = some call)
    : moment.ticks < since + lifespan
      ∧ call ≠ .release
      ∧ Keeps client key lifespan moment.ticks run := by
  obtain ⟨chronological, unreleased, renewed⟩ := keeps
  rw [uses_call own] at renewed
  obtain ⟨soon, later⟩ := List.isChain_cons_cons.mp renewed
  refine ⟨soon, fun same => ?_, (List.pairwise_cons.mp chronological).2, ?_, later⟩
  · exact unreleased _ List.mem_cons_self (same ▸ own)
  · exact fun timed member => unreleased timed (List.mem_cons_of_mem _ member)

/-- A lease that is kept is not over at any event before its last use. -/
theorem Keeps.of_other (keeps : Keeps client key lifespan since ((moment, event) :: run))
    (other : event.callOn? client key = none)
    : (uses client key run = [] ∨ moment.ticks < since + lifespan)
      ∧ Keeps client key lifespan since run := by
  obtain ⟨chronological, unreleased, renewed⟩ := keeps
  rw [uses_other other] at renewed
  obtain ⟨_, ordered⟩ := List.pairwise_cons.mp chronological
  refine ⟨?_, chronological.sublist ((List.sublist_cons_self _ _).cons_cons _), ?_, renewed⟩
  · cases used : uses client key run with
    | nil => exact .inl rfl
    | cons first later =>
        rw [used] at renewed
        have soon := (List.isChain_cons_cons.mp renewed).1
        have member := mem_of_mem_uses (used ▸ List.mem_cons_self : first ∈ uses client key run)
        have before : moment.ticks ≤ first := (List.pairwise_cons.mp ordered).1 first member
        exact .inr (by omega)
  · exact fun timed member => unreleased timed (List.mem_cons_of_mem _ member)

end

-----------------------------------------------------------------------------------------
-- The lease and the private cursor side by side
-----------------------------------------------------------------------------------------

/-- A reader mirrors a client's lease that began anew at a time: both move the same cursor over the
same values, and the key is not given out again.
-/
structure Mirrors (reader : Reader) (history : History) (client key : String)
    (lifespan since : Nat) : Prop where
  works : history.store.Works
  readerWorks : reader.history.store.Works
  contents : ∀ thing, history.store.bucket thing = reader.history.store.bucket thing
  limit : history.defaultLimit = reader.history.defaultLimit
  distinct : Function.Injective history.keys
  issued : ∃ number < history.issued, history.keys number = key
  held
    : history.registry.leases.get? key
      = some { owner := client, lifespan, deadline := since + lifespan, cursor := reader.cursor }

namespace Mirrors

variable {reader : Reader} {history : History} {client key : String} {lifespan since : Nat}
  {moment : Moment}

theorem fresh (mirrors : Mirrors reader history client key lifespan since)
    : key ≠ history.keys history.issued := by
  obtain ⟨number, before, same⟩ := mirrors.issued
  rw [← same]
  exact fun equal => absurd (mirrors.distinct equal) (Nat.ne_of_lt before)

/-- A call of the client is answered as by the reader, and begins the lease anew. -/
theorem call (mirrors : Mirrors reader history client key lifespan since)
    (live : moment.ticks < since + lifespan) {call : CursorCall} (uses : call ≠ .release)
    : (history.call moment client key call).1 = .ok (reader.call moment call).1
      ∧ Mirrors (reader.call moment call).2
          (history.after moment (.request client (.onCursor key call))) client key lifespan
          moment.ticks := by
  obtain ⟨works, readerWorks, contents, limit, distinct, issued, held⟩ := mirrors
  have moved
      : call.use moment history.defaultLimit reader.cursor
          (.ofBucket (history.store.bucket reader.cursor.selection.thing))
        = ((reader.call moment call).1, (reader.call moment call).2.cursor) := by
    rw [limit, contents]
    rfl
  obtain ⟨registry, answered, left⟩ := withCursor_of_own works held live _ moved
  rw [← call_eq_withCursor history moment client key uses] at answered
  have after
      : history.after moment (.request client (.onCursor key call)) = { history with registry } :=
    congrArg Prod.snd answered
  rw [answered, after]
  exact ⟨rfl, works, readerWorks, contents, limit, distinct, issued, left⟩

/-- A value that is added to both is stored in both. -/
theorem add (mirrors : Mirrors reader history client key lifespan since)
    (value : Observation)
    : Mirrors (reader.add moment value) (history.after moment (.add value)) client key lifespan
        since := by
  obtain ⟨works, readerWorks, contents, limit, distinct, issued, held⟩ := mirrors
  have stored := works_add works moment value
  have readerStored := works_add readerWorks moment value
  have same := bucket_add works readerWorks contents moment value
  obtain ⟨store, left⟩ := history.exists_add moment value
  obtain ⟨readerStore, readerLeft⟩ := reader.history.exists_add moment value
  rw [after, Reader.add]
  rw [left] at stored same ⊢
  rw [readerLeft] at readerStored same ⊢
  exact ⟨stored, readerStored, same, limit, distinct, issued, held⟩

/-- What others do before the lease is over does not concern the reader. -/
theorem other (mirrors : Mirrors reader history client key lifespan since)
    (live : moment.ticks < since + lifespan) {event : Event}
    (unconcerned : event.step? client key = none)
    : Mirrors reader (history.after moment event) client key lifespan since := by
  have fresh := mirrors.fresh
  obtain ⟨works, readerWorks, contents, limit, distinct, ⟨number, before, same⟩, held⟩ := mirrors
  have continues : Continues history (history.after moment event) := by
    cases event with
    | add value => cases unconcerned
    | sweep => exact .of_registry works _
    | request caller request => exact .execute works moment caller request
  have notOwn : event.callOn? client key = none := by
    cases event with
    | add value => rfl
    | sweep => rfl
    | request caller request => exact Option.map_eq_none_iff.mp unconcerned
  have spared := after_spares works held live fresh notOwn
  exact {
    works := continues.works
    readerWorks
    contents := fun thing => (continues.contents thing).trans (contents thing)
    limit := continues.limit.trans limit
    distinct := continues.keys ▸ distinct
    issued := ⟨number, Nat.lt_of_lt_of_le before continues.issued, continues.keys ▸ same⟩
    held := spared
  }

end Mirrors

/-- The answers of a run are those of the reader, by induction on the run. The reader need not
mirror the lease any more when no use is left, since then it may be over.
-/
theorem answers_of_mirrors {reader : Reader} {history : History} {client key : String}
    {lifespan since : Nat} {run : Course} (keeps : Keeps client key lifespan since run)
    (mirrors : uses client key run = [] ∨ Mirrors reader history client key lifespan since)
    : history.answers client key run
      = (reader.answers (steps client key run)).map .ok := by
  induction run generalizing history reader since with
  | nil => rfl
  | cons timed run ih =>
      obtain ⟨moment, event⟩ := timed
      rw [answers]
      cases own : event.callOn? client key with
      | some call =>
          obtain ⟨live, uses, keepsOn⟩ := keeps.of_call own
          rw [uses_call own] at mirrors
          have mirrors := mirrors.resolve_left (List.cons_ne_nil _ _)
          obtain ⟨answered, mirrorsOn⟩ := mirrors.call live uses
          rw [steps_call own, Reader.answers, List.map_cons, ← answered]
          obtain rfl := Event.callOn?_eq_some_iff.mp own
          exact congrArg _ (ih keepsOn (.inr mirrorsOn))
      | none =>
          obtain ⟨live, keepsOn⟩ := keeps.of_other own
          rw [uses_other own] at mirrors
          cases concern : event.step? client key with
          | none =>
              have skipped : steps client key ((moment, event) :: run) = steps client key run :=
                List.filterMap_cons_none (by rw [concern]; rfl)
              rw [skipped]
              refine ih keepsOn ?_
              rcases live with unused | live
              · exact .inl unused
              · exact mirrors.imp_right fun mirrors => mirrors.other live concern
          | some step =>
              cases event with
              | sweep => cases concern
              | request caller request => cases concern.symm.trans (congrArg (Option.map _) own)
              | add value =>
                  rw [steps_add, Reader.answers]
                  exact ih keepsOn (mirrors.imp_right fun mirrors => mirrors.add value)

/-- A fresh lease is mirrored by a fresh reader. -/
theorem mirrors_created {history leased : History} {moment : Moment}
    {client thing key : String} {name : Option String}
    (distinct : Function.Injective history.keys)
    (created : history.createCursor moment client thing name = (.ok key, leased))
    : Mirrors ⟨history, .opened thing name⟩ leased client key history.lifespan moment.ticks := by
  rw [createCursor, opening] at created
  cases opens : history.store.openBucket thing with
  | error failure =>
      rw [opens] at created
      cases created
  | ok opened =>
      have works := Store.works_of_openBucket opens
      obtain ⟨_, opensToo, openedWorks, contents⟩ := Store.openBucket_of_works works thing
      cases opens.symm.trans opensToo
      rw [opens] at created
      cases created
      refine ⟨openedWorks, works, contents, rfl, distinct, ⟨_, Nat.lt_succ_self _, rfl⟩, ?_⟩
      rw [Registry.add, OrderedMap.get?_insert, if_pos rfl]

/-- A client that keeps its lease of a cursor gets the answers of a private cursor that was opened
at the same moment, and that is driven by the same calls between the same additions. No request of
another client changes them, nor does any other request of the client. Witness: the lease mirrors a
private cursor, kept by each event of the run, by induction on it.
-/
theorem leased_cursor_answers_as_private {history leased : History} {moment : Moment}
    {client thing key : String} {name : Option String}
    (distinct : Function.Injective history.keys)
    (created : history.createCursor moment client thing name = (.ok key, leased)) {run : Course}
    (keeps : Keeps client key history.lifespan moment.ticks run)
    : leased.answers client key run
        = ((Reader.mk history (.opened thing name)).answers (steps client key run)).map .ok
      ∧ ∀ other,
          Keeps client key history.lifespan moment.ticks other
          → steps client key other = steps client key run
          → leased.answers client key other = leased.answers client key run := by
  have mirrors := mirrors_created distinct created
  have answered := answers_of_mirrors keeps (.inr mirrors)
  refine ⟨answered, fun other keepsToo same => ?_⟩
  rw [answers_of_mirrors keepsToo (.inr mirrors), answered, same]

/-- A history in memory that names its cursors by tallies. -/
def tallied : History :=
  { store := .inMemory .empty, keys := fun number => String.ofList (List.replicate number '|') }

/-- The history after a stranger has asked for a cursor on a lamp. -/
def tallyOfLamp : History :=
  (tallied.createCursor ⟨.epoch, 0⟩ "stranger" "lamp" none).2

/-- A lamp is switched on, a stranger moves its own cursor and tries to release that of the owner,
the owner uses it, and the expired leases are swept before the owner does so again.
-/
def lampCourse : Course :=
  [(⟨.epoch, 1⟩, .add (.ofLamp "on" .epoch)),
    (⟨.epoch, 1⟩, .request "stranger" (.onCursor "" .last)),
    (⟨.epoch, 2⟩, .request "stranger" (.onCursor "|" .release)),
    (⟨.epoch, 3⟩, .request "owner" (.onCursor "|" .first)),
    (⟨.epoch, defaultLifespan + 1⟩, .sweep),
    (⟨.epoch, defaultLifespan + 2⟩, .request "owner" (.onCursor "|" .next))]

/-- The owner sees the lamp switched on, and nothing after it. -/
theorem leased_cursor_answers_of_lamp
    : ∃ leased,
        tallyOfLamp.createCursor ⟨.epoch, 0⟩ "owner" "lamp" none = (.ok "|", leased)
        ∧ Keeps "owner" "|" tallyOfLamp.lifespan 0 lampCourse
        ∧ leased.answers "owner" "|" lampCourse
          = [.ok (.ofValue (some (.ofLamp "on" .epoch))), .ok (.ofValue none)] := by
  have distinct : Function.Injective tallyOfLamp.keys := fun number other same =>
    List.replicate_left_injective '|' (String.ofList_injective same)
  have keeps : Keeps "owner" "|" tallyOfLamp.lifespan 0 lampCourse :=
    ⟨by decide, by decide, by decide⟩
  have answered :=
    @leased_cursor_answers_as_private tallyOfLamp _ ⟨.epoch, 0⟩ "owner" "lamp" "|" none distinct rfl
      lampCourse keeps
  exact ⟨_, rfl, keeps, answered.1.trans rfl⟩

end History

end ValueHistory
