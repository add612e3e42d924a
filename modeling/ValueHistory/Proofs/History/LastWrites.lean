import ValueHistory.Proofs.Entry.Slot
import ValueHistory.Proofs.Service.Events

/-! The history of a Thing is a map in which the last writer wins. After any run of additions and
queries its bucket holds one entry for each slot that accepted values are in, with the data of the
last one. Rejected values and queries leave every bucket as it was.
-/

namespace ValueHistory.History

/-- What is done with a history: an event happens, or the entries of a Thing are counted. -/
inductive Operation where
  | event (event : Event)
  | count (thing : String)

namespace Operation

/-- Whether an operation adds no value. -/
def IsQuery (operation : Operation) : Prop :=
  ∀ value, operation ≠ event (.add value)

/-- The value that an operation adds, if it is accepted, with the time it has from then on. -/
def accepted? (moment : Moment) : Operation → Option Observation
  | event (.add value) => (value.check moment.now).toOption
  | _ => none

end Operation

/-- The history after an operation. -/
def operate (history : History) (moment : Moment) : Operation → History
  | .event event => history.after moment event
  | .count thing => (history.count thing).2

/-- The history after operations with their moments, one after the other. -/
def operateAll (history : History) (run : List (Moment × Operation)) : History :=
  run.foldl (fun history timed => history.operate timed.1 timed.2) history

/-- The values that are accepted in a run, in the order in which they are added. -/
def accepted (run : List (Moment × Operation)) : List Observation :=
  run.filterMap fun timed => timed.2.accepted? timed.1

section

variable {history : History}

/-- Counting answers with the size of the bucket, and changes no bucket. -/
theorem exists_count (works : history.store.Works) (thing : String)
    : ∃ opened,
        history.count thing
          = (.ok (history.store.bucket thing).size, { history with store := opened })
        ∧ opened.Works
        ∧ ∀ other, opened.bucket other = history.store.bucket other := by
  obtain ⟨opened, opens, openedWorks, contents⟩ := Store.openBucket_of_works works thing
  refine ⟨opened, ?_, openedWorks, contents⟩
  simp only [count, opening, opens, Store.size_of_works openedWorks, contents]

theorem count_of_works (works : history.store.Works) (thing : String)
    : (history.count thing).1 = .ok (history.store.bucket thing).size := by
  obtain ⟨opened, answer, _⟩ := exists_count works thing
  rw [answer]

/-- No query changes what is stored. -/
theorem Continues.operate (works : history.store.Works) (moment : Moment) {operation : Operation}
    (query : operation.IsQuery)
    : Continues history (history.operate moment operation) := by
  cases operation with
  | count thing =>
      obtain ⟨opened, answer, openedWorks, contents⟩ := exists_count works thing
      rw [History.operate, answer]
      exact ⟨openedWorks, contents, rfl, rfl, Nat.le_refl _⟩
  | event event =>
      cases event with
      | add value => exact absurd rfl (query value)
      | request client request => exact .execute works moment client request
      | sweep => exact .of_registry works _

-----------------------------------------------------------------------------------------
-- What operations preserve
-----------------------------------------------------------------------------------------

/-- A history whose buckets hold the last values that were accepted. -/
structure HoldsLast (accepted : List Observation) (history : History) : Prop where
  works : history.store.Works
  valid : ∀ value ∈ accepted, value.IsAccepted
  buckets : ∀ thing, (history.store.bucket thing).HoldsLast thing accepted

namespace HoldsLast

variable {earlier : List Observation}

theorem of_continues {after : History} (holds : history.HoldsLast earlier)
    (continues : Continues history after)
    : after.HoldsLast earlier :=
  ⟨continues.works, holds.valid, fun thing => continues.contents thing ▸ holds.buckets thing⟩

/-- An accepted value becomes the last one in its slot, and a rejected one changes nothing. -/
theorem add (holds : history.HoldsLast earlier) (moment : Moment) (value : Observation)
    : (history.add moment value).2.HoldsLast
        (earlier ++ (value.check moment.now).toOption.toList) := by
  rcases add_of_works holds.works moment value with
    ⟨rejection, checked, same⟩ | ⟨last, entry, stored, checked, encoded, same, works, contents⟩
  · rw [same, checked, Except.toOption, Option.toList_none, List.append_nil]
    exact holds
  · rw [same, checked, Except.toOption, Option.toList_some]
    have valid : last.IsAccepted := ⟨_, _, checked⟩
    have all := List.forall_mem_append.mpr ⟨holds.valid, List.forall_mem_singleton.mpr valid⟩
    refine ⟨works, all, fun thing => ?_⟩
    simp only [contents]
    split
    · next own =>
        subst own
        exact (holds.buckets _).insert holds.valid valid rfl encoded
    · next other => exact (holds.buckets thing).keep (Ne.symm other)

theorem operate (holds : history.HoldsLast earlier) (moment : Moment) (operation : Operation)
    : (history.operate moment operation).HoldsLast
        (earlier ++ (operation.accepted? moment).toList) := by
  by_cases addition : ∃ value, operation = .event (.add value)
  · obtain ⟨value, rfl⟩ := addition
    exact holds.add moment value
  · have query : operation.IsQuery := fun value same => addition ⟨value, same⟩
    have nothing : operation.accepted? moment = none := by
      unfold Operation.accepted?
      split
      · exact absurd rfl (query _)
      · rfl
    rw [nothing, Option.toList_none, List.append_nil]
    exact holds.of_continues (.operate holds.works moment query)

/-- A run goes on from the last values before it, by induction on the run. -/
theorem operateAll (holds : history.HoldsLast earlier) (run : List (Moment × Operation))
    : (history.operateAll run).HoldsLast (earlier ++ accepted run) := by
  induction run generalizing history earlier with
  | nil =>
      rw [accepted, List.filterMap_nil, List.append_nil]
      exact holds
  | cons timed run ih =>
      have following := ih (holds.operate timed.1 timed.2)
      have log : accepted (timed :: run)
          = (timed.2.accepted? timed.1).toList ++ accepted run := by
        rw [accepted, List.filterMap_cons]
        cases timed.2.accepted? timed.1 <;> rfl
      rw [log, ← List.append_assoc]
      exact following

end HoldsLast

end

/-- After any run on a working store that held nothing, every Thing has one entry for each slot that
accepted values of the Thing are in, with the data of the last one, and it has no other entries.
Their number is counted. What is then added is taken, or it is rejected and the history left as it
is; and no query changes an entry or a count. Witness: a history holds the last write of each slot
after every operation, by induction on the run.
-/
theorem last_writes_are_kept {history reached : History} (works : history.store.Works)
    (blank : ∀ thing, (history.store.bucket thing).entries = [])
    (run : List (Moment × Operation)) (reaches : history.operateAll run = reached)
    : (∀ thing,
        (∀ entry ∈ (reached.store.bucket thing).entries, (Entry.slot? entry).isSome = true)
        ∧ (∀ slot,
            ((reached.store.bucket thing).entries.filter fun entry =>
              Entry.slot? entry = some slot).map (·.2)
            = ((lastWrite? thing slot (accepted run)).map fun value =>
                value.data.toBytes).toList)
        ∧ (reached.count thing).1 = .ok (slotsOf thing (accepted run)).dedup.length)
      ∧ (∀ moment value,
          (∃ last,
            value.check moment.now = .ok last ∧ (reached.add moment value).1 = .ok ())
          ∨ ∃ rejection,
              value.check moment.now = .error rejection
              ∧ reached.add moment value = (.error (.invalid rejection), reached))
      ∧ ∀ moment operation,
          Operation.IsQuery operation
          → ∀ thing,
              (reached.operate moment operation).store.bucket thing = reached.store.bucket thing
              ∧ ((reached.operate moment operation).count thing).1
                = (reached.count thing).1 := by
  have start : history.HoldsLast [] :=
    ⟨works, by simp, fun thing => .of_entries_eq_nil (blank thing)⟩
  have holds := start.operateAll run
  rw [reaches, List.nil_append] at holds
  refine ⟨fun thing => ⟨fun entry member => ?_, fun slot => ?_, ?_⟩, fun moment value => ?_, ?_⟩
  · obtain ⟨value, told, _⟩ := (holds.buckets thing).exists_lastWrite holds.valid member
    exact Option.isSome_of_eq_some told
  · exact (holds.buckets thing).payloads_eq holds.valid slot
  · rw [count_of_works holds.works, (holds.buckets thing).size_eq holds.valid]
  · rcases add_of_works holds.works moment value with
      ⟨rejection, checked, answer⟩ | ⟨last, _, _, checked, _, answer, _⟩
    · exact .inr ⟨rejection, checked, answer⟩
    · exact .inl ⟨last, checked, by rw [answer]⟩
  · intro moment operation query thing
    have continues := Continues.operate holds.works moment query
    refine ⟨continues.contents thing, ?_⟩
    rw [count_of_works continues.works, continues.contents thing, count_of_works holds.works]

/-- A lamp is switched on and, at a time that is not told, off again, both in the first millisecond
of 1970. In between it is read, and in the end a property without a name is set.
-/
def lampSwitchedOff : List (Moment × Operation) :=
  let off := { Observation.ofLamp "on" .epoch with time := none, data := .bool false }
  [ (⟨.epoch, 0⟩, .event (.add (.ofLamp "on" .epoch)))
  , (⟨.epoch, 0⟩, .event (.request "client" (.read "lamp" none .epoch 1 10)))
  , (⟨.epoch, 0⟩, .event (.add off))
  , (⟨.epoch, 0⟩, .event (.add (.ofLamp "" .epoch)))
  , (⟨.epoch, 0⟩, .count "lamp") ]

/-- The lamp has one entry in the slot of its switch, which says that it is off, and no other one;
the property without a name is rejected again.
-/
theorem lamp_is_kept_off
    : ∃ reached,
        operateAll { store := .empty, keys := toString } lampSwitchedOff = reached
        ∧ ((reached.store.bucket "lamp").entries.filter fun entry =>
              Entry.slot? entry = some ⟨0, "on", .property, "switch"⟩).map (·.2)
          = [Json.toBytes (.bool false)]
        ∧ (reached.count "lamp").1 = .ok 1
        ∧ reached.add ⟨.epoch, 0⟩ (.ofLamp "" .epoch)
          = (.error (.invalid (.missingField "name")), reached) := by
  have works : Store.empty.Works := trivial
  have blank : ∀ thing, (Store.empty.bucket thing).entries = [] := fun _ => rfl
  obtain ⟨kept, answers, _⟩ :=
    @last_writes_are_kept { store := .empty, keys := toString } _ works blank lampSwitchedOff rfl
  obtain ⟨_, payloads, counted⟩ := kept "lamp"
  refine ⟨_, rfl, payloads _, counted, ?_⟩
  rcases answers ⟨.epoch, 0⟩ (.ofLamp "" .epoch) with ⟨_, taken, _⟩ | ⟨rejection, checked, answer⟩
  · cases taken
  · cases checked
    exact answer

end ValueHistory.History
