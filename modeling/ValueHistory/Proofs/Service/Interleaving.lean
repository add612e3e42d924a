import ValueHistory.Proofs.Cursor.Moves
import ValueHistory.Proofs.Service.Recording
import ValueHistory.Proofs.Service.Showing
import ValueHistory.Service.Session

/-! Workers that go on while lines are treated. Their steps are told one by one, and what a request
sees in the course of them is told by the buckets as they are when each of its look-ups comes. Keys
are only added meanwhile, so that every scan ends; and it does not matter for what is stored whether
the steps come before the request or after it.
-/

namespace ValueHistory

-----------------------------------------------------------------------------------------
-- Scans of a bucket to which keys are added
-----------------------------------------------------------------------------------------

/-- A look-up whose answers keep to their bounds, under keys that a bucket has in the end. -/
structure Lookup.KeepsTo (lookup : Lookup) (last : Bucket) : Prop where
  ceiling : ∀ {bound entry},
    lookup.ceiling bound = some entry
    → bound.liesBelow entry.1 = true ∧ entry.1 ∈ last.entries.map Prod.fst
  floor : ∀ {bound entry},
    lookup.floor bound = some entry
    → bound.liesAbove entry.1 = true ∧ entry.1 ∈ last.entries.map Prod.fst

namespace Position

variable {direction : Direction} {last : Bucket} {position after : Position} {entry : Entry}

/-- A step lands on a key that was ahead. -/
theorem isAhead_of_step {lookup : Lookup} (keeps : lookup.KeepsTo last)
    (moved : position.move lookup direction.step = (some entry, after))
    : after = .standing entry.1
      ∧ position.isAhead direction entry.1 = true
      ∧ entry.1 ∈ last.entries.map Prod.fst := by
  have landed {found : Option Entry} {otherwise : Position}
      (lands : land found otherwise = (some entry, after))
      : found = some entry ∧ after = .standing entry.1 := by
    cases found with
    | none => cases lands
    | some _ =>
        cases lands
        exact ⟨rfl, rfl⟩
  cases direction with
  | forward =>
      cases position with
      | unplaced | beforeFirst =>
          obtain ⟨found, same⟩ := landed moved
          exact ⟨same, rfl, (keeps.ceiling found).2⟩
      | standing key =>
          obtain ⟨found, same⟩ := landed moved
          exact ⟨same, keeps.ceiling found⟩
      | afterLast => cases moved
  | backward =>
      cases position with
      | unplaced | afterLast =>
          obtain ⟨found, same⟩ := landed moved
          exact ⟨same, rfl, (keeps.floor found).2⟩
      | standing key =>
          obtain ⟨found, same⟩ := landed moved
          exact ⟨same, keeps.floor found⟩
      | beforeFirst => cases moved

/-- Fewer entries are ahead of a key than of a position that has the key ahead. -/
theorem length_ahead_lt (near : position.isAhead direction entry.1 = true)
    (known : entry.1 ∈ last.entries.map Prod.fst)
    : ((standing entry.1).ahead direction last).length
      < (position.ahead direction last).length := by
  have same
      : (standing entry.1).ahead direction last
        = (position.ahead direction last).filter fun other => direction.leads entry.1 other.1 := by
    rw [ahead, ahead, List.filter_filter]
    refine List.filter_congr fun other _ => ?_
    change direction.leads entry.1 other.1 = (direction.leads entry.1 other.1 && _)
    cases leads : direction.leads entry.1 other.1 with
    | false => rfl
    | true => rw [isAhead_of_leads position near leads, Bool.true_and]
  obtain ⟨stored, member, key⟩ := List.mem_map.mp known
  rw [same, List.length_filter_lt_length_iff_exists]
  refine ⟨stored, mem_ahead_iff.mpr ⟨member, key ▸ near⟩, ?_⟩
  rw [key, direction.leads_irrefl]
  exact Bool.false_ne_true

end Position

/-- A scan ends, if it may take more steps than there are entries ahead in the end, by induction on
the steps.
-/
theorem Scan.exists_within {lookup : Lookup} {last : Bucket} (keeps : lookup.KeepsTo last)
    (selection : Selection) (direction : Direction) (bound : Int) {fuel : Nat} {position : Position}
    (enough : (position.ahead direction last).length < fuel)
    : ∃ result, within selection lookup direction bound fuel position = some result := by
  induction fuel generalizing position with
  | zero => cases enough
  | succ fuel ih =>
      rw [within]
      rcases moved : position.move lookup direction.step with ⟨_ | entry, after⟩
      · exact ⟨_, rfl⟩
      · obtain ⟨rfl, near, known⟩ := Position.isAhead_of_step keeps moved
        have fewer := Position.length_ahead_lt near known
        dsimp only
        cases judge selection direction bound entry with
        | beyond => exact ⟨_, rfl⟩
        | found value => exact ⟨_, rfl⟩
        | skipped => exact ih (by omega)

namespace Session

-----------------------------------------------------------------------------------------
-- Steps of workers
-----------------------------------------------------------------------------------------

/-- The session as a recording whose log begins now. -/
def recording (session : Session) : Recording :=
  { recorder := session.recorder, history := session.history }

/-- Steps of workers, one after the other. Each of them does what a step of a recording may do. -/
inductive Working : Session → List (Moment × Nat) → Session → Prop where
  | done {session : Session} : Working session [] session
  | step {session final : Session} {moment : Moment} {worker : Nat} {following : Recording}
      {steps : List (Moment × Nat)}
      (next : Recording.Next session.recording (.work moment worker) following)
      (later : Working ⟨following.history, following.recorder⟩ steps final)
    : Working session ((moment, worker) :: steps) final

variable {session final other : Session} {steps : List (Moment × Nat)}

/-- The workers of a session can go on, by induction on the steps. -/
theorem working_work (session : Session) (steps : List (Moment × Nat))
    : Working session steps (session.work steps) := by
  induction steps generalizing session with
  | nil => exact .done
  | cons step steps ih =>
      obtain ⟨moment, worker⟩ := step
      exact .step (Recording.next_after session.recording (.work moment worker)) (ih _)

/-- What is left of a session does not depend on the log. -/
theorem next_unique {recording following otherwise : Recording} {moment : Moment} {worker : Nat}
    (next : Recording.Next recording (.work moment worker) following)
    (again : Recording.Next recording (.work moment worker) otherwise)
    : following = otherwise := by
  cases next with
  | idled nothing =>
      cases again with
      | idled _ => rfl
      | took idle waiting => simp [idle, waiting] at nothing
      | handed holds added => simp [holds] at nothing
  | took idle waiting =>
      cases again with
      | idled nothing => simp [idle, waiting] at nothing
      | took idleToo waitingToo =>
          cases waiting.symm.trans waitingToo
          rfl
      | handed holds added => cases idle.symm.trans holds
  | handed holds added =>
      cases again with
      | idled nothing => simp [holds] at nothing
      | took idle waiting => cases idle.symm.trans holds
      | handed holdsToo addedToo =>
          cases holds.symm.trans holdsToo
          cases added.symm.trans addedToo
          rfl

/-- Steps of workers leave one session, by induction on them. -/
theorem Working.unique (working : Working session steps final)
    (again : Working session steps other)
    : final = other := by
  induction working with
  | done =>
      cases again
      rfl
  | step next _ ih =>
      cases again with
      | step nextToo later =>
          cases next_unique next nextToo
          exact ih later

-----------------------------------------------------------------------------------------
-- What a request sees
-----------------------------------------------------------------------------------------

/-- What a reading sees of a bucket at a pace among steps of workers: each look-up is answered from
the bucket as it is when the steps before it are made.
-/
structure Sees (session : Session) (steps : List (Moment × Nat)) (pace : Pace) (thing : String)
    (lookup : Lookup)
    : Prop where
  ceiling : ∀ bound, ∃ stage,
    Working session (steps.take (pace.ceiling bound)) stage
    ∧ lookup.ceiling bound = (stage.history.store.bucket thing).ceiling bound
  floor : ∀ bound, ∃ stage,
    Working session (steps.take (pace.floor bound)) stage
    ∧ lookup.floor bound = (stage.history.store.bucket thing).floor bound
  size : ∃ stage,
    Working session (steps.take pace.ends) stage
    ∧ lookup.size = (stage.history.store.bucket thing).size

/-- What a request sees wherever the store of a session answers, in its first and in its second
reading.
-/
structure Shows (session : Session) (meanwhile : Meanwhile) (view : View) : Prop where
  first : ∀ {thing lookup},
    session.history.store.lookup thing = .ok lookup
    → session.Sees meanwhile.steps meanwhile.first thing (view.first thing lookup)
  second : ∀ {thing lookup},
    session.history.store.lookup thing = .ok lookup
    → session.Sees meanwhile.steps meanwhile.second thing (view.second thing lookup)

variable {pace : Pace} {meanwhile : Meanwhile} {view otherView : View}

/-- A reading sees one thing. -/
theorem Sees.unique {thing : String} {lookup otherLookup : Lookup}
    (sees : session.Sees steps pace thing lookup)
    (again : session.Sees steps pace thing otherLookup)
    : lookup = otherLookup := by
  obtain ⟨ceiling, floor, size⟩ := lookup
  obtain ⟨otherCeiling, otherFloor, otherSize⟩ := otherLookup
  rw [Lookup.mk.injEq]
  refine ⟨funext fun bound => ?_, funext fun bound => ?_, ?_⟩
  · obtain ⟨_, working, answer⟩ := sees.ceiling bound
    obtain ⟨_, workingToo, answerToo⟩ := again.ceiling bound
    cases working.unique workingToo
    exact answer.trans answerToo.symm
  · obtain ⟨_, working, answer⟩ := sees.floor bound
    obtain ⟨_, workingToo, answerToo⟩ := again.floor bound
    cases working.unique workingToo
    exact answer.trans answerToo.symm
  · obtain ⟨_, working, answer⟩ := sees.size
    obtain ⟨_, workingToo, answerToo⟩ := again.size
    cases working.unique workingToo
    exact answer.trans answerToo.symm

/-- A request sees one thing. -/
theorem Shows.agree (shows : session.Shows meanwhile view)
    (again : session.Shows meanwhile otherView)
    : session.history.Agree view otherView :=
  ⟨fun found => (shows.first found).unique (again.first found),
    fun found => (shows.second found).unique (again.second found)⟩

/-- A step of a worker keeps a working store working. -/
theorem works_of_next {recording following : Recording} {moment : Moment} {worker : Nat}
    (works : recording.history.store.Works)
    (next : Recording.Next recording (.work moment worker) following)
    : following.history.store.Works := by
  cases next with
  | idled _ => exact works
  | took _ _ => exact works
  | @handed _ _ value _ _ _ added =>
      have kept := History.works_add works moment value
      rw [added] at kept
      exact kept

/-- A step of a worker leaves recorded entries. -/
theorem recorded_of_next {recording following : Recording} {moment : Moment} {worker : Nat}
    (recorded : recording.history.Recorded)
    (next : Recording.Next recording (.work moment worker) following)
    : following.history.Recorded := by
  cases next with
  | idled _ => exact recorded
  | took _ _ => exact recorded
  | @handed _ _ value _ _ _ added =>
      have stored := recorded.add moment value
      rw [added] at stored
      exact stored

theorem Working.works (working : Working session steps final)
    (works : session.history.store.Works)
    : final.history.store.Works := by
  induction working with
  | done => exact works
  | step next _ ih => exact ih (works_of_next works next)

theorem Working.recorded (working : Working session steps final)
    (recorded : session.history.Recorded)
    : final.history.Recorded := by
  induction working with
  | done => exact recorded
  | step next _ ih => exact ih (recorded_of_next recorded next)

/-- The look-up of a bucket after steps of workers. -/
theorem lookup_work (works : session.history.store.Works) (steps : List (Moment × Nat))
    (thing : String) (lookup : Lookup)
    : ((session.work steps).history.store.lookup thing).toOption.getD lookup
      = .ofBucket ((session.work steps).history.store.bucket thing) := by
  have working := (working_work session steps).works works
  rw [Store.lookup_of_works working]
  rfl

theorem sees_seen (works : session.history.store.Works) (steps : List (Moment × Nat))
    (pace : Pace) (thing : String) (lookup : Lookup)
    : session.Sees steps pace thing (session.seen steps pace thing lookup) := by
  refine ⟨fun bound => ⟨_, working_work session _, ?_⟩,
    fun bound => ⟨_, working_work session _, ?_⟩, _, working_work session _, ?_⟩
  all_goals
    simp only [seen, lookup_work works]
    rfl

/-- A session shows its requests what they see. -/
theorem shows_view (session : Session) (meanwhile : Meanwhile)
    : session.Shows meanwhile (session.view meanwhile) := by
  constructor
  · exact fun found => sees_seen (History.works_of_lookup found) ..
  · exact fun found => sees_seen (History.works_of_lookup found) ..

/-- What is seen of recorded entries are recorded entries. -/
theorem recorded_view (recorded : session.history.Recorded) (meanwhile : Meanwhile)
    : (session.view meanwhile).Recorded := by
  have seen (pace : Pace) {thing : String} {lookup : Lookup} (known : lookup.Recorded thing)
      : (session.seen meanwhile.steps pace thing lookup).Recorded thing := by
    have stage (count : Nat)
        : (((session.work (meanwhile.steps.take count)).history.store.lookup
            thing).toOption.getD lookup).Recorded thing := by
      cases found : (session.work (meanwhile.steps.take count)).history.store.lookup thing with
      | error failure => exact known
      | ok current =>
          obtain rfl := History.lookup_eq_ok found
          exact ((working_work session _).recorded recorded thing).lookup
    exact ⟨fun found => (stage _).ceiling found, fun found => (stage _).floor found⟩
  exact ⟨seen _, seen _⟩

/-- A request that is answered before the first step of a worker sees what the store holds. -/
theorem shows_still (ahead : meanwhile.first.ends = 0) (aheadToo : meanwhile.second.ends = 0)
    : session.Shows meanwhile .still := by
  have sees {pace : Pace} (ahead : pace.ends = 0) {thing : String} {lookup : Lookup}
      (found : session.history.store.lookup thing = .ok lookup)
      : session.Sees meanwhile.steps pace thing lookup := by
    obtain rfl := History.lookup_eq_ok found
    have atOnce {count : Nat} (within : count ≤ pace.ends)
        : Working session (meanwhile.steps.take count) session := by
      obtain rfl : count = 0 := by omega
      exact .done
    exact ⟨fun bound => ⟨session, atOnce (pace.ceiling_le bound), rfl⟩,
      fun bound => ⟨session, atOnce (pace.floor_le bound), rfl⟩,
      session, atOnce (Nat.le_refl _), rfl⟩
  exact ⟨fun found => sees ahead found, fun found => sees aheadToo found⟩

-----------------------------------------------------------------------------------------
-- Entries come and none of them goes
-----------------------------------------------------------------------------------------

/-- Keys that a bucket has are kept by a step of a worker. -/
theorem keeps_key_of_next {recording following : Recording} {moment : Moment} {worker : Nat}
    (works : recording.history.store.Works)
    (next : Recording.Next recording (.work moment worker) following) {thing : String} {key : Bytes}
    (known : key ∈ (recording.history.store.bucket thing).entries.map Prod.fst)
    : key ∈ (following.history.store.bucket thing).entries.map Prod.fst := by
  cases next with
  | idled _ => exact known
  | took _ _ => exact known
  | @handed _ _ value _ _ _ added =>
      rcases History.add_of_works works moment value with
        ⟨_, _, same⟩ | ⟨accepted, entry, stored, _, _, same, _, contents⟩
      · cases added.symm.trans same
        exact known
      · cases added.symm.trans same
        rw [contents]
        split
        · next own =>
            subst own
            obtain ⟨other, member, rfl⟩ := List.mem_map.mp known
            refine List.mem_map.mpr ?_
            by_cases replaced : other.1 = entry.1
            · exact ⟨entry, OrderedMap.mem_insert_iff.mpr (.inl rfl), replaced.symm⟩
            · exact ⟨other, OrderedMap.mem_insert_iff.mpr (.inr ⟨member, replaced⟩), rfl⟩
        · exact known

/-- Keys that a bucket has are kept by steps of workers, by induction on them. -/
theorem Working.keeps_key (working : Working session steps final)
    (works : session.history.store.Works) {thing : String} {key : Bytes}
    (known : key ∈ (session.history.store.bucket thing).entries.map Prod.fst)
    : key ∈ (final.history.store.bucket thing).entries.map Prod.fst := by
  induction working with
  | done => exact known
  | step next _ ih => exact ih (works_of_next works next) (keeps_key_of_next works next known)

/-- Steps can be told up to any of them, by induction on the number of those that are told. -/
theorem Working.split {count : Nat} (working : Working session steps final) {stage : Session}
    (first : Working session (steps.take count) stage)
    : Working stage (steps.drop count) final := by
  induction working generalizing count with
  | done =>
      rw [List.take_nil] at first
      cases first
      rw [List.drop_nil]
      exact .done
  | @step _ _ _ _ _ _ next later ih =>
      cases count with
      | zero =>
          cases first
          exact .step next later
      | succ count =>
          rw [List.take_succ_cons] at first
          cases first with
          | step again others =>
              cases next_unique next again
              exact ih others

/-- Whatever a reading sees keeps to the keys that its bucket has in the end. -/
theorem Sees.keepsTo {thing : String} {lookup : Lookup}
    (sees : session.Sees steps pace thing lookup) (works : session.history.store.Works)
    (ended : Working session (steps.take pace.ends) final)
    : lookup.KeepsTo (final.history.store.bucket thing) := by
  have kept {count : Nat} (within : count ≤ pace.ends) {stage : Session}
      (reached : Working session (steps.take count) stage) {entry : Entry}
      (member : entry ∈ (stage.history.store.bucket thing).entries)
      : entry.1 ∈ (final.history.store.bucket thing).entries.map Prod.fst := by
    rw [← Nat.min_eq_left within, ← List.take_take] at reached
    exact (ended.split reached).keeps_key (reached.works works) (List.mem_map_of_mem member)
  constructor
  · intro bound entry answered
    obtain ⟨stage, reached, answer⟩ := sees.ceiling bound
    have found := answer.symm.trans answered
    exact ⟨by simpa using List.find?_some found,
      kept (pace.ceiling_le bound) reached (List.mem_of_find?_eq_some found)⟩
  · intro bound entry answered
    obtain ⟨stage, reached, answer⟩ := sees.floor bound
    have found := List.mem_of_getLast? (answer.symm.trans answered)
    obtain ⟨member, inside⟩ := List.mem_filter.mp found
    exact ⟨inside, kept (pace.floor_le bound) reached member⟩

/-- Every scan of a reading ends, wherever it begins and however the workers go on meanwhile: it may
take one step more than there are entries in the end. Witness: a step lands on a key that was ahead,
and keys that are there stay.
-/
theorem Sees.exists_within {thing : String} {lookup : Lookup}
    (sees : session.Sees steps pace thing lookup) (works : session.history.store.Works)
    (selection : Selection) (direction : Direction) (bound : Int) (position : Position)
    : ∃ result,
        Scan.within selection lookup direction bound (lookup.size + 1) position = some result := by
  obtain ⟨final, ended, size⟩ := sees.size
  apply Scan.exists_within (sees.keepsTo works ended)
  rw [size]
  exact Nat.lt_succ_of_le (position.length_ahead_le direction _)

-----------------------------------------------------------------------------------------
-- Steps before a request and after it
-----------------------------------------------------------------------------------------

/-- Sessions whose recorders are the same, and whose stores work and hold the same. -/
structure Alike (session other : Session) : Prop where
  recorder : session.recorder = other.recorder
  works : session.history.store.Works
  otherWorks : other.history.store.Works
  contents : ∀ thing,
    session.history.store.bucket thing = other.history.store.bucket thing

/-- Workers do the same in sessions that are alike. -/
theorem Alike.next {moment : Moment} {worker : Nat} {following : Recording}
    (alike : session.Alike other)
    (next : Recording.Next session.recording (.work moment worker) following)
    : ∃ followingToo,
        Recording.Next other.recording (.work moment worker) followingToo
        ∧ Alike ⟨following.history, following.recorder⟩
            ⟨followingToo.history, followingToo.recorder⟩ := by
  obtain ⟨history, recorder⟩ := session
  obtain ⟨otherHistory, otherRecorder⟩ := other
  obtain rfl : recorder = otherRecorder := alike.recorder
  have works : history.store.Works := alike.works
  have otherWorks : otherHistory.store.Works := alike.otherWorks
  have contents := alike.contents
  cases next with
  | idled nothing => exact ⟨_, .idled nothing, rfl, works, otherWorks, contents⟩
  | took idle waiting => exact ⟨_, .took idle waiting, rfl, works, otherWorks, contents⟩
  | @handed _ _ value answer _ holds added =>
      have stored := History.bucket_add works otherWorks contents moment value
      have kept := History.works_add works moment value
      have keptToo := History.works_add otherWorks moment value
      have answered : (otherHistory.add moment value).1 = answer := by
        rw [← History.answer_add works otherWorks]
        exact congrArg Prod.fst added
      change history.add moment value = _ at added
      rw [added] at stored kept
      rcases addedToo : otherHistory.add moment value with ⟨otherAnswer, after⟩
      rw [addedToo] at answered stored keptToo
      cases answered
      exact ⟨_, .handed holds addedToo, rfl, kept, keptToo, stored⟩

/-- Sessions that are alike stay so when workers go on, by induction on their steps. -/
theorem Alike.working (alike : session.Alike other) (working : Working session steps final)
    : ∃ otherFinal, Working other steps otherFinal ∧ final.Alike otherFinal := by
  induction working generalizing other with
  | done => exact ⟨other, .done, alike⟩
  | step next _ ih =>
      obtain ⟨_, nextToo, alikeNext⟩ := alike.next next
      obtain ⟨otherFinal, later, alikeLast⟩ := ih alikeNext
      exact ⟨otherFinal, .step nextToo later, alikeLast⟩

/-- For what is stored and for what waits it does not matter whether workers make their steps before
a request is answered or after it. Witness: no request changes which entries there are.
-/
theorem Working.commutes_with_dispatch (working : Working session steps final)
    (works : session.history.store.Works) (moment : Moment) (client : String) (request : Request)
    (view : View)
    : ∃ answered,
        Working
          { session with history := (session.history.dispatch moment client request view).2 } steps
          answered
        ∧ final.Alike answered := by
  have alike
      : session.Alike
          { session with
            history := (session.history.dispatch moment client request view).2 } := by
    rw [History.dispatch_snd]
    exact ⟨rfl, works, History.works_execute works moment client request view,
      fun thing => (session.history.bucket_execute moment client request view thing).symm⟩
  exact alike.working working

end Session

end ValueHistory
