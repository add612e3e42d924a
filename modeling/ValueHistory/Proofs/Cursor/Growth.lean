import ValueHistory.Proofs.Cursor.Tracking

/-! A cursor that follows a growing history window by window. As long as every window ends in front
of a later entry, what is added after it is met by the next one. A window that reads the bucket to
its end leaves the cursor beyond it, and nothing that is added from then on is met.
-/

namespace ValueHistory

-----------------------------------------------------------------------------------------
-- Windows between additions
-----------------------------------------------------------------------------------------

/-- What may happen while a cursor follows a history: a window is read, or a value is added. -/
inductive Turn where
  | read (window : Window)
  | add (moment : Moment) (value : Observation)

/-- A cursor with the history that it follows. -/
structure Follower where
  history : History
  cursor : Cursor

namespace Follower

/-- One turn, and the page that it shows if it is a window. A value that is not valid is not added,
and nobody hears of it.
-/
def turn (follower : Follower) : Turn → Except StoreFailure (List Page × Follower)
  | .read window =>
    (follower.history.store.lookup follower.cursor.selection.thing).map fun lookup =>
      let (page, cursor) :=
        follower.cursor.page lookup .forward window.bound window.limit
      ([page], { follower with cursor })
  | .add moment value =>
    .ok ([], { follower with history := (follower.history.add moment value).2 })

/-- Turns one after the other, and the pages that they show. -/
def follow (follower : Follower) : List Turn → Except StoreFailure (List Page × Follower)
  | [] => .ok ([], follower)
  | turn :: later => do
    let (pages, follower) ← follower.turn turn
    let (others, follower) ← follower.follow later
    return (pages ++ others, follower)

end Follower

namespace Turn

/-- The bound of the last window of some turns, or else the one before them. -/
def lastBound (bound : Option Int) : List Turn → Option Int
  | [] => bound
  | .read window :: later => lastBound (some window.bound.millis) later
  | .add _ _ :: later => lastBound bound later

/-- No window goes back in time, and every value that is added for a Thing is later than the window
before it.
-/
def Orderly (thing : String) (bound : Option Int) : List Turn → Prop
  | [] => True
  | .read window :: later =>
    (∀ earlier ∈ bound, earlier ≤ window.bound.millis)
      ∧ Orderly thing (some window.bound.millis) later
  | .add moment value :: later =>
    (value.thing = thing → Window.isAfter bound (value.time.getD moment.now).millis = true)
      ∧ Orderly thing bound later

/-- The bucket of a Thing as far as a follower gets to know it: as it is at the first window that
drains it or finds it empty, or after all turns if there is none.
-/
def seen (thing : String) (history : History) : List Turn → Bucket
  | [] => history.store.bucket thing
  | .read window :: later =>
    if Window.endsWithin window (history.store.bucket thing) then seen thing history later
    else history.store.bucket thing
  | .add moment value :: later => seen thing (history.add moment value).2 later

/-- No window drains the bucket of a Thing, unless it is the last one. -/
def Undrained (thing : String) (history : History) : List Turn → Prop
  | [] => True
  | .read window :: later =>
    ((∃ next, .read next ∈ later) → Window.endsWithin window (history.store.bucket thing) = true)
      ∧ Undrained thing history later
  | .add moment value :: later => Undrained thing (history.add moment value).2 later

end Turn

-----------------------------------------------------------------------------------------
-- Runs of a follower
-----------------------------------------------------------------------------------------

namespace Follower

/-- A working store lets every turn happen, and goes on working. -/
theorem turn_of_works {follower : Follower} (works : follower.history.store.Works) (turn : Turn)
    : ∃ pages next,
        follower.turn turn = .ok (pages, next) ∧ next.history.store.Works := by
  cases turn with
  | read window =>
      rw [Follower.turn, Store.lookup_of_works works]
      exact ⟨_, _, rfl, works⟩
  | add moment value => exact ⟨_, _, rfl, History.works_add works moment value⟩

/-- Two steps succeed one after the other when each of them does. -/
theorem bind_eq_ok {α β : Type} {first : Except StoreFailure α}
    {following : α → Except StoreFailure β} {result : β}
    : first >>= following = .ok result ↔ ∃ a, first = .ok a ∧ following a = .ok result := by
  cases first <;> simp [bind, Except.bind]

/-- A working store lets all turns happen, by induction on the turns. -/
theorem follow_of_works {follower : Follower} (works : follower.history.store.Works)
    (turns : List Turn)
    : ∃ pages after, follower.follow turns = .ok (pages, after) := by
  induction turns generalizing follower with
  | nil => exact ⟨_, _, rfl⟩
  | cons turn later ih =>
      obtain ⟨pages, next, first, nextWorks⟩ := turn_of_works works turn
      obtain ⟨others, after, following⟩ := ih nextWorks
      refine ⟨pages ++ others, after, ?_⟩
      rw [follow]
      exact bind_eq_ok.mpr ⟨_, first, bind_eq_ok.mpr ⟨_, following, rfl⟩⟩

/-- Turns happen one after the other. -/
theorem follow_cons {follower after : Follower} {turn : Turn} {later : List Turn}
    {pages : List Page} (h : follower.follow (turn :: later) = .ok (pages, after))
    : ∃ shown next others,
        follower.turn turn = .ok (shown, next)
        ∧ next.follow later = .ok (others, after)
        ∧ pages = shown ++ others := by
  rw [follow] at h
  obtain ⟨⟨shown, next⟩, first, rest⟩ := bind_eq_ok.mp h
  obtain ⟨⟨others, last⟩, following, same⟩ := bind_eq_ok.mp rest
  cases same
  exact ⟨shown, next, others, first, following, rfl⟩

/-- A follower of a Thing: its store works and has only recorded entries of the Thing, on which the
cursor is.
-/
structure Follows (thing : String) (follower : Follower) : Prop where
  works : follower.history.store.Works
  recorded : (follower.history.store.bucket thing).Recorded thing
  own : follower.cursor.selection.thing = thing

variable {thing : String}

/-- A window is a page of the cursor on the bucket of its Thing. -/
theorem Follows.turn_read {follower next : Follower} (follows : follower.Follows thing)
    {window : Window} {shown : List Page}
    (h : follower.turn (.read window) = .ok (shown, next))
    : ∃ page cursor,
        follower.cursor.page (.ofBucket (follower.history.store.bucket thing)) .forward
            window.bound window.limit
          = (page, cursor)
        ∧ shown = [page]
        ∧ next = { follower with cursor } := by
  rw [Follower.turn, Store.lookup_of_works follows.works, follows.own] at h
  cases h
  exact ⟨_, _, rfl, rfl, rfl⟩

/-- A follower of a Thing stays one in every turn. -/
theorem Follows.turn {follower next : Follower} (follows : follower.Follows thing) {turn : Turn}
    {shown : List Page} (h : follower.turn turn = .ok (shown, next))
    : next.Follows thing := by
  cases turn with
  | add moment value =>
      cases h
      exact ⟨History.works_add follows.works moment value,
        History.recorded_add follows.works follows.recorded moment value, follows.own⟩
  | read window =>
      obtain ⟨page, cursor, answer, rfl, rfl⟩ := follows.turn_read h
      obtain ⟨position, _, rfl⟩ := Cursor.page_cases answer
      exact ⟨follows.works, follows.recorded, follows.own⟩

/-- A cursor beyond the last entry shows nothing any more, whatever is added, by induction on the
turns.
-/
theorem concat_follow_afterLast {turns : List Turn} {follower after : Follower}
    {pages : List Page} (follows : follower.Follows thing)
    (drained : follower.cursor.position = .afterLast)
    (h : follower.follow turns = .ok (pages, after))
    : Page.concat pages = [] := by
  induction turns generalizing follower pages with
  | nil =>
      cases h
      rfl
  | cons turn later ih =>
      obtain ⟨shown, next, others, first, following, rfl⟩ := follow_cons h
      have nextFollows := follows.turn first
      cases turn with
      | add moment value =>
          cases first
          exact ih nextFollows drained following
      | read window =>
          obtain ⟨page, cursor, answer, rfl, rfl⟩ := follows.turn_read first
          obtain ⟨rfl, _, still⟩ := Cursor.page_afterLast follows.recorded drained answer
          have rest := ih nextFollows still following
          rw [Page.concat, List.flatMap_append, ← Page.concat, ← Page.concat, rest]
          rfl

/-- The last of some windows does not lie before the first, by induction on the turns. -/
theorem exists_lastBound {turns : List Turn} {bound : Int}
    (orderly : Turn.Orderly thing (some bound) turns)
    : ∃ last, Turn.lastBound (some bound) turns = some last ∧ bound ≤ last := by
  induction turns generalizing bound with
  | nil => exact ⟨bound, rfl, Int.le_refl bound⟩
  | cons turn later ih =>
      cases turn with
      | read window =>
          obtain ⟨onward, orderly⟩ := orderly
          obtain ⟨last, same, less⟩ := ih orderly
          exact ⟨last, same, Int.le_trans (onward bound rfl) less⟩
      | add moment value => exact ih orderly.2

/-- What windows show continues the values up to the bound to those up to the last bound, as far as
they are seen. By induction on the turns, with a position that tracks the bound.
-/
theorem concat_follow {turns : List Turn} {bound : Option Int} {follower after : Follower}
    {pages : List Page} (follows : follower.Follows thing)
    (tracks : follower.cursor.position.Tracks (follower.history.store.bucket thing) bound)
    (orderly : Turn.Orderly thing bound turns)
    (h : follower.follow turns = .ok (pages, after))
    (complete : ∀ page ∈ pages, page.remaining = false)
    : (follower.history.store.bucket thing).matchingUpTo bound follower.cursor.selection
        ++ Page.concat pages
      = (Turn.seen thing follower.history turns).matchingUpTo (Turn.lastBound bound turns)
          follower.cursor.selection := by
  induction turns generalizing bound follower pages with
  | nil =>
      cases h
      exact List.append_nil _
  | cons turn later ih =>
      obtain ⟨shown, next, others, first, following, rfl⟩ := follow_cons h
      have nextFollows := follows.turn first
      have othersComplete : ∀ page ∈ others, page.remaining = false :=
        fun page member => complete page (List.mem_append_right _ member)
      cases turn with
      | add moment value =>
          cases first
          obtain ⟨later, orderly⟩ := orderly
          have reached := tracks.add follows.works follows.recorded later
          rw [← History.matchingUpTo_add follows.works follows.recorded later]
          exact ih nextFollows reached orderly following othersComplete
      | read window =>
          obtain ⟨page, cursor, answer, rfl, rfl⟩ := follows.turn_read first
          obtain ⟨onward, orderly⟩ := orderly
          have pageComplete := complete page (List.mem_append_left _ List.mem_cons_self)
          have read := tracks.concat_page follows.recorded onward answer pageComplete
          obtain ⟨position, scanned, rfl⟩ := Cursor.page_cases answer
          have reached := tracks.page follows.recorded onward scanned pageComplete
          have split : Page.concat ([page] ++ others) = page.values ++ Page.concat others := by
            simp [Page.concat]
          rw [split, ← List.append_assoc, read, Turn.seen, Turn.lastBound]
          split at reached
          · next more =>
              have others := ih nextFollows reached orderly following othersComplete
              rw [if_pos more]
              exact others
          · next none =>
              -- the cursor has run beyond the last entry: nothing is later than this window
              obtain ⟨last, lastEqual, less⟩ := exists_lastBound orderly
              have all := Bucket.millis_le_of_not_endsWithin none
              rw [if_neg none, concat_follow_afterLast nextFollows reached following,
                List.append_nil, lastEqual,
                Bucket.matchingUpTo_eq_matching follows.recorded all,
                Bucket.matchingUpTo_eq_matching follows.recorded
                  fun entry member => Int.le_trans (all entry member) less]

/-- What is seen was recorded, by induction on the turns. -/
theorem recorded_seen {history : History} (works : history.store.Works)
    (recorded : (history.store.bucket thing).Recorded thing) (turns : List Turn)
    : (Turn.seen thing history turns).Recorded thing := by
  induction turns generalizing history with
  | nil => exact recorded
  | cons turn later ih =>
      cases turn with
      | add moment value =>
          exact ih (History.works_add works moment value)
            (History.recorded_add works recorded moment value)
      | read window =>
          rw [Turn.seen]
          split
          · exact ih works recorded
          · exact recorded

/-- Values that are added after the last window change nothing up to it, by induction on the turns.
-/
theorem matchingUpTo_follow_add {turns : List Turn} {bound : Option Int}
    {follower after : Follower} {pages : List Page} (follows : follower.Follows thing)
    (orderly : Turn.Orderly thing bound turns) (last : ¬∃ next, .read next ∈ turns)
    (h : follower.follow turns = .ok (pages, after)) (selection : Selection)
    : (after.history.store.bucket thing).matchingUpTo bound selection
        = (follower.history.store.bucket thing).matchingUpTo bound selection
      ∧ Turn.lastBound bound turns = bound := by
  induction turns generalizing follower pages with
  | nil =>
      cases h
      exact ⟨rfl, rfl⟩
  | cons turn later ih =>
      obtain ⟨shown, next, others, first, following, rfl⟩ := follow_cons h
      have nextFollows := follows.turn first
      cases turn with
      | add moment value =>
          cases first
          rw [← History.matchingUpTo_add follows.works follows.recorded orderly.1 selection]
          exact ih nextFollows orderly.2
            (fun ⟨next, member⟩ => last ⟨next, List.mem_cons_of_mem _ member⟩) following
      | read window => exact absurd ⟨window, List.mem_cons_self⟩ last

/-- Where no window before the last drains the bucket, all that is stored up to the last bound is
seen, by induction on the turns.
-/
theorem matchingUpTo_seen {turns : List Turn} {bound : Option Int} {follower after : Follower}
    {pages : List Page} (follows : follower.Follows thing)
    (orderly : Turn.Orderly thing bound turns)
    (undrained : Turn.Undrained thing follower.history turns)
    (h : follower.follow turns = .ok (pages, after)) (selection : Selection)
    : (Turn.seen thing follower.history turns).matchingUpTo (Turn.lastBound bound turns) selection
      = (after.history.store.bucket thing).matchingUpTo (Turn.lastBound bound turns)
          selection := by
  induction turns generalizing bound follower pages with
  | nil =>
      cases h
      rfl
  | cons turn later ih =>
      obtain ⟨shown, next, others, first, following, rfl⟩ := follow_cons h
      have nextFollows := follows.turn first
      cases turn with
      | add moment value =>
          cases first
          exact ih nextFollows orderly.2 undrained following
      | read window =>
          obtain ⟨page, cursor, answer, rfl, rfl⟩ := follows.turn_read first
          rw [Turn.seen]
          split
          · have same := ih nextFollows orderly.2 undrained.2 following
            exact same
          · next drains =>
              have last : ¬∃ next, .read next ∈ later := fun more => drains (undrained.1 more)
              obtain ⟨same, bounded⟩ :=
                matchingUpTo_follow_add nextFollows orderly.2 last following selection
              rw [Turn.lastBound, bounded]
              exact same.symm

/-- A fresh cursor that reads a growing history window by window, with nothing remaining at any of
them, shows exactly once and in the order of keys what a selection selects up to the last bound, as
far as it was stored when a window first drained the bucket. Where only the last window does, that
is all that is stored at the end. Witness: the bound that the cursor tracks, kept by each turn, and
induction on the turns.
-/
theorem windows_follow_growth {history : History} (works : history.store.Works)
    (recorded : (history.store.bucket thing).Recorded thing) (name : Option String)
    {turns : List Turn} (orderly : Turn.Orderly thing none turns)
    : ∃ pages after,
        (Follower.mk history (.opened thing name)).follow turns = .ok (pages, after)
        ∧ ((∀ page ∈ pages, page.remaining = false)
            → (Page.concat pages).Nodup
              ∧ Page.concat pages
                = (Turn.seen thing history turns).matchingUpTo (Turn.lastBound none turns)
                    (.of thing name)
              ∧ (Turn.Undrained thing history turns
                → Page.concat pages
                  = (after.history.store.bucket thing).matchingUpTo (Turn.lastBound none turns)
                      (.of thing name))) := by
  obtain ⟨pages, after, following⟩ :=
    (Follower.mk history (.opened thing name)).follow_of_works works turns
  refine ⟨pages, after, following, fun complete => ?_⟩
  have follows : (Follower.mk history (.opened thing name)).Follows thing := ⟨works, recorded, rfl⟩
  have read := concat_follow follows (Position.tracks_unplaced _) orderly following complete
  have nothing
      : (history.store.bucket thing).matchingUpTo none (.of thing name) = [] :=
    List.filter_eq_nil_iff.mpr fun _ _ => by simp [Window.isAfter]
  replace read : Page.concat pages = _ := (List.nil_append _).symm.trans (nothing ▸ read)
  refine ⟨?_, read, fun undrained => read.trans ?_⟩
  · rw [read]
    exact (Bucket.nodup_matching (recorded_seen works recorded turns) _).filter _
  · exact matchingUpTo_seen follows orderly undrained following _

/-- A lamp of which nothing is known yet, and a fresh cursor on it. -/
def ofLamp : Follower :=
  { history := { store := .empty, keys := toString }, cursor := .opened "lamp" none }

/-- A window up to a number of seconds after the beginning of 1970. -/
def readTo (seconds : Int) : Turn :=
  .read { bound := Timestamp.epoch.addSeconds seconds, limit := 0 }

/-- A property of the lamp that is set a number of seconds after the beginning of 1970. -/
def setAt (name : String) (seconds : Int) : Turn :=
  .add { now := Timestamp.epoch.addSeconds seconds, ticks := 0 }
    (.ofLamp name (Timestamp.epoch.addSeconds seconds))

/-- A lamp that is set in front of and behind the first of two windows shows in the second one. -/
theorem windows_follow_lamp
    : ∃ after,
        ofLamp.follow [setAt "on" 2, readTo 1, setAt "bright" 4, readTo 3]
          = .ok ([⟨[], false⟩, ⟨[.ofLamp "on" (Timestamp.epoch.addSeconds 2)], false⟩], after)
        ∧ [.ofLamp "on" (Timestamp.epoch.addSeconds 2)]
          = (after.history.store.bucket "lamp").matchingUpTo (some 3000) (.of "lamp" none) := by
  have orderly
      : Turn.Orderly "lamp" none [setAt "on" 2, readTo 1, setAt "bright" 4, readTo 3] := by
    refine ⟨fun _ => rfl, fun _ none => (nomatch none), fun _ => by decide, fun earlier same => ?_,
      trivial⟩
    cases same
    decide
  have undrained
      : Turn.Undrained "lamp" ofLamp.history
          [setAt "on" 2, readTo 1, setAt "bright" 4, readTo 3] :=
    ⟨fun _ => rfl, fun _ => rfl, trivial⟩
  have works : ofLamp.history.store.Works := trivial
  have known : (ofLamp.history.store.bucket "lamp").Recorded "lamp" :=
    Bucket.recorded_empty "lamp"
  obtain ⟨pages, after, following, shown⟩ := windows_follow_growth works known none orderly
  have pagesShown
      : ∃ last,
          ofLamp.follow [setAt "on" 2, readTo 1, setAt "bright" 4, readTo 3]
            = .ok ([⟨[], false⟩, ⟨[.ofLamp "on" (Timestamp.epoch.addSeconds 2)], false⟩], last) :=
    ⟨_, rfl⟩
  obtain ⟨last, same⟩ := pagesShown
  cases following.symm.trans same
  exact ⟨after, same, (shown (by simp)).2.2 undrained⟩

/-- A value that is added once a window has found the bucket empty is not met by the next window,
although it lies within its bound.
-/
theorem growth_after_drain_is_missed
    : Turn.Orderly "lamp" none [readTo 1, setAt "on" 2, readTo 3]
      ∧ ∃ after,
          ofLamp.follow [readTo 1, setAt "on" 2, readTo 3]
            = .ok ([⟨[], false⟩, ⟨[], false⟩], after)
          ∧ (after.history.store.bucket "lamp").matchingUpTo (some 3000) (.of "lamp" none)
            = [.ofLamp "on" (Timestamp.epoch.addSeconds 2)] := by
  have stored
      : ∃ after,
          ofLamp.follow [readTo 1, setAt "on" 2, readTo 3]
            = .ok ([⟨[], false⟩, ⟨[], false⟩], after)
          ∧ (after.history.store.bucket "lamp").matching (.of "lamp" none)
            = [.ofLamp "on" (Timestamp.epoch.addSeconds 2)] :=
    ⟨_, rfl, rfl⟩
  obtain ⟨after, following, all⟩ := stored
  refine ⟨⟨fun _ none => (nomatch none), fun _ => by decide, fun earlier same => ?_, trivial⟩,
    after, following, ?_⟩
  · cases same
    decide
  · rw [Bucket.matchingUpTo, all]
    rfl

end Follower

end ValueHistory
