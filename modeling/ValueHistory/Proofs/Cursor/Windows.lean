import ValueHistory.Cursor.Basic
import ValueHistory.Proofs.Cursor.Paging

/-! A history read window by window. The pages of a cursor, whatever the times up to which they are
asked for and however long they may be, follow each other without a gap and without overlap.
-/

namespace ValueHistory

/-- A call for a page: the time up to which it goes, and how many values it may hold. -/
structure Window where
  bound : Timestamp
  limit : Nat

namespace Window

/-- The number of values that fit on the page; zero means the default one. -/
def room (window : Window) : Nat :=
  if window.limit = 0 then defaultPageLimit else window.limit

/-- The page that a window shows of the values left to read. -/
def page (direction : Direction) (window : Window) (rest : List Observation) : Page :=
  let inside := rest.filter fun value => !direction.crosses window.bound.millis value.millis
  { values := inside.take window.room, remaining := window.room < inside.length }

/-- A page with room for all that is left to read holds all within its bound. -/
theorem values_of_room {direction : Direction} {window : Window}
    {rest : List Observation} (enough : rest.length ≤ window.room)
    : (window.page direction rest).values
      = rest.filter fun value => !direction.crosses window.bound.millis value.millis :=
  List.take_of_length_le (Nat.le_trans (List.length_filter_le ..) enough)

end Window

namespace Cursor

/-- The pages that a cursor answers to windows one after the other, and the cursor after them. -/
def pages (cursor : Cursor) (lookup : Lookup) (direction : Direction)
    : List Window → List Page × Cursor
  | [] => ([], cursor)
  | window :: later =>
    let (page, cursor) := cursor.page lookup direction window.bound window.limit
    let (pages, cursor) := cursor.pages lookup direction later
    (page :: pages, cursor)

end Cursor

/-- The values on pages, one page after the other. -/
def Page.concat (pages : List Page) : List Observation :=
  pages.flatMap Page.values

/-- The values of a bucket that a selection selects, as they come on a way. -/
def Direction.matching (direction : Direction) (selection : Selection) (bucket : Bucket)
    : List Observation :=
  match direction with
  | forward => bucket.matching selection
  | backward => (bucket.matching selection).reverse

/-- The values that a cursor has left to read on a way, in the order in which it meets them. -/
def Cursor.rest (direction : Direction) (bucket : Bucket) (cursor : Cursor) : List Observation :=
  cursor.position.rest cursor.selection direction bucket

namespace Cursor

variable {thing : String} {bucket : Bucket} {direction : Direction}

theorem concat_pages_singleton (cursor : Cursor) (lookup : Lookup) (direction : Direction)
    (window : Window)
    : Page.concat (cursor.pages lookup direction [window]).1
      = (cursor.page lookup direction window.bound window.limit).1.values :=
  List.append_nil _

/-- A cursor that has not moved has the values of all accepted entries left to read. -/
theorem rest_opened_eq (thing : String) (name : Option String) (direction : Direction)
    (bucket : Bucket)
    : (opened thing name).rest direction bucket
      = (direction.along bucket.entries).filterMap (Selection.of thing name).accept? :=
  congrArg (List.filterMap _) (Position.ahead_unplaced direction bucket)

/-- From recorded entries a cursor that has not moved has all selected values left to read. -/
theorem rest_opened (recorded : bucket.Recorded thing) (name : Option String)
    (direction : Direction)
    : (opened thing name).rest direction bucket
      = direction.matching (.of thing name) bucket := by
  rw [rest_opened_eq]
  cases direction with
  | forward => exact (Bucket.matching_eq_filterMap recorded _).symm
  | backward =>
      rw [Direction.matching, Bucket.matching_eq_filterMap recorded, Direction.along,
        List.filterMap_reverse]

/-- A window is a page of a scan from the position of the cursor, which moves the cursor. -/
theorem page_cases {cursor after : Cursor} {lookup : Lookup} {window : Window} {page : Page}
    (h : cursor.page lookup direction window.bound window.limit = (page, after))
    : ∃ position,
        Scan.page cursor.selection lookup direction window.bound.millis window.room
            cursor.position
          = (page, position)
        ∧ after = { cursor with position } := by
  cases h
  exact ⟨_, rfl, rfl⟩

/-- Without obstructions a window shows a page of what is left to read, and leaves the values that
come after it.
-/
theorem page_shows_of_unobstructed {cursor after : Cursor} {window : Window} {page : Page}
    (clear : bucket.Unobstructed cursor.selection direction)
    (h : cursor.page (.ofBucket bucket) direction window.bound window.limit = (page, after))
    : page = window.page direction (cursor.rest direction bucket)
      ∧ page.values ++ after.rest direction bucket = cursor.rest direction bucket := by
  obtain ⟨position, answer, rfl⟩ := page_cases h
  obtain ⟨values, remaining, left⟩ := Scan.page_reaches answer
  rw [clear.reach_eq_due] at values remaining
  -- what is due comes before all that is not, so that the page is cut from the front
  have front : page.values <+: cursor.rest direction bucket := by
    rw [values]
    exact (List.take_prefix ..).trans (List.takeWhile_prefix _)
  refine ⟨?_, ?_⟩
  · rw [clear.due_rest] at values remaining
    cases page
    simp only at values remaining
    rw [values, remaining]
    rfl
  · simp only [rest, left]
    exact List.prefix_iff_eq_append.mp front

theorem page_shows (recorded : bucket.Recorded thing) {cursor after : Cursor} {window : Window}
    {page : Page}
    (h : cursor.page (.ofBucket bucket) direction window.bound window.limit = (page, after))
    : page = window.page direction (cursor.rest direction bucket)
      ∧ page.values ++ after.rest direction bucket = cursor.rest direction bucket :=
  page_shows_of_unobstructed (recorded.unobstructed cursor.selection direction) h

/-- Windows read the values in their order without a gap: those on the pages and those left to read
make up what was left before, by induction on the windows.
-/
theorem concat_pages (recorded : bucket.Recorded thing) {windows : List Window}
    {cursor after : Cursor} {pages : List Page}
    (h : cursor.pages (.ofBucket bucket) direction windows = (pages, after))
    : Page.concat pages ++ after.rest direction bucket = cursor.rest direction bucket := by
  induction windows generalizing cursor pages with
  | nil =>
      cases h
      rfl
  | cons window later ih =>
      cases answer : cursor.page (.ofBucket bucket) direction window.bound window.limit with
      | mk page next =>
          cases following : next.pages (.ofBucket bucket) direction later with
          | mk others last =>
              simp only [Cursor.pages, answer, following] at h
              cases h
              obtain ⟨_, split⟩ := page_shows recorded answer
              rw [← split, ← ih following, Page.concat, List.flatMap_cons, List.append_assoc]
              rfl

/-- Windows in any order and of any sizes neither lose a value nor repeat one. At every call the
values on the earlier pages are the first ones of the history, and the page holds as many as fit of
the remaining ones within its bound, and tells whether there are more. Witness: each page takes its
values from the front of what is left to read, by induction on the windows before it.
-/
theorem windows_cover_history (recorded : bucket.Recorded thing) (name : Option String)
    (direction : Direction) (earlier : List Window) (window : Window)
    : ∃ rest,
        Page.concat ((opened thing name).pages (.ofBucket bucket) direction earlier).1 ++ rest
          = direction.matching (.of thing name) bucket
        ∧ (((opened thing name).pages (.ofBucket bucket) direction earlier).2.page
              (.ofBucket bucket) direction window.bound window.limit).1
          = window.page direction rest
        ∧ (direction.matching (.of thing name) bucket).Nodup := by
  cases pages : (opened thing name).pages (.ofBucket bucket) direction earlier with
  | mk shown after =>
      cases answer : after.page (.ofBucket bucket) direction window.bound window.limit with
      | mk page last =>
          refine ⟨after.rest direction bucket, ?_, (page_shows recorded answer).1, ?_⟩
          · rw [← rest_opened recorded, ← concat_pages recorded pages]
          · cases direction with
            | forward => exact Bucket.nodup_matching recorded _
            | backward =>
                exact List.pairwise_reverse.mpr ((Bucket.nodup_matching recorded _).imp Ne.symm)

/-- The windows of a bucket that holds what was seen of a lamp. -/
theorem windows_cover_lamp
    : Bucket.Recorded "lamp" Bucket.ofLamp
      ∧ ∃ rest,
          Page.concat
              ((opened "lamp" none).pages (.ofBucket Bucket.ofLamp) .backward
                [⟨.epoch, 1⟩, ⟨.epoch, 0⟩]).1
            ++ rest
            = Direction.backward.matching (.of "lamp" none) Bucket.ofLamp
          ∧ (((opened "lamp" none).pages (.ofBucket Bucket.ofLamp) .backward
                [⟨.epoch, 1⟩, ⟨.epoch, 0⟩]).2.page
                (.ofBucket Bucket.ofLamp) .backward .epoch 2).1
            = Window.page .backward ⟨.epoch, 2⟩ rest
          ∧ (Direction.backward.matching (.of "lamp" none) Bucket.ofLamp).Nodup :=
  ⟨Bucket.recorded_ofLamp,
    windows_cover_history Bucket.recorded_ofLamp none .backward [⟨.epoch, 1⟩, ⟨.epoch, 0⟩]
      ⟨.epoch, 2⟩⟩

end Cursor

end ValueHistory
