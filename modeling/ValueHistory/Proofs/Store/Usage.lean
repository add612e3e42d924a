import ValueHistory.Proofs.Store.Contents

/-! Programs that use a store. They open buckets, use and close their handles on them, and move
cursors, any number of each at a time. The kind of the store makes no difference to them: a map for
every bucket and one table with the rows of all buckets give the same answers, and neither fails.
-/

namespace ValueHistory.Store

-----------------------------------------------------------------------------------------
-- What a program does with a store
-----------------------------------------------------------------------------------------

/-- What a program asks of a bucket that it has a handle on. -/
inductive BucketUse where
  | name
  | get (key : Bytes)
  | set (key payload : Bytes)
  | delete (key : Bytes)
  | size
  | isEmpty
  | openCursor
  | close
deriving DecidableEq

/-- What a program asks of a cursor. -/
inductive CursorUse where
  | bucketName
  | move (move : Move)
  | release
deriving DecidableEq

/-- What a program asks of a store. It calls its handles and its cursors by number. -/
inductive Operation where
  | openBucket (name : String)
  | onHandle (handle : Nat) (use : BucketUse)
  | onCursor (cursor : Nat) (use : CursorUse)
deriving DecidableEq

/-- What a program is answered. -/
inductive Answer where
  | number (number : Nat)
  | name (name : String)
  | payload (payload : Option Bytes)
  | entry (entry : Option Entry)
  | size (size : Nat)
  | isEmpty (isEmpty : Bool)
  | done
  | notOpen
deriving DecidableEq

/-- A store in use: the buckets that the handles are on, and the buckets and positions of the
cursors. A handle that is closed and a cursor that is released leave their numbers.
-/
structure Usage where
  store : Store
  handles : List (Option String) := []
  cursors : List (Option (String × Position)) := []

namespace Usage

/-- Asks something of the bucket that a handle is on. A cursor needs the handle no longer once it
is open.
-/
def askBucket (usage : Usage) (handle : Nat) (name : String)
    : BucketUse → Except StoreFailure (Answer × Usage)
  | .name => .ok (.name name, usage)
  | .get key => (usage.store.get name key).map fun payload => (.payload payload, usage)
  | .set key payload =>
    (usage.store.set name key payload).map fun store => (.done, { usage with store })
  | .delete key => (usage.store.delete name key).map fun store => (.done, { usage with store })
  | .size => (usage.store.size name).map fun size => (.size size, usage)
  | .isEmpty => (usage.store.size name).map fun size => (.isEmpty (size == 0), usage)
  | .openCursor =>
    .ok
      (.number usage.cursors.length,
        { usage with cursors := usage.cursors ++ [some (name, .unplaced)] })
  | .close => .ok (.done, { usage with handles := usage.handles.set handle none })

/-- Asks something of a cursor at a position in a bucket. -/
def askCursor (usage : Usage) (cursor : Nat) (name : String) (position : Position)
    : CursorUse → Except StoreFailure (Answer × Usage)
  | .bucketName => .ok (.name name, usage)
  | .move move =>
    (usage.store.move name position move).map fun (found, position) =>
      (.entry found, { usage with cursors := usage.cursors.set cursor (some (name, position)) })
  | .release => .ok (.done, { usage with cursors := usage.cursors.set cursor none })

/-- Carries out an operation. -/
def operate (usage : Usage) : Operation → Except StoreFailure (Answer × Usage)
  | .openBucket name =>
    (usage.store.openBucket name).map fun store =>
      (.number usage.handles.length,
        { usage with store, handles := usage.handles ++ [some name] })
  | .onHandle handle use =>
    match usage.handles[handle]? with
    | some (some name) => usage.askBucket handle name use
    | _ => .ok (.notOpen, usage)
  | .onCursor cursor use =>
    match usage.cursors[cursor]? with
    | some (some (name, position)) => usage.askCursor cursor name position use
    | _ => .ok (.notOpen, usage)

/-- Carries out operations one after the other, unless one fails. -/
def run (usage : Usage) : List Operation → Except StoreFailure (List Answer × Usage)
  | [] => .ok ([], usage)
  | operation :: later => do
    let (answer, usage) ← usage.operate operation
    let (answers, usage) ← usage.run later
    .ok (answer :: answers, usage)

-----------------------------------------------------------------------------------------
-- Two stores in the same use
-----------------------------------------------------------------------------------------

/-- Two stores in the same use: they hold the same, the handles and cursors on them are the same,
and every handle is on an open bucket of both.
-/
structure Agrees (usage other : Usage) : Prop where
  works : usage.store.Works
  otherWorks : other.store.Works
  contents : ∀ name, usage.store.bucket name = other.store.bucket name
  handles : usage.handles = other.handles
  cursors : usage.cursors = other.cursors
  isOpen
    : ∀ name, some name ∈ usage.handles → usage.store.IsOpen name ∧ other.store.IsOpen name

/-- Two outcomes that are the same answer and leave the stores in the same use. -/
def AnswersAlike (left right : Except StoreFailure (Answer × Usage)) : Prop :=
  ∃ answer usage other,
    left = .ok (answer, usage) ∧ right = .ok (answer, other) ∧ Agrees usage other

namespace Agrees

variable {usage other : Usage}

/-- The same value that is read from both stores makes the same answer. -/
theorem read {α : Type} (agrees : Agrees usage other) {left right : Except StoreFailure α}
    {value : α} (found : left = .ok value) (otherFound : right = .ok value)
    (answer : α → Answer)
    : AnswersAlike (left.map fun value => (answer value, usage))
        (right.map fun value => (answer value, other)) := by
  subst found otherFound
  exact ⟨answer value, usage, other, rfl, rfl, agrees⟩

/-- The same change of one bucket in both stores keeps them in the same use. -/
theorem change (agrees : Agrees usage other) {stored otherStored : Store} {name : String}
    {content : Bucket} (changes : Changes usage.store stored name content)
    (otherChanges : Changes other.store otherStored name content)
    : Agrees { usage with store := stored } { other with store := otherStored } := by
  refine {
    works := changes.works
    otherWorks := otherChanges.works
    contents := ?_
    handles := agrees.handles
    cursors := agrees.cursors
    isOpen := ?_
  }
  · intro name
    simp only [changes.contents, otherChanges.contents, agrees.contents]
  · intro name held
    obtain ⟨isOpen, otherOpen⟩ := agrees.isOpen name held
    exact ⟨changes.stays name isOpen, otherChanges.stays name otherOpen⟩

/-- A cursor that is opened, moved or released on both stores keeps them in the same use. -/
theorem withCursors (agrees : Agrees usage other) (cursors : List (Option (String × Position)))
    : Agrees { usage with cursors } { other with cursors } :=
  ⟨agrees.works, agrees.otherWorks, agrees.contents, agrees.handles, rfl, agrees.isOpen⟩

/-- A handle that is closed on both stores keeps them in the same use. -/
theorem close (agrees : Agrees usage other) (handle : Nat)
    : Agrees { usage with handles := usage.handles.set handle none }
        { other with handles := other.handles.set handle none } := by
  refine {
    works := agrees.works
    otherWorks := agrees.otherWorks
    contents := agrees.contents
    handles := congrArg (List.set · handle none) agrees.handles
    cursors := agrees.cursors
    isOpen := ?_
  }
  intro name held
  rcases List.mem_or_eq_of_mem_set held with earlier | closed
  · exact agrees.isOpen name earlier
  · cases closed

/-- What is asked of a bucket through a handle is answered alike. Only a bucket that is open is
given entries, so that no row is refused.
-/
theorem askBucket (agrees : Agrees usage other) {name : String}
    (held : some name ∈ usage.handles) (handle : Nat) (use : BucketUse)
    : AnswersAlike (usage.askBucket handle name use) (other.askBucket handle name use) := by
  obtain ⟨works, otherWorks, contents, handles, cursors, _⟩ := id agrees
  obtain ⟨isOpen, otherOpen⟩ := agrees.isOpen name held
  cases use with
  | name => exact ⟨_, _, _, rfl, rfl, agrees⟩
  | get key =>
      have otherFound := get_of_works otherWorks name key
      rw [← contents] at otherFound
      exact agrees.read (get_of_works works name key) otherFound .payload
  | size =>
      have otherCounted := size_of_works otherWorks name
      rw [← contents] at otherCounted
      exact agrees.read (size_of_works works name) otherCounted .size
  | isEmpty =>
      have otherCounted := size_of_works otherWorks name
      rw [← contents] at otherCounted
      exact agrees.read (size_of_works works name) otherCounted fun size => .isEmpty (size == 0)
  | set key payload =>
      obtain ⟨stored, sets, changes⟩ := exists_set isOpen key payload
      obtain ⟨otherStored, otherSets, otherChanges⟩ := exists_set otherOpen key payload
      rw [← contents] at otherChanges
      rw [Usage.askBucket, Usage.askBucket, sets, otherSets]
      exact ⟨_, _, _, rfl, rfl, agrees.change changes otherChanges⟩
  | delete key =>
      obtain ⟨left, deletes, changes⟩ := exists_delete works name key
      obtain ⟨otherLeft, otherDeletes, otherChanges⟩ := exists_delete otherWorks name key
      rw [← contents] at otherChanges
      rw [Usage.askBucket, Usage.askBucket, deletes, otherDeletes]
      exact ⟨_, _, _, rfl, rfl, agrees.change changes otherChanges⟩
  | openCursor =>
      rw [Usage.askBucket, Usage.askBucket, cursors]
      exact ⟨_, _, _, rfl, rfl, agrees.withCursors _⟩
  | close => exact ⟨_, _, _, rfl, rfl, agrees.close handle⟩

/-- What is asked of a cursor is answered alike, from the entries that its bucket has by then. -/
theorem askCursor (agrees : Agrees usage other) (cursor : Nat) (name : String)
    (position : Position) (use : CursorUse)
    : AnswersAlike (usage.askCursor cursor name position use)
        (other.askCursor cursor name position use) := by
  cases use with
  | bucketName => exact ⟨_, _, _, rfl, rfl, agrees⟩
  | move move =>
      rw [Usage.askCursor, Usage.askCursor, move_of_works agrees.works,
        move_of_works agrees.otherWorks, agrees.contents, agrees.cursors]
      exact ⟨_, _, _, rfl, rfl, agrees.withCursors _⟩
  | release =>
      rw [Usage.askCursor, Usage.askCursor, agrees.cursors]
      exact ⟨_, _, _, rfl, rfl, agrees.withCursors _⟩

/-- An operation on two stores in the same use has the same answer, and leaves them in the same
use.
-/
theorem operate (agrees : Agrees usage other) (operation : Operation)
    : AnswersAlike (usage.operate operation) (other.operate operation) := by
  cases operation with
  | openBucket name =>
      obtain ⟨opened, opens, changes, isOpen⟩ := exists_openBucket agrees.works name
      obtain ⟨otherOpened, otherOpens, otherChanges, otherOpen⟩ :=
        exists_openBucket agrees.otherWorks name
      rw [← agrees.contents] at otherChanges
      have going := agrees.change changes otherChanges
      rw [Usage.operate, Usage.operate, opens, otherOpens, agrees.handles]
      refine ⟨_, _, _, rfl, rfl, { going with handles := rfl, isOpen := ?_ }⟩
      intro earlier held
      rcases List.mem_append.mp held with before | new
      · exact going.isOpen earlier (agrees.handles ▸ before)
      · cases List.mem_singleton.mp new
        exact ⟨isOpen, otherOpen⟩
  | onHandle handle use =>
      rw [Usage.operate, Usage.operate, ← agrees.handles]
      split
      · next name at_handle =>
          exact agrees.askBucket (List.mem_of_getElem? at_handle) handle use
      · exact ⟨_, _, _, rfl, rfl, agrees⟩
  | onCursor cursor use =>
      rw [Usage.operate, Usage.operate, ← agrees.cursors]
      split
      · exact agrees.askCursor cursor _ _ use
      · exact ⟨_, _, _, rfl, rfl, agrees⟩

/-- Operations on two stores in the same use have the same answers, by induction on the run. -/
theorem run (agrees : Agrees usage other) (operations : List Operation)
    : ∃ answers reached otherReached,
        usage.run operations = .ok (answers, reached)
        ∧ other.run operations = .ok (answers, otherReached)
        ∧ Agrees reached otherReached := by
  induction operations generalizing usage other with
  | nil => exact ⟨[], usage, other, rfl, rfl, agrees⟩
  | cons operation later ih =>
      obtain ⟨answer, next, otherNext, first, otherFirst, agreesNext⟩ := agrees.operate operation
      obtain ⟨answers, reached, otherReached, rest, otherRest, agreesLast⟩ := ih agreesNext
      refine ⟨answer :: answers, reached, otherReached, ?_, ?_, agreesLast⟩
      · simp only [Usage.run, first, rest, bind, Except.bind]
      · simp only [Usage.run, otherFirst, otherRest, bind, Except.bind]

end Agrees

end Usage

-----------------------------------------------------------------------------------------
-- Memory and database
-----------------------------------------------------------------------------------------

/-- A new database is set up and holds nothing. -/
theorem exists_upgrade_blank
    : ∃ database,
        Database.blank.upgrade = (.ok (), database)
        ∧ (inDatabase database).Works
        ∧ ∀ name, (inDatabase database).bucket name = .empty :=
  ⟨_, rfl, rfl, fun _ => rfl⟩

/-- A program gets the same answers from a store in memory and from one in a database that hold the
same to begin with, whatever it does with any number of buckets, handles and cursors. Neither store
fails, and in the end they hold the same again. Witness: two usages agree after each operation, by
induction on the operations.
-/
theorem memory_and_database_answer_alike {memory : Memory} {database : Database}
    (works : (inDatabase database).Works)
    (same : ∀ name, (inMemory memory).bucket name = (inDatabase database).bucket name)
    (operations : List Operation)
    : ∃ answers reached otherReached,
        (Usage.mk (inMemory memory) [] []).run operations = .ok (answers, reached)
        ∧ (Usage.mk (inDatabase database) [] []).run operations = .ok (answers, otherReached)
        ∧ ∀ name, reached.store.bucket name = otherReached.store.bucket name := by
  have agrees
      : Usage.Agrees (Usage.mk (inMemory memory) [] []) (Usage.mk (inDatabase database) [] []) :=
    ⟨trivial, works, same, rfl, rfl, fun _ held => absurd held List.not_mem_nil⟩
  obtain ⟨answers, reached, otherReached, run, otherRun, agreesLast⟩ := agrees.run operations
  exact ⟨answers, reached, otherReached, run, otherRun, agreesLast.contents⟩

/-- A lamp and a door are opened, and entries are added to the lamp while a cursor stands in it. -/
def lampAndDoor : List Operation :=
  [ .openBucket "lamp"
  , .openBucket "door"
  , .onHandle 0 (.set [2] [20])
  , .onHandle 1 (.set [1] [])
  , .onHandle 0 .openCursor
  , .onCursor 0 (.move .next)
  , .onHandle 0 (.set [1] [10])
  , .onCursor 0 (.move .prev)
  , .onHandle 0 (.delete [2])
  , .onCursor 0 (.move .next)
  , .onHandle 0 .close
  , .onHandle 0 .size
  , .openBucket "lamp"
  , .onHandle 2 (.get [1])
  , .onHandle 2 .size
  , .onHandle 1 .isEmpty
  , .onCursor 0 .bucketName
  , .onCursor 0 .release ]

/-- What is answered: the cursor of the lamp finds the entry that was added in front of it, and
nothing of the door.
-/
def lampAndDoorAnswers : List Answer :=
  [ .number 0
  , .number 1
  , .done
  , .done
  , .number 0
  , .entry (some ([2], [20]))
  , .done
  , .entry (some ([1], [10]))
  , .done
  , .entry none
  , .done
  , .notOpen
  , .number 2
  , .payload (some [10])
  , .size 1
  , .isEmpty false
  , .name "lamp"
  , .done ]

/-- A new database answers for the lamp and the door as memory does. -/
theorem lamp_and_door_answered_alike
    : ∃ database reached otherReached,
        Database.blank.upgrade = (.ok (), database)
        ∧ (inDatabase database).Works
        ∧ (∀ name, empty.bucket name = (inDatabase database).bucket name)
        ∧ (Usage.mk empty [] []).run lampAndDoor = .ok (lampAndDoorAnswers, reached)
        ∧ (Usage.mk (inDatabase database) [] []).run lampAndDoor
          = .ok (lampAndDoorAnswers, otherReached)
        ∧ ∀ name, reached.store.bucket name = otherReached.store.bucket name := by
  obtain ⟨database, upgrades, works, blank⟩ := exists_upgrade_blank
  have same : ∀ name, (inMemory .empty).bucket name = (inDatabase database).bucket name :=
    fun name => (blank name).symm
  obtain ⟨answers, reached, otherReached, run, otherRun, contents⟩ :=
    memory_and_database_answer_alike works same lampAndDoor
  have answered : lampAndDoorAnswers = answers := by
    have evaluated : (Usage.mk empty [] []).run lampAndDoor = .ok (lampAndDoorAnswers, _) := rfl
    exact congrArg Prod.fst (Except.ok.inj (evaluated.symm.trans run))
  subst answered
  exact ⟨database, reached, otherReached, upgrades, works, same, run, otherRun, contents⟩

end ValueHistory.Store
