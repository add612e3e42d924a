import ValueHistory.CommandLine.OnDisk
import ValueHistory.Proofs.Disk.Keeping
import ValueHistory.Proofs.Store.Contents

/-! Databases of any version brought to the schema. A database of a later version is refused as it
is, and one of a natural version goes through exactly the steps that it has not been through, or is
left as it is where a statement of them fails: what the statements before it have made is taken back
then. A negative version is apart: it counts as one with all steps behind it, so that such a
database is opened without our tables.
-/

namespace ValueHistory

namespace Database

variable {database : Database}

-----------------------------------------------------------------------------------------
-- Statements and steps one after the other
-----------------------------------------------------------------------------------------

/-- The schema after statements, each of which takes what the one before it has left. -/
def applied (schema : Schema) (statements : List Statement) : Except StoreFailure Schema :=
  statements.foldlM (fun schema statement => statement schema) schema

/-- The version after steps, of which the last one sets the version that it leads to. -/
def versionAfter (version : Int) (next : Nat) : List Migration → Int
  | [] => version
  | _ :: later => versionAfter next (next + 1) later

/-- Statements of two lists take what the ones of the first list have left, by the fold over an
append.
-/
theorem applied_append (schema : Schema) (statements later : List Statement)
    : applied schema (statements ++ later)
      = (applied schema statements).bind fun schema => applied schema later := by
  rw [applied, List.foldlM_append]
  rfl

/-- Statements that all go through have made the schema that they make one after the other, by
induction on them.
-/
theorem attempt_of_ok {schema made : Schema} {statements : List Statement}
    (through : applied schema statements = .ok made)
    : attempt schema statements = (.ok (), made) := by
  induction statements generalizing schema with
  | nil =>
      cases through
      rfl
  | cons statement later ih =>
      rw [applied, List.foldlM_cons] at through
      rw [attempt]
      cases first : statement schema with
      | error failure =>
          rw [first] at through
          cases through
      | ok next =>
          rw [first] at through
          exact ih through

/-- Statements of which one fails end with its failure, by induction on them. -/
theorem attempt_of_error {schema : Schema} {statements : List Statement} {failure : StoreFailure}
    (failed : applied schema statements = .error failure)
    : (attempt schema statements).1 = .error failure := by
  induction statements generalizing schema with
  | nil => cases failed
  | cons statement later ih =>
      rw [applied, List.foldlM_cons] at failed
      rw [attempt]
      cases first : statement schema with
      | error other =>
          rw [first] at failed
          cases failed
          rfl
      | ok next =>
          rw [first] at failed
          exact ih failed

/-- A step that goes through is kept with the version that it leads to. -/
theorem transact_of_ok {schema : Schema} {step : Migration}
    (through : applied database.schema step = .ok schema) (version : Int)
    : database.transact step version = (.ok (), { version, schema }) := by
  rw [transact, attempt_of_ok through]

/-- A step that fails is taken back, however many of its statements went through. -/
theorem transact_of_error {step : Migration} {failure : StoreFailure}
    (failed : applied database.schema step = .error failure) (version : Int)
    : database.transact step version = (.error failure, database) := by
  have ends := attempt_of_error failed
  rw [transact]
  generalize attempt database.schema step = reached at ends
  obtain ⟨_, _⟩ := reached
  cases ends
  rfl

/-- Steps that go through have run all their statements, and set the version of the last one, by
induction on them.
-/
theorem migrate_of_ok {schema : Schema} {steps : List Migration}
    (through : applied database.schema steps.flatten = .ok schema) (next : Nat)
    : database.migrate steps next
      = (.ok (), { version := versionAfter database.version next steps, schema }) := by
  induction steps generalizing database next with
  | nil =>
      cases through
      rfl
  | cons step later ih =>
      rw [List.flatten_cons, applied_append] at through
      cases first : applied database.schema step with
      | error failure =>
          rw [first] at through
          cases through
      | ok made =>
          rw [first] at through
          rw [migrate, transact_of_ok first]
          refine ih ?_ (next + 1)
          exact through

/-- Steps count up to the version of the last one, by induction on them. -/
theorem versionAfter_cons (version : Int) (next : Nat) (step : Migration) (later : List Migration)
    : versionAfter version next (step :: later) = next + later.length := by
  induction later generalizing version next step with
  | nil => simp [versionAfter]
  | cons another later ih =>
      rw [versionAfter, ih, List.length_cons]
      omega

/-- All steps after the first few lead to the version of the last one. -/
theorem versionAfter_drop {steps : List Migration} {done : Nat} (within : done ≤ steps.length)
    : versionAfter done (done + 1) (steps.drop done) = steps.length := by
  cases left : steps.drop done with
  | nil =>
      have all := List.drop_eq_nil_iff.mp left
      rw [versionAfter]
      omega
  | cons step later =>
      have length := congrArg List.length left
      rw [List.length_drop, List.length_cons] at length
      rw [versionAfter_cons]
      omega

-----------------------------------------------------------------------------------------
-- The steps of the schema
-----------------------------------------------------------------------------------------

/-- A natural version is the number of the steps behind it. -/
theorem stepsDone_of_nonneg {version : Int} (natural : 0 ≤ version)
    (inRange : version ≤ schemaVersion)
    : (stepsDone version : Int) = version := by
  have small : version < Decimal.maxUnsigned64 + 1 := Int.lt_of_le_of_lt inRange (by decide)
  rw [stepsDone, Int.emod_eq_of_lt natural small, Int.toNat_of_nonneg natural]

/-- A negative version counts from the far end of the unsigned numbers, so that it has all steps of
the schema behind it.
-/
theorem drop_stepsDone_of_neg {version : Int} (signed : Decimal.minInteger64 ≤ version)
    (negative : version < 0)
    : migrations.drop (stepsDone version) = [] := by
  apply List.drop_eq_nil_of_le
  have wrapped : version % (Decimal.maxUnsigned64 + 1) = version + (Decimal.maxUnsigned64 + 1) := by
    rw [← Int.add_emod_right]
    apply Int.emod_eq_of_lt
    all_goals
      simp only [Decimal.minInteger64, Decimal.maxUnsigned64] at signed ⊢
      omega
  rw [stepsDone, wrapped]
  simp only [Decimal.minInteger64, Decimal.maxUnsigned64, migrations, List.length_singleton]
    at signed ⊢
  omega

/-- The steps of the schema leave the database as it was where one of them fails: it is the first
one that is run, and it is taken back.
-/
theorem migrate_drop_of_error {done : Nat} {failure : StoreFailure}
    (failed : applied database.schema (migrations.drop done).flatten = .error failure) (next : Nat)
    : database.migrate (migrations.drop done) next = (.error failure, database) := by
  cases done with
  | zero =>
      have first : applied database.schema [createBuckets, createRows] = .error failure := failed
      rw [List.drop_zero, migrations, migrate, transact_of_error first]
  | succ more =>
      rw [migrations, List.drop_succ_cons, List.drop_nil] at failed
      cases failed

theorem upgrade_of_later (later : schemaVersion < database.version)
    : database.upgrade
      = (.error (.unsupportedSchema database.version schemaVersion), database) :=
  if_pos later

/-- A database that is not of a later version runs the steps that its version does not count. -/
theorem upgrade_of_not_later (accepted : ¬schemaVersion < database.version)
    : database.upgrade
      = database.migrate (migrations.drop (stepsDone database.version))
          (stepsDone database.version + 1) :=
  if_neg accepted

/-- A database of a negative version is opened as it is. -/
theorem upgrade_of_neg (signed : Decimal.minInteger64 ≤ database.version)
    (negative : database.version < 0)
    : database.upgrade = (.ok (), database) := by
  have accepted : ¬schemaVersion < database.version := by
    have positive : 0 < schemaVersion := by decide
    omega
  rw [upgrade_of_not_later accepted, drop_stepsDone_of_neg signed negative]
  rfl

/-- A database of a natural version runs the steps from its version on. -/
theorem upgrade_of_nonneg (natural : 0 ≤ database.version)
    (accepted : database.version ≤ schemaVersion)
    : database.upgrade
      = database.migrate (migrations.drop database.version.toNat)
          (database.version.toNat + 1) := by
  have done := stepsDone_of_nonneg natural accepted
  have same : stepsDone database.version = database.version.toNat := by omega
  rw [upgrade_of_not_later (Int.not_lt.mpr accepted), same]

/-- A database of a natural version comes to the schema if the statements of the steps from its
version on go through.
-/
theorem upgrade_of_applied_ok {schema : Schema} (natural : 0 ≤ database.version)
    (accepted : database.version ≤ schemaVersion)
    (through
      : applied database.schema (migrations.drop database.version.toNat).flatten = .ok schema)
    : database.upgrade = (.ok (), { version := schemaVersion, schema }) := by
  have within : database.version.toNat ≤ migrations.length := by
    simp only [schemaVersion] at accepted
    omega
  have reached := versionAfter_drop within
  rw [Int.toNat_of_nonneg natural] at reached
  rw [upgrade_of_nonneg natural accepted, migrate_of_ok through, reached]
  rfl

/-- A database of a natural version is left as it was if one of those statements fails. -/
theorem upgrade_of_applied_error {failure : StoreFailure} (natural : 0 ≤ database.version)
    (accepted : database.version ≤ schemaVersion)
    (failed
      : applied database.schema (migrations.drop database.version.toNat).flatten
        = .error failure)
    : database.upgrade = (.error failure, database) := by
  rw [upgrade_of_nonneg natural accepted, migrate_drop_of_error failed]

/-- A database that no step has run on is refused as it is where either of the names of our tables
is taken, also if the table of the other name has been made by then.
-/
theorem upgrade_of_taken (fresh : database.version = 0)
    (taken : database.schema.buckets ≠ .nothing ∨ database.schema.rows ≠ .nothing)
    : database.upgrade = (.error .database, database) := by
  apply upgrade_of_applied_error
  · exact Int.le_of_eq fresh.symm
  · rw [fresh]
    decide
  · rw [fresh]
    obtain ⟨_, buckets, rows⟩ := database
    cases buckets with
    | nothing =>
        cases rows with
        | nothing => simp at taken
        | foreign => rfl
        | table content => rfl
    | foreign => rfl
    | table content => rfl

/-- A database of the schema is not changed any more. -/
theorem upgrade_of_schemaVersion (current : database.version = schemaVersion)
    : database.upgrade = (.ok (), database) := by
  have all : migrations.drop database.version.toNat = [] := by
    rw [current]
    rfl
  rw [upgrade_of_nonneg (by rw [current]; decide) (Int.le_of_eq current), all]
  rfl

/-- Bringing a database to the schema leaves it as it was wherever it fails. -/
theorem eq_of_upgrade_error (signed : Decimal.minInteger64 ≤ database.version)
    {failure : StoreFailure} {left : Database} (failed : database.upgrade = (.error failure, left))
    : left = database := by
  by_cases later : schemaVersion < database.version
  · rw [upgrade_of_later later] at failed
    exact (Prod.mk.inj failed).2.symm
  · have accepted := Int.not_lt.mp later
    rcases Int.lt_or_le database.version 0 with negative | natural
    · rw [upgrade_of_neg signed negative] at failed
      cases failed
    · cases made : applied database.schema (migrations.drop database.version.toNat).flatten with
      | ok schema =>
          rw [upgrade_of_applied_ok natural accepted made] at failed
          cases failed
      | error other =>
          rw [upgrade_of_applied_error natural accepted made] at failed
          exact (Prod.mk.inj failed).2.symm

/-- The statements of the schema fail for no reason of the version. -/
theorem not_unsupported_of_applied {schema : Schema} {done : Nat} {failure : StoreFailure}
    (failed : applied schema (migrations.drop done).flatten = .error failure)
    : failure = .database := by
  cases done with
  | zero =>
      obtain ⟨buckets, rows⟩ := schema
      cases buckets with
      | nothing => cases rows <;> cases failed <;> rfl
      | foreign => exact (Except.error.inj failed).symm
      | table content => exact (Except.error.inj failed).symm
  | succ more =>
      rw [migrations, List.drop_succ_cons, List.drop_nil] at failed
      cases failed

/-- Only a database of a later version is refused for its version. -/
theorem upgrade_eq_unsupported_iff (signed : Decimal.minInteger64 ≤ database.version)
    {found supported : Int}
    : database.upgrade.1 = .error (.unsupportedSchema found supported)
      ↔ found = database.version ∧ supported = schemaVersion
        ∧ schemaVersion < database.version := by
  by_cases later : schemaVersion < database.version
  · rw [upgrade_of_later later]
    simp only [Except.error.injEq, StoreFailure.unsupportedSchema.injEq, later, and_true, eq_comm]
  · have accepted := Int.not_lt.mp later
    constructor
    · intro refused
      rcases Int.lt_or_le database.version 0 with negative | natural
      · rw [upgrade_of_neg signed negative] at refused
        cases refused
      · cases made : applied database.schema (migrations.drop database.version.toNat).flatten with
        | ok schema =>
            rw [upgrade_of_applied_ok natural accepted made] at refused
            cases refused
        | error failure =>
            rw [upgrade_of_applied_error natural accepted made] at refused
            cases Except.error.inj refused
            cases not_unsupported_of_applied made
    · intro refused
      exact absurd refused.2.2 later

end Database

-----------------------------------------------------------------------------------------
-- Stores that are opened
-----------------------------------------------------------------------------------------

namespace Store

/-- A store that can be written and counted: any bucket of it is opened, takes an entry, finds it
again and counts its entries.
-/
def Serves (store : Store) : Prop :=
  ∀ name key payload,
    ∃ opened stored,
      store.openBucket name = .ok opened
      ∧ opened.set name key payload = .ok stored
      ∧ stored.get name key = .ok (some payload)
      ∧ stored.size name = .ok (stored.bucket name).size

theorem serves_iff_works {store : Store} : store.Serves ↔ store.Works := by
  constructor
  · intro serves
    obtain ⟨opened, stored, opens, _⟩ := serves "" [] []
    exact works_of_openBucket opens
  · intro works name key payload
    obtain ⟨opened, stored, opens, sets, storedWorks, contents⟩ :=
      set_of_works works name key payload
    refine ⟨opened, stored, opens, sets, ?_, size_of_works storedWorks name⟩
    rw [get_of_works storedWorks, contents, if_pos rfl, OrderedMap.get?_insert, if_pos rfl]

end Store

namespace Database

variable {database : Database}

/-- A database that no store is opened on, wherever it is found on a disk: the disk stays as it was
found, with the database on it.
-/
def IsRefused (database : Database) (failure : StoreFailure) : Prop :=
  ∀ (settings : Settings) (disk opened : Disk) (environment : Environment) (keys : Nat → String)
    (complaint : List Char → String) (moment : Moment) (input : Bytes),
    Backend.ofName settings.storage.backend = .ok .sqlite
    → disk.openDatabase settings.storage.path = (.ok database, opened)
    → (settings.openStore (Disk.surroundings environment keys complaint moment input)).run disk
        = (.error failure, opened)
      ∧ opened.databaseOf settings.storage.path = .ok database

/-- A database that does not come to the schema is kept as it was found. -/
theorem isRefused_of_error {failure : StoreFailure}
    (failed : database.upgrade = (.error failure, database))
    : database.IsRefused failure := by
  intro settings disk opened environment keys complaint moment input inFile found
  have opens
      : ((Disk.surroundings environment keys complaint moment input).openDatabase
          settings.storage.path).run disk
        = pure (.ok database, opened) := found
  have written : database ≠ .blank := by
    rintro rfl
    cases failed
  have stands := Disk.databaseOf_of_openDatabase found
  have keeps := Disk.saveDatabase_of_databaseOf stands written
  have saves
      : ((Disk.surroundings environment keys complaint moment input).saveDatabase
          settings.storage.path database).run opened
        = pure ((), opened) := congrArg (fun disk => (pure ((), disk) : Id (Unit × Disk))) keeps
  refine ⟨?_, stands⟩
  simp only [Settings.openStore, inFile, StateT.run_bind, opens, pure_bind, failed, saves]
  rfl

/-- A database with nothing under the names of our tables is opened, unless it is of a later
version. It has tables then if its version is natural, and none if it is negative.
-/
theorem exists_upgrade_of_vacant (signed : Decimal.minInteger64 ≤ database.version)
    (vacant : database.schema = {}) (other : database.version ≠ schemaVersion)
    (accepted : database.version ≤ schemaVersion)
    : ∃ upgraded,
        database.upgrade = (.ok (), upgraded)
        ∧ ((Store.inDatabase upgraded).Serves ↔ 0 ≤ database.version) := by
  rcases Int.lt_or_le database.version 0 with negative | natural
  · refine ⟨database, upgrade_of_neg signed negative, ?_⟩
    rw [Store.serves_iff_works, Store.Works, tables, vacant]
    simpa [Schema.tables, Named.content?] using negative
  · have fresh : database.version.toNat = 0 := by
      have one : schemaVersion = 1 := rfl
      omega
    have made
        : applied database.schema (migrations.drop database.version.toNat).flatten
          = .ok { buckets := .table .empty, rows := .table .empty } := by
      rw [fresh, vacant]
      rfl
    refine ⟨_, upgrade_of_applied_ok natural accepted made, ?_⟩
    rw [Store.serves_iff_works]
    exact ⟨fun _ => natural, fun _ => rfl⟩

/-- A database of a natural version that comes to the schema has its version, and what the
statements of the steps from its own version on have made.
-/
theorem schema_of_ok {upgraded : Database} (natural : 0 ≤ database.version)
    (done : database.upgrade = (.ok (), upgraded))
    : upgraded.version = schemaVersion
      ∧ applied database.schema (migrations.drop database.version.toNat).flatten
        = .ok upgraded.schema := by
  have accepted : database.version ≤ schemaVersion := by
    apply Int.not_lt.mp
    intro later
    rw [upgrade_of_later later] at done
    cases done
  cases made : applied database.schema (migrations.drop database.version.toNat).flatten with
  | error failure =>
      rw [upgrade_of_applied_error natural accepted made] at done
      cases done
  | ok schema =>
      rw [upgrade_of_applied_ok natural accepted made] at done
      cases done
      exact ⟨rfl, rfl⟩

/-- Bringing a database to the schema, whatever version it has. One of a later version is refused,
and whenever it fails the database is left as it was and no store is opened on it. Where it
succeeds, doing it again changes nothing, and the database has come to the version of the schema
through exactly the statements of the steps from its own version on, each of them once and in order,
if and only if its version is natural: one of a negative version is left as it was, which counts as
a success. So a database with nothing under the names of our tables that is opened can be written
and counted if and only if its version is natural. Witness: the signed version is later, negative or
natural, and the steps that are left are run by induction.
-/
theorem natural_versions_come_to_schema (signed : Decimal.fitsInteger64 database.version = true)
    : (∀ found supported,
        database.upgrade.1 = .error (.unsupportedSchema found supported)
        ↔ found = database.version ∧ supported = schemaVersion
          ∧ schemaVersion < database.version)
      ∧ (∀ failure left,
          database.upgrade = (.error failure, left)
          → left = database ∧ database.IsRefused failure)
      ∧ (∀ upgraded,
          database.upgrade = (.ok (), upgraded)
          → upgraded.upgrade = (.ok (), upgraded)
            ∧ (upgraded.version = schemaVersion
                ∧ applied database.schema (migrations.drop database.version.toNat).flatten
                  = .ok upgraded.schema
              ↔ 0 ≤ database.version)
            ∧ (database.version < 0 → upgraded = database))
      ∧ (database.schema = {}
        → database.version ≠ schemaVersion
        → database.version ≤ schemaVersion
        → ∃ upgraded,
            database.upgrade = (.ok (), upgraded)
            ∧ ((Store.inDatabase upgraded).Serves ↔ 0 ≤ database.version)) := by
  have low : Decimal.minInteger64 ≤ database.version := by
    simp only [Decimal.fitsInteger64, Bool.and_eq_true, decide_eq_true_eq] at signed
    exact signed.1
  refine ⟨fun _ _ => upgrade_eq_unsupported_iff low, ?_, ?_, exists_upgrade_of_vacant low⟩
  · intro failure left failed
    cases eq_of_upgrade_error low failed
    exact ⟨rfl, isRefused_of_error failed⟩
  · intro upgraded done
    rcases Int.lt_or_le database.version 0 with negative | natural
    · cases (Prod.mk.inj ((upgrade_of_neg low negative).symm.trans done)).2
      refine ⟨done, ?_, fun _ => rfl⟩
      have positive : 0 < schemaVersion := by decide
      exact ⟨fun reached => by omega, fun natural => by omega⟩
    · have reached := schema_of_ok natural done
      refine ⟨upgrade_of_schemaVersion reached.1, ?_, ?_⟩
      · exact ⟨fun _ => natural, fun _ => reached⟩
      · intro negative
        omega

/-- A database of version -1 is opened, keeps its version and cannot be used. -/
theorem negative_version_is_kept
    : Decimal.fitsInteger64 (ofVersion (-1)).version = true
      ∧ (ofVersion (-1)).upgrade = (.ok (), ofVersion (-1))
      ∧ (ofVersion (-1)).version ≠ schemaVersion
      ∧ (ofVersion (-1)).schema = {}
      ∧ ¬(Store.inDatabase (ofVersion (-1))).Serves := by
  have signed : Decimal.fitsInteger64 (ofVersion (-1)).version = true := by decide
  have opened : (ofVersion (-1)).upgrade = (.ok (), ofVersion (-1)) := rfl
  obtain ⟨_, _, _, vacant⟩ := natural_versions_come_to_schema signed
  obtain ⟨upgraded, done, serves⟩ := vacant rfl (by decide) (by decide)
  cases (Prod.mk.inj (opened.symm.trans done)).2
  exact ⟨signed, opened, by decide, rfl, fun used => absurd (serves.mp used) (by decide)⟩

end Database

end ValueHistory
