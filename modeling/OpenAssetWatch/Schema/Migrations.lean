import OpenAssetWatch.Clock
import OpenAssetWatch.Library.Guard
import OpenAssetWatch.Text.Unicode

namespace OpenAssetWatch.Schema

open Library Text

/-- The code and the summary of an error. -/
structure SchemaMigrationError where
  code : String
  summary : String
deriving DecidableEq, Repr

/-- What a call raises: a refusal of its own, or an exception by the name of its type. -/
inductive Raised where
  | refused (error : SchemaMigrationError)
  | exception (type : String)
deriving DecidableEq, Repr

structure Migration where
  version : Nat
  name : String
  checksum : String
  sql : String
deriving DecidableEq, Repr

/-- The version with at least four digits, and the name. -/
def Migration.identifier (migration : Migration) : String :=
  let digits := (toString migration.version).toList
  String.ofList (List.replicate (4 - digits.length) '0' ++ digits) ++ "_" ++ migration.name

section Discovery

/-- An entry of the migration directory, and what reading it safely gives. -/
structure DirectoryEntry where
  name : List Char
  read : Except SchemaMigrationError ByteArray

def isNameChar (c : Char) : Bool := ('a' ≤ c && c ≤ 'z') || ('0' ≤ c && c ≤ '9')

/-- The version and the name in the name of a file. -/
def migrationFilename : List Char → Option (Nat × List Char)
  | a :: b :: c :: d :: '_' :: rest =>
    let stem := rest.take (rest.length - 4)
    if [a, b, c, d].all (fun digit => '0' ≤ digit && digit ≤ '9') && rest.drop (rest.length - 4) = ['.', 's', 'q', 'l'] &&
        stem.head?.any isNameChar && stem.all fun char => isNameChar char || char = '_' then
      some ([a, b, c, d].foldl (fun value digit => 10 * value + (digit.toNat - 48)) 0, stem)
    else none
  | _ => none

/-- A line begins with a backslash, behind white space of any number of lines. -/
def hasClientCommand : Bool → List Char → Bool
  | _, [] => false
  | fresh, char :: rest => (fresh && char = '\\') || hasClientCommand (char = '\n' || (fresh && isSpace char)) rest

/-- One entry of the loop of `discover_migrations`. -/
def discoverEntry (sha256 : ByteArray → String) (found : List Migration) (entry : DirectoryEntry) :
    Except SchemaMigrationError (List Migration) :=
  match migrationFilename entry.name with
  | none => .error ⟨"migration-filename-invalid", "Migration root contains an unrecognized entry."⟩
  | some (version, name) => do
    require (0 < version && !found.any (·.version = version))
      ⟨"migration-version-duplicate", "Migration versions must be unique and positive."⟩
    let payload ← entry.read
    require (!payload.isEmpty && !payload.data.contains 0)
      ⟨"migration-content-invalid", "Migration bytes are empty or malformed."⟩
    match String.fromUTF8? payload with
    | none => .error ⟨"migration-content-invalid", "Migration must be strict UTF-8 text."⟩
    | some sql =>
      require (!hasClientCommand true sql.toList)
        ⟨"migration-content-invalid", "Migration SQL cannot contain client-side include commands."⟩
      .ok (found ++ [{ version, name := String.ofList name, checksum := sha256 payload, sql }])

/-- `discover_migrations`, over the entries in the order in which the directory lists them. -/
def discoverMigrations (sha256 : ByteArray → String) (entries : List DirectoryEntry) :
    Except SchemaMigrationError (List Migration) := do
  let found ← entries.foldlM (discoverEntry sha256) []
  let migrations := found.insertionSort fun first second => first.version ≤ second.version
  match migrations.getLast? with
  | none => .error ⟨"migration-set-empty", "No reviewed schema migrations are available."⟩
  | some last =>
    require (migrations.map (·.version) = List.range' 1 last.version)
      ⟨"migration-version-gap", "Migration versions must be contiguous from 0001."⟩
    .ok migrations

/-- The migrations are numbered from 1 on in their order. -/
def Contiguous (migrations : List Migration) : Prop := migrations.map (·.version) = List.range' 1 migrations.length

theorem discoverMigrations_contiguous {sha256 : ByteArray → String} {entries : List DirectoryEntry}
    {available : List Migration} (discovered : discoverMigrations sha256 entries = .ok available) :
    available ≠ [] ∧ Contiguous available := by
  obtain ⟨found, _, rest⟩ := bind_eq_ok.mp discovered
  cases last : (found.insertionSort fun first second => first.version ≤ second.version).getLast? with
  | none => simp only [last] at rest; cases rest
  | some newest =>
    simp only [last] at rest
    obtain ⟨numbered, same⟩ := require_bind_eq_ok.mp rest
    cases same
    have versions := of_decide_eq_true numbered
    refine ⟨fun empty => ?_, ?_⟩
    · rw [empty] at last
      cases last
    · have length := congrArg List.length versions
      rw [List.length_map, List.length_range'] at length
      rw [Contiguous, versions, length]

end Discovery

section History

/-- A row of `oaw_schema_migrations`. -/
structure AppliedRow where
  version : Int
  name : String
  checksum : String
  appliedAt : Time
  executionDurationMs : Int
  applicationVersion : String
  minimumApplicationVersion : String
deriving DecidableEq, Repr

/-- The rows as `_load_applied` reads them. -/
def loadApplied (rows : List AppliedRow) : List AppliedRow :=
  rows.insertionSort fun first second => first.version ≤ second.version

/-- `range(1, last + 1)`. -/
def versionsTo (last : Int) : List Int := (List.range' 1 last.toNat).map Int.ofNat

def validateRow (available : List Migration) (row : AppliedRow) : Except SchemaMigrationError Unit :=
  match available.reverse.find? fun migration => migration.version = row.version with
  | none => .error ⟨"unknown-applied-version", "Database contains an unknown applied migration version."⟩
  | some migration => do
    require (row.name = migration.name) ⟨"applied-name-mismatch", "Applied migration name is immutable."⟩
    require (row.checksum = migration.checksum)
      ⟨"migration-checksum-mismatch", "Applied migration checksum does not match reviewed bytes."⟩

/-- `_validate_applied_history`. -/
def validateAppliedHistory (applied : List AppliedRow) (available : List Migration) : Except SchemaMigrationError Unit := do
  require (applied.getLast?.all fun last => applied.map (·.version) = versionsTo last.version)
    ⟨"applied-version-gap", "Applied migration history is not contiguous."⟩
  applied.forM (validateRow available)

inductive SchemaState where
  | ready
  | migrationRequired
  | uninitialized
deriving DecidableEq, Repr

inductive Compatibility where
  | compatible
  | migrationRequired
deriving DecidableEq, Repr

inductive ChecksumIntegrity where
  | verified
  | notRecorded
deriving DecidableEq, Repr

structure SchemaStatus where
  state : SchemaState
  currentVersion : Int
  latestAvailableVersion : Int
  pendingMigrationCount : Int
  compatibilityState : Compatibility
  checksumIntegrity : ChecksumIntegrity
  lastMigrationTime : Option Time := none
deriving DecidableEq, Repr

def latestVersion (available : List Migration) : Int := (available.getLast?.map (·.version)).getD 0

/-- `_status_from_applied`. -/
def statusFromApplied (applied : List AppliedRow) (available : List Migration) : SchemaStatus :=
  let current := (applied.getLast?.map (·.version)).getD 0
  let latest := latestVersion available
  let pending := max 0 (latest - current)
  { state := if pending = 0 then .ready else .migrationRequired
    currentVersion := current
    latestAvailableVersion := latest
    pendingMigrationCount := pending
    compatibilityState := if pending = 0 then .compatible else .migrationRequired
    checksumIntegrity := .verified
    lastMigrationTime := applied.getLast?.map (·.appliedAt) }

end History

section Transactions

/-- A database: its history table, when there is one, and everything else. -/
structure Database (σ : Type) where
  schema : σ
  history : Option (List AppliedRow) := none

def Database.rows {σ : Type} (database : Database σ) : List AppliedRow := database.history.getD []

/-- The SQL of a file, the reading of the files' contract and the comparison of a schema with it, where one may miss
objects and the history table may be there; nothing is supposed of them. -/
structure SchemaTools (σ κ : Type) where
  sha256 : ByteArray → String
  runSql : String → σ → Except Raised σ
  schemaContract : List Migration → Except Raised κ
  stateContract : κ
  verify : κ → Bool → σ → Bool → Except Raised Unit

variable {σ κ : Type} (tools : SchemaTools σ κ)

/-- Whether a transaction is committed and whether its caller hears of it. -/
inductive Delivery where
  | sound
  | lost (type : String)
  | unheard (type : String)
deriving DecidableEq, Repr

/-- `with connection.begin()`: the database behind the block, and what the block gives or raises. -/
def transact {α : Type} (delivery : Delivery) (database : Database σ) (block : Except Raised (Database σ × α)) :
    Database σ × Except Raised α :=
  match delivery, block with
  | .lost type, _ => (database, .error (.exception type))
  | _, .error raised => (database, .error raised)
  | .unheard type, .ok (committed, _) => (committed, .error (.exception type))
  | .sound, .ok (committed, value) => (committed, .ok value)

/-- The first transaction: the migrations to apply. -/
def prepare (available : List Migration) (contract : κ) (database : Database σ) :
    Except Raised (Database σ × List Migration) := do
  tools.verify tools.stateContract false database.schema true
  let applied := loadApplied database.rows
  (validateAppliedHistory applied available).mapError .refused
  tools.verify contract true database.schema true
  .ok ({ database with history := some database.rows },
    available.filter fun migration => !applied.any (·.version = migration.version))

/-- What the caller adds to a migration it applies. -/
structure Applying where
  now : Time
  elapsedMs : Int
  applicationVersion : String
deriving DecidableEq, Repr

/-- `INSERT INTO oaw_schema_migrations`, with the constraints of the table. -/
def insertApplied (rows : List AppliedRow) (row : AppliedRow) : Except Raised (List AppliedRow) := do
  require (row.name.length ≤ 128 && row.applicationVersion.length ≤ 64) (.exception "DataError")
  require (0 < row.version && row.checksum.length = 64 && row.checksum.toList.all
    fun char => ('0' ≤ char && char ≤ '9') || ('a' ≤ char && char ≤ 'f')) (.exception "IntegrityError")
  require (!rows.any (·.version = row.version)) (.exception "IntegrityError")
  .ok (rows ++ [row])

def appliedRow (migration : Migration) (call : Applying) : AppliedRow where
  version := migration.version
  name := migration.name
  checksum := migration.checksum
  appliedAt := call.now
  executionDurationMs := min 86400000 (max 0 call.elapsedMs)
  applicationVersion := call.applicationVersion
  minimumApplicationVersion := "0.1.0"

/-- The transaction of one migration. -/
def applyMigration (available : List Migration) (migration : Migration) (call : Applying) (database : Database σ) :
    Except Raised (Database σ × Unit) := do
  let schema ← tools.runSql migration.sql database.schema
  let contract ← tools.schemaContract (available.filter (·.version ≤ migration.version))
  tools.verify contract false schema true
  let rows ← insertApplied database.rows (appliedRow migration call)
  .ok ({ schema, history := some rows }, ())

/-- An exception in the transaction of a migration is raised as a refusal; the summary is bounded as every one is. -/
def rolledBack (migration : Migration) : Raised → Raised
  | .refused error => .refused error
  | .exception type => .refused ⟨"migration-application-failed", String.ofList ((joinWords (words
      ("Migration " ++ migration.identifier ++ " rolled back (" ++ type ++ ").").toList)).take 240)⟩

/-- The last transaction. -/
def conclude (available : List Migration) (contract : κ) (database : Database σ) :
    Except Raised (Database σ × SchemaStatus) := do
  let applied := loadApplied database.rows
  (validateAppliedHistory applied available).mapError .refused
  tools.verify contract false database.schema true
  .ok (database, statusFromApplied applied available)

/-- `verify_database_schema`, which changes nothing. -/
def verifyDatabaseSchema (available : List Migration) (database : Database σ) : Except Raised SchemaStatus := do
  let _ ← tools.schemaContract available
  match database.history with
  | none => .ok {
      state := .uninitialized
      currentVersion := 0
      latestAvailableVersion := latestVersion available
      pendingMigrationCount := available.length
      compatibilityState := .migrationRequired
      checksumIntegrity := .notRecorded }
  | some rows =>
    let applied := loadApplied rows
    (validateAppliedHistory applied available).mapError .refused
    match applied.getLast? with
    | none => .ok (statusFromApplied applied available)
    | some last =>
      let contract ← tools.schemaContract (available.take last.version.toNat)
      tools.verify contract false database.schema true
      .ok (statusFromApplied applied available)

end Transactions

section Callers

/-- Where a call of `migrate_database_schema` is. -/
inductive Phase (κ : Type) where
  | idle
  | waiting (available : List Migration) (contract : κ)
  | locked (available : List Migration) (contract : κ)
  | applying (available : List Migration) (contract : κ) (pending : List Migration)
  | finished (outcome : Except Raised SchemaStatus)
  | ended (outcome : Except Raised SchemaStatus)
deriving DecidableEq

/-- A call between the acquisition and the release of the lock. -/
def Phase.holds {κ : Type} : Phase κ → Bool
  | .locked .. | .applying .. | .finished .. => true
  | _ => false

/-- A database with the holder of its migration lock and any number of callers. -/
structure Migrators (σ κ : Type) where
  database : Database σ
  lock : Option Nat
  phase : Nat → Phase κ

/-- A turn of one caller; between two turns any other caller may take its own. -/
inductive Turn where
  | begins (entries : List DirectoryEntry)
  | acquires
  | givesUp (raised : Raised)
  | prepares (delivery : Delivery)
  | applies (call : Applying) (delivery : Delivery)
  | concludes (delivery : Delivery)
  | releases (failure : Option String)
  | dies

variable {σ κ : Type} (tools : SchemaTools σ κ)

def startMigrators (database : Database σ) : Migrators σ κ := ⟨database, none, fun _ => .idle⟩

def Migrators.enter (state : Migrators σ κ) (caller : Nat) (phase : Phase κ) : Migrators σ κ :=
  { state with phase := Function.update state.phase caller phase }

/-- The caller goes on with the value of a transaction, or is finished with what it raised. -/
def Migrators.settle {α : Type} (state : Migrators σ κ) (caller : Nat) (result : Database σ × Except Raised α)
    (goOn : α → Phase κ) : Migrators σ κ :=
  { state.enter caller (match result.2 with
      | .ok value => goOn value
      | .error raised => .finished (.error raised)) with
    database := result.1 }

def beginCall (entries : List DirectoryEntry) : Phase κ :=
  match discoverMigrations tools.sha256 entries with
  | .error error => .ended (.error (.refused error))
  | .ok available =>
    match tools.schemaContract available with
    | .error raised => .ended (.error raised)
    | .ok contract => .waiting available contract

/-- What is behind the unlocking: a failure of its own hides the outcome. -/
def afterRelease (failure : Option String) (outcome : Except Raised SchemaStatus) : Except Raised SchemaStatus :=
  match failure with
  | none => outcome
  | some type => .error (.exception type)

/-- `migrate_database_schema`, turn by turn. -/
def Migrators.next (state : Migrators σ κ) (event : Nat × Turn) : Migrators σ κ :=
  match event.2, state.phase event.1 with
  | .begins entries, .idle | .begins entries, .ended _ => state.enter event.1 (beginCall tools entries)
  | .acquires, .waiting available contract =>
    if state.lock = none then { state.enter event.1 (.locked available contract) with lock := some event.1 } else state
  | .givesUp raised, .waiting .. => state.enter event.1 (.ended (.error raised))
  | .prepares delivery, .locked available contract =>
    state.settle event.1 (transact delivery state.database (prepare tools available contract state.database))
      (.applying available contract)
  | .applies call delivery, .applying available contract (migration :: pending) =>
    let result := transact delivery state.database (applyMigration tools available migration call state.database)
    state.settle event.1 (result.1, result.2.mapError (rolledBack migration)) fun _ => .applying available contract pending
  | .concludes delivery, .applying available contract [] =>
    state.settle event.1 (transact delivery state.database (conclude tools available contract state.database))
      fun status => .finished (.ok status)
  | .releases failure, .finished outcome =>
    { state.enter event.1 (.ended (afterRelease failure outcome)) with lock := none }
  -- The session ends with its process, and with it an open transaction and the lock.
  | .dies, _ => { state.enter event.1 .idle with lock := if state.lock = some event.1 then none else state.lock }
  | _, _ => state

def runMigrators (state : Migrators σ κ) (events : List (Nat × Turn)) : Migrators σ κ := events.foldl (·.next tools ·) state

end Callers

end OpenAssetWatch.Schema
