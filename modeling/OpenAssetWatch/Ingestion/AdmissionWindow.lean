import OpenAssetWatch.Ingestion.Admission
import OpenAssetWatch.Library.LockTable

namespace OpenAssetWatch.Ingestion

open Library

/-- The columns of `canonical_ingestion_sources` that an upsert compares. -/
structure SourceScope where
  siteId : String
  sourceIdentity : String
  sourceType : SourceType
  adapterType : AdapterType
  authenticationClass : AuthenticationClass
  sourceAuthority : SourceAuthority
  trustRank : Nat
  compatibilityStatus : CompatibilityStatus
deriving DecidableEq, Repr

/-- A row of `canonical_inventory_collections`. -/
structure CanonicalCollection where
  canonicalCollectionId : String
  siteId : String
  sourceId : String
  adapterType : AdapterType
  idempotencyKey : String
  payloadSha256 : String
  ingestedAt : Time
deriving DecidableEq, Repr

section

variable (envelope : CanonicalInventoryEnvelope)

def CanonicalInventoryEnvelope.scope : SourceScope where
  siteId := envelope.siteId
  sourceIdentity := envelope.sourceIdentity
  sourceType := envelope.sourceType
  adapterType := envelope.adapterType
  authenticationClass := envelope.authenticationClass
  sourceAuthority := envelope.sourceAuthority
  trustRank := envelope.rank
  compatibilityStatus := envelope.compatibilityStatus

def CanonicalInventoryEnvelope.collection : CanonicalCollection where
  canonicalCollectionId := envelope.canonicalCollectionId
  siteId := envelope.siteId
  sourceId := envelope.sourceId
  adapterType := envelope.adapterType
  idempotencyKey := envelope.idempotencyKey
  payloadSha256 := envelope.payloadSha256
  ingestedAt := envelope.ingestedAt

end

/-- `LOWER_TRUST_ADMISSION_LOCK_IDS`. -/
def lowerTrustAdmissionLockId : AdapterType → Option Nat
  | .endpointAgent => none
  | .passiveSensor => some 0x4F415701
  | .pythonCollector => some 0x4F415702
  | .transitionalLocal => some 0x4F415703

/-- Why a transaction ended. -/
inductive IngestOutcome where
  | accepted
  | duplicate
  | replayConflict
  | siteNotConfigured
  | endpointCredential
  | sensorCredential
  | sourceConflict
  | identityConflict
  | keyError
  | compatibilityWindow
  | adapterWindow
  | uniqueViolation
  | failed
deriving DecidableEq, Repr

/-- The texts of the rejections; the database raises the others. -/
def IngestOutcome.message : IngestOutcome → Option String
  | .replayConflict => some "canonical idempotency content conflict"
  | .siteNotConfigured => some "canonical ingestion site is not configured"
  | .endpointCredential => some "bound endpoint-agent credential is no longer active"
  | .sensorCredential => some "bound passive-sensor credential is no longer active"
  | .sourceConflict => some "canonical source identity conflicts with its persisted trust domain"
  | .identityConflict => some "observation identity no longer matches its trust domain"
  | .compatibilityWindow => some "canonical compatibility admission window exceeded"
  | .adapterWindow => some "canonical adapter admission window exceeded"
  | .accepted | .duplicate | .keyError | .uniqueViolation | .failed => none

/-- Where a transaction stands; its next statement follows from it. -/
inductive IngestPhase where
  | arrived
  | siteEnsured
  | unreplayed
  | siteLocked
  | verified
  | sourceUpserted
  | sensorUpdated
  | adapterLocked
  | cleared
  | admitted
  | inserted
  | done (outcome : IngestOutcome)
deriving DecidableEq, Repr

/-- The committed tables and who holds which lock. A row that a transaction inserts is locked by it until it ends. -/
structure IngestState (ι : Type) where
  phase : ι → IngestPhase := fun _ => .arrived
  sites : List String
  sources : List (String × SourceScope) := []
  collections : List CanonicalCollection := []
  siteLock : LockTable String ι := LockTable.none
  sourceLock : LockTable String ι := LockTable.none
  collectionLock : LockTable String ι := LockTable.none
  advisoryLock : LockTable Nat ι := LockTable.none

/-- Statements of the deliveries, each with the verdict of the tables that are not modelled, in any order. -/
inductive IngestEvent (ι : Type) where
  | statement (i : ι) (verdict : Bool)
  | configureSite (siteId : String)

section

variable {ι : Type} [DecidableEq ι] (state : IngestState ι) (i : ι)

def IngestState.enter (phase : IngestPhase) : IngestState ι :=
  { state with phase := Function.update state.phase i phase }

/-- The end of a transaction releases its locks. -/
def IngestState.finish (outcome : IngestOutcome) : IngestState ι :=
  { state with
    phase := Function.update state.phase i (.done outcome)
    siteLock := state.siteLock.release i
    sourceLock := state.sourceLock.release i
    collectionLock := state.collectionLock.release i
    advisoryLock := state.advisoryLock.release i }

variable (envelope : CanonicalInventoryEnvelope)

/-- The site of collectors that name none. -/
def insertsSite : Bool := envelope.adapterType = .pythonCollector && envelope.siteId = "legacy-collector-default"

/-- `INSERT INTO sites … ON CONFLICT DO NOTHING`. -/
def ensureSite : IngestState ι :=
  if insertsSite envelope && !state.sites.contains envelope.siteId then
    if state.siteLock.Available envelope.siteId i then
      { state.enter i .siteEnsured with siteLock := state.siteLock.acquire envelope.siteId i }
    else state
  else state.enter i .siteEnsured

/-- `SELECT … FROM sites … FOR UPDATE`, which sees a committed row or one of its own and waits for its holder. -/
def lockSite : IngestState ι :=
  if state.sites.contains envelope.siteId then
    if state.siteLock.Available envelope.siteId i then
      { state.enter i .siteLocked with siteLock := state.siteLock.acquire envelope.siteId i }
    else state
  else if state.siteLock envelope.siteId = some i then state.enter i .siteLocked
  else state.finish i .siteNotConfigured

/-- `_existing_replay`. -/
def findReplay (missing : IngestPhase) : IngestState ι :=
  match state.collections.find? fun row =>
      row.sourceId = envelope.sourceId && row.idempotencyKey = envelope.idempotencyKey with
  | none => state.enter i missing
  | some row =>
    if row.canonicalCollectionId ≠ envelope.canonicalCollectionId || row.payloadSha256 ≠ envelope.payloadSha256 then
      state.finish i .replayConflict
    else
      { state.finish i .duplicate with
        sites := if insertsSite envelope && !state.sites.contains envelope.siteId then state.sites ++ [envelope.siteId]
          else state.sites }

/-- `_verify_bound_credential`. -/
def verifyBoundCredential (verdict : Bool) : IngestState ι :=
  match envelope.sourceAuthority with
  | .authenticatedEndpoint => if verdict then state.enter i .verified else state.finish i .endpointCredential
  | .authenticatedPassiveSensor => if verdict then state.enter i .verified else state.finish i .sensorCredential
  | .legacyCollector | .untrustedTransitional => state.enter i .verified

/-- `_upsert_source`, which waits for a transaction that inserts or updates the source. -/
def upsertSource : IngestState ι :=
  if state.sourceLock.Available envelope.sourceId i then
    if (state.sources.lookup envelope.sourceId).all (· = envelope.scope) then
      { state.enter i .sourceUpserted with sourceLock := state.sourceLock.acquire envelope.sourceId i }
    else state.finish i .sourceConflict
  else state

/-- `_update_sensor_status`. -/
def updateSensorStatus (verdict : Bool) : IngestState ι :=
  if envelope.adapterType ≠ .passiveSensor || verdict then state.enter i .sensorUpdated
  else state.finish i .identityConflict

/-- `pg_advisory_xact_lock`. -/
def lockAdapter : IngestState ι :=
  match lowerTrustAdmissionLockId envelope.adapterType with
  | none => state.finish i .keyError
  | some lockId =>
    if state.advisoryLock.Available lockId i then
      { state.enter i .adapterLocked with advisoryLock := state.advisoryLock.acquire lockId i }
    else state

/-- Whether the source of a collection is of another class than `bound-credential`, as the adapters make every source that
is not authenticated. -/
def lowerTrust (sources : List (String × SourceScope)) (row : CanonicalCollection) : Bool :=
  (sources.lookup row.sourceId).any (·.authenticationClass ≠ .boundCredential)

def globalBatches : Nat :=
  state.collections.countP fun row => envelope.ingestedAt - admissionWindow < row.ingestedAt &&
    row.adapterType = envelope.adapterType && lowerTrust state.sources row

def recentBatches : Nat :=
  state.collections.countP fun row => envelope.ingestedAt - admissionWindow < row.ingestedAt &&
    if envelope.sourceAuthenticated then row.sourceId = envelope.sourceId
    else row.siteId = envelope.siteId && row.adapterType = envelope.adapterType

def admitGlobally : IngestState ι :=
  if admissionLimit envelope.adapterType * lowerTrustGlobalAdmissionMultiplier ≤ globalBatches state envelope then
    state.finish i .compatibilityWindow
  else state.enter i .cleared

def admitRecent : IngestState ι :=
  if admissionLimit envelope.adapterType ≤ recentBatches state envelope then state.finish i .adapterWindow
  else state.enter i .admitted

/-- The insert of the collection, which waits for a transaction that inserts the same one. -/
def insertCollection : IngestState ι :=
  if state.collectionLock.Available envelope.canonicalCollectionId i then
    if state.collections.any fun row => row.canonicalCollectionId = envelope.canonicalCollectionId ||
        row.sourceId = envelope.sourceId && row.idempotencyKey = envelope.idempotencyKey then
      state.finish i .uniqueViolation
    else
      { state.enter i .inserted with
        collectionLock := state.collectionLock.acquire envelope.canonicalCollectionId i }
  else state

/-- The rows of the sources once the upsert of a delivery is there for all. -/
def recordSource (sources : List (String × SourceScope)) : List (String × SourceScope) :=
  if (sources.lookup envelope.sourceId).isSome then sources else sources ++ [(envelope.sourceId, envelope.scope)]

/-- The rest of the transaction, after which its rows are there for all. -/
def commitIngest (verdict : Bool) : IngestState ι :=
  if verdict then
    { state.finish i .accepted with
      sites := if state.sites.contains envelope.siteId then state.sites else state.sites ++ [envelope.siteId]
      sources := recordSource envelope state.sources
      collections := state.collections ++ [envelope.collection] }
  else state.finish i .failed

/-- One statement of `persist_canonical_inventory`. A lower-trust delivery looks for a replay before it locks its site,
an authenticated one before it is admitted. -/
def persistStatement (verdict : Bool) : IngestState ι :=
  match state.phase i with
  | .arrived => ensureSite state i envelope
  | .siteEnsured => if envelope.sourceAuthenticated then lockSite state i envelope else findReplay state i envelope .unreplayed
  | .unreplayed => lockSite state i envelope
  | .siteLocked => verifyBoundCredential state i envelope verdict
  | .verified => upsertSource state i envelope
  | .sourceUpserted => updateSensorStatus state i envelope verdict
  | .sensorUpdated => if envelope.sourceAuthenticated then findReplay state i envelope .cleared else lockAdapter state i envelope
  | .adapterLocked => admitGlobally state i envelope
  | .cleared => admitRecent state i envelope
  | .admitted => insertCollection state i envelope
  | .inserted => commitIngest state i envelope verdict
  | .done _ => state

end

/-- A site configured by an administrator, which waits for a transaction that inserts it. -/
def configureSite {ι : Type} (state : IngestState ι) (siteId : String) : IngestState ι :=
  if state.sites.contains siteId || (state.siteLock siteId).isSome then state else { state with sites := state.sites ++ [siteId] }

def ingestStep {ι : Type} [DecidableEq ι] (envelope : ι → CanonicalInventoryEnvelope) (state : IngestState ι) :
    IngestEvent ι → IngestState ι
  | .statement i verdict => persistStatement state i (envelope i) verdict
  | .configureSite siteId => configureSite state siteId

end OpenAssetWatch.Ingestion
