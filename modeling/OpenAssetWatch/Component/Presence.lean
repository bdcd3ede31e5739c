import OpenAssetWatch.Component.Store
import OpenAssetWatch.Library.Guard

namespace OpenAssetWatch.Component

open Library

inductive Platform where
  | windows
  | linux
  | darwin
deriving DecidableEq, Repr

inductive CollectionStatus where
  | complete
  | partially
  | unsupported
  | failed
deriving DecidableEq, Repr

structure SourceScope where
  siteId : String
  assetId : String
  agentSourceId : String
  collectionSourceId : String
deriving DecidableEq, Repr

/-- What the `css_` digest is of. -/
structure SnapshotId where
  canonicalCollectionId : String
  scope : SourceScope
deriving DecidableEq, Repr

structure ComponentSourceSnapshot where
  sourceSnapshotId : SnapshotId
  canonicalCollectionId : String
  scope : SourceScope
  platform : Platform
  collectionStatus : CollectionStatus
  observedAt : Time
  recordCount : Nat
  truncated : Bool
  errorCode : Option String
  limitations : List String
deriving DecidableEq

structure PresenceKey where
  componentId : ComponentId
  agentSourceId : String
  collectionSourceId : String
deriving DecidableEq, Repr

/-- The site and the asset of a presence row are those of its component. -/
def PresenceKey.scope (key : PresenceKey) : SourceScope :=
  { siteId := key.componentId.siteId
    assetId := key.componentId.assetId
    agentSourceId := key.agentSourceId
    collectionSourceId := key.collectionSourceId }

/-- A row of `component_source_presence`. -/
structure PresenceRow where
  sourceRecordId : String
  evidenceMethod : String
  active : Bool := true
  firstObservedAt : Time
  lastObservedAt : Time
  notObservedAt : Option Time := none
  lastSourceSnapshotId : SnapshotId
deriving DecidableEq

/-- A row of `component_collection_sources`. -/
structure SourceState where
  platform : Platform
  collectionStatus : CollectionStatus
  lastAttemptAt : Time
  lastSuccessfulCompleteAt : Option Time
  lastSourceSnapshotId : SnapshotId
  lastSuccessfulSnapshotId : Option SnapshotId
  canonicalCollectionId : String
  recordCount : Nat
  truncated : Bool
  errorCode : Option String
  limitations : List String
deriving DecidableEq

/-- A row of `canonical_inventory_collections` joined with its source. -/
structure CollectionAuthority where
  siteId : String
  sourceId : String
  adapterType : String
  ingestionStatus : String
  evaluationState : String
  sourceAuthority : String
  authenticationClass : String
deriving DecidableEq

structure ComponentStore where
  components : ComponentTable := .empty
  presences : Dict PresenceKey PresenceRow := .empty
  sources : Dict SourceScope SourceState := .empty

/-- What the transaction reads of the other tables. -/
structure Hub where
  configured : String → Bool
  authority : String → Option CollectionAuthority

/-- What the normalisation of one accepted payload passes on. An asset has one source in a payload, and an envelope
admits 32,000 components. -/
structure Delivery where
  components : List NormalizedComponent
  completeAssets : List CompleteAsset
  sourceSnapshots : List ComponentSourceSnapshot
  oneSource : ∀ scope ∈ completeAssets, ∀ component ∈ components, component.componentId.siteId = scope.siteId →
    component.componentId.assetId = scope.assetId → component.sourceId = scope.sourceId
  admitted : components.length ≤ 32000

inductive PresenceError where
  | sitesDiffer
  | siteNotConfigured
  | authorityMissing
  | scopeNotReviewed
  | identityNotDerived
  | incompleteWithdrawal
  | duplicateScope
  | outOfOrder
  | snapshotMissing
  | recordCountMismatch
  | failedSourceReports
  | componentMissing
deriving DecidableEq, Repr

/-- The texts of the exceptions; the last one is a foreign key of the database. -/
def PresenceError.message : PresenceError → String
  | .sitesDiffer => "native source snapshots must share one site"
  | .siteNotConfigured => "native source snapshot site is not configured"
  | .authorityMissing => "native source snapshot lacks bound endpoint authority"
  | .scopeNotReviewed => "native source snapshot scope is not reviewed"
  | .identityNotDerived => "native source snapshot identity is not server-derived"
  | .incompleteWithdrawal => "incomplete native source cannot withdraw presence"
  | .duplicateScope => "duplicate native source snapshot scope"
  | .outOfOrder => "native source snapshot is stale or out of order"
  | .snapshotMissing => "native component lacks a validated source snapshot"
  | .recordCountMismatch => "native source snapshot record count mismatch"
  | .failedSourceReports => "failed native source cannot report component presence"
  | .componentMissing => "component_source_presence references asset_components"

def reviewedSources : Platform → List String
  | .windows => ["windows-uninstall-32", "windows-uninstall-64"]
  | .linux => ["linux-dpkg", "linux-rpm"]
  | .darwin => ["macos-pkgutil"]

def NormalizedComponent.presenceKey (component : NormalizedComponent) (native : NativeReference) : PresenceKey :=
  { componentId := component.componentId
    agentSourceId := component.sourceId
    collectionSourceId := native.collectionSourceId }

section

variable (hub : Hub)

def lockSite (snapshots : List ComponentSourceSnapshot) : Except PresenceError Unit :=
  match (snapshots.map (·.scope.siteId)).dedup with
  | [siteId] => require (hub.configured siteId) .siteNotConfigured
  | _ => .error .sitesDiffer

def boundEndpoint (snapshot : ComponentSourceSnapshot) : CollectionAuthority :=
  { siteId := snapshot.scope.siteId
    sourceId := snapshot.scope.agentSourceId
    adapterType := "endpoint-agent"
    ingestionStatus := "accepted"
    evaluationState := "running"
    sourceAuthority := "authenticated-endpoint"
    authenticationClass := "bound-credential" }

/-- No older than the last attempt, and a repetition of it only for the same collection. -/
def inOrder (sources : Dict SourceScope SourceState) (snapshot : ComponentSourceSnapshot) : Bool :=
  match sources.get? snapshot.scope with
  | none => true
  | some previous =>
    !(snapshot.observedAt < previous.lastAttemptAt ||
      snapshot.observedAt == previous.lastAttemptAt && snapshot.canonicalCollectionId != previous.canonicalCollectionId)

def isTruthy (text : Option String) : Bool := text.any (· ≠ "")

/-- The checks of one snapshot; `seen` holds the scopes of the snapshots before it. -/
def validateSnapshot (sources : Dict SourceScope SourceState) (seen : List SourceScope)
    (snapshot : ComponentSourceSnapshot) : Except PresenceError Unit := do
  require (hub.authority snapshot.canonicalCollectionId == some (boundEndpoint snapshot)) .authorityMissing
  require ((reviewedSources snapshot.platform).contains snapshot.scope.collectionSourceId) .scopeNotReviewed
  require (snapshot.sourceSnapshotId == ⟨snapshot.canonicalCollectionId, snapshot.scope⟩) .identityNotDerived
  require (!(snapshot.collectionStatus == .complete && (snapshot.truncated || isTruthy snapshot.errorCode)))
    .incompleteWithdrawal
  require (!seen.contains snapshot.scope) .duplicateScope
  require (inOrder sources snapshot) .outOfOrder

def validateSnapshots (sources : Dict SourceScope SourceState) (seen : List SourceScope) :
    List ComponentSourceSnapshot → Except PresenceError Unit
  | [] => .ok ()
  | snapshot :: rest => do
    validateSnapshot hub sources seen snapshot
    validateSnapshots sources (snapshot.scope :: seen) rest

end

/-- The components that name a native source, with their keys. -/
def nativeComponents (components : List NormalizedComponent) : List (PresenceKey × NormalizedComponent × NativeReference) :=
  components.filterMap fun component => component.native.map fun native => (component.presenceKey native, component, native)

/-- `observed_by_source` at a scope: the ids that the delivery reports from it. -/
def observedBySource (components : List NormalizedComponent) (scope : SourceScope) : List ComponentId :=
  (((nativeComponents components).filter (·.1.scope = scope)).map (·.1.componentId)).dedup

def checkCounts (components : List NormalizedComponent) : List ComponentSourceSnapshot → Except PresenceError Unit
  | [] => .ok ()
  | snapshot :: rest => do
    let observed := (observedBySource components snapshot.scope).length
    require (observed == snapshot.recordCount) .recordCountMismatch
    require (!((snapshot.collectionStatus == .failed || snapshot.collectionStatus == .unsupported) && observed != 0))
      .failedSourceReports
    checkCounts components rest

def PresenceRow.boundary (row : PresenceRow) : Time := max row.lastObservedAt (row.notObservedAt.getD row.lastObservedAt)

/-- The `WHERE` clause of the presence upsert. -/
def presenceApplies (stored : Option PresenceRow) (component : NormalizedComponent) : Bool :=
  stored.all (·.boundary ≤ component.observedAt)

def upsertedPresence (stored : Option PresenceRow) (component : NormalizedComponent) (native : NativeReference)
    (snapshotId : SnapshotId) : PresenceRow :=
  match stored with
  | none =>
    { sourceRecordId := native.sourceRecordId
      evidenceMethod := native.evidenceMethod
      firstObservedAt := component.observedAt
      lastObservedAt := component.observedAt
      lastSourceSnapshotId := snapshotId }
  | some row =>
    { row with
      sourceRecordId := native.sourceRecordId
      evidenceMethod := native.evidenceMethod
      active := true
      lastObservedAt := max row.lastObservedAt component.observedAt
      notObservedAt := none
      lastSourceSnapshotId := snapshotId }

/-- `_upsert_source_presence` with the snapshot of the component's scope. -/
def upsertSourcePresence (snapshots : List ComponentSourceSnapshot) (presences : Dict PresenceKey PresenceRow)
    (item : PresenceKey × NormalizedComponent × NativeReference) : Dict PresenceKey PresenceRow :=
  match snapshots.find? (·.scope = item.1.scope) with
  | none => presences
  | some snapshot =>
    if presenceApplies (presences.get? item.1) item.2.1 then
      presences.set item.1 (upsertedPresence (presences.get? item.1) item.2.1 item.2.2 snapshot.sourceSnapshotId)
    else
      presences

def recordedState (previous : Option SourceState) (snapshot : ComponentSourceSnapshot) : SourceState :=
  let complete := snapshot.collectionStatus = .complete
  { platform := snapshot.platform
    collectionStatus := snapshot.collectionStatus
    lastAttemptAt := snapshot.observedAt
    lastSuccessfulCompleteAt :=
      if complete then some snapshot.observedAt else previous.bind (·.lastSuccessfulCompleteAt)
    lastSourceSnapshotId := snapshot.sourceSnapshotId
    lastSuccessfulSnapshotId :=
      if complete then some snapshot.sourceSnapshotId else previous.bind (·.lastSuccessfulSnapshotId)
    canonicalCollectionId := snapshot.canonicalCollectionId
    recordCount := snapshot.recordCount
    truncated := snapshot.truncated
    errorCode := snapshot.errorCode
    limitations := snapshot.limitations }

def recordSourceState (sources : Dict SourceScope SourceState) (snapshot : ComponentSourceSnapshot) :
    Dict SourceScope SourceState :=
  let previous := sources.get? snapshot.scope
  if previous.all (·.lastAttemptAt ≤ snapshot.observedAt) then
    sources.set snapshot.scope (recordedState previous snapshot)
  else
    sources

/-- The `WHERE` clause of the rows that a complete snapshot omits. -/
def omitsPresence (snapshot : ComponentSourceSnapshot) (observed : List ComponentId) (key : PresenceKey)
    (row : PresenceRow) : Bool :=
  key.scope = snapshot.scope && row.active && row.lastObservedAt ≤ snapshot.observedAt && !observed.contains key.componentId

def withdrawnPresence (snapshot : ComponentSourceSnapshot) (row : PresenceRow) : PresenceRow :=
  { row with
    active := false
    notObservedAt := some snapshot.observedAt
    lastSourceSnapshotId := snapshot.sourceSnapshotId }

def anyActive (presences : Dict PresenceKey PresenceRow) (componentId : ComponentId) : Bool :=
  presences.entries.any fun (key, row) => key.componentId == componentId && row.active

/-- The update of a component that no source shows any more. -/
def omitComponent (components : ComponentTable) (componentId : ComponentId) (time : Time) : ComponentTable :=
  match components.get? componentId with
  | none => components
  | some row => if row.observedAt ≤ time then components.set componentId (omittedRow time row) else components

/-- One of the selected rows, which the transaction has locked. -/
def withdraw (snapshot : ComponentSourceSnapshot) (store : ComponentStore) (entry : PresenceKey × PresenceRow) :
    ComponentStore :=
  let (key, row) := entry
  let presences := store.presences.set key (withdrawnPresence snapshot row)
  { store with
    presences
    components :=
      if anyActive presences key.componentId then store.components
      else omitComponent store.components key.componentId snapshot.observedAt }

def applyCompleteSourceSnapshot (snapshot : ComponentSourceSnapshot) (observed : List ComponentId) (store : ComponentStore) :
    ComponentStore :=
  if snapshot.collectionStatus ≠ .complete then
    store
  else
    ((store.presences.entries.filter fun (key, row) => omitsPresence snapshot observed key row).take
      maxComponentsPerAsset).foldl (withdraw snapshot) store

def projectSnapshot (components : List NormalizedComponent) (store : ComponentStore) (snapshot : ComponentSourceSnapshot) :
    ComponentStore :=
  applyCompleteSourceSnapshot snapshot (observedBySource components snapshot.scope)
    { store with sources := recordSourceState store.sources snapshot }

section

variable (collation : String → String → Ordering) (hub : Hub)

def persistSourcePresence (components : List NormalizedComponent) (snapshots : List ComponentSourceSnapshot)
    (store : ComponentStore) : Except PresenceError ComponentStore :=
  if snapshots = [] then
    .ok store
  else do
    lockSite hub snapshots
    validateSnapshots hub store.sources [] snapshots
    require ((nativeComponents components).all fun item => snapshots.any (·.scope = item.1.scope)) .snapshotMissing
    checkCounts components snapshots
    require ((nativeComponents components).all fun item => (store.components.get? item.1.componentId).isSome)
      .componentMissing
    let presences := (nativeComponents components).foldl (upsertSourcePresence snapshots) store.presences
    return snapshots.foldl (projectSnapshot components) { store with presences }

/-- The transaction of `_persist_component_inventory_best_effort`. -/
def persistInventory (delivery : Delivery) (store : ComponentStore) : Except PresenceError ComponentStore := do
  unless delivery.sourceSnapshots = [] do lockSite hub delivery.sourceSnapshots
  let rows := (persistComponents collation delivery.components delivery.completeAssets store.components).rows
  persistSourcePresence hub delivery.components delivery.sourceSnapshots { store with components := rows }

/-- A transaction that raises rolls back. -/
def deliver (store : ComponentStore) (delivered : Hub × Delivery) : ComponentStore :=
  match persistInventory collation delivered.1 delivered.2 store with
  | .error _ => store
  | .ok next => next

end

end OpenAssetWatch.Component
