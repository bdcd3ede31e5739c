import OpenAssetWatch.Clock
import OpenAssetWatch.Library.Comparator
import OpenAssetWatch.Library.Dict

namespace OpenAssetWatch.Component

open Library

def maxComponentsPerAsset : Nat := 2000
def componentModelVersion : String := "oaw.components.v1"

/-- What `component_id_for` digests; the digest is only used as a key, so its parts stand for it. -/
structure ComponentId where
  siteId : String
  assetId : String
  identity : String
  architecture : String
  installScope : String
deriving DecidableEq, Repr

inductive ComponentType where
  | application
  | operatingSystemPackage
  | library
  | runtime
  | driver
  | firmware
  | operatingSystem
  | securityTool
  | unknown
deriving DecidableEq, Repr

inductive FirmwareEvidenceType where
  | direct
  | vendorReported
  | collectorReported
  | inferred
  | unknown
deriving DecidableEq, Repr

inductive NormalizationStatus where
  | normalized
  | identityUncertain
  | versionUnknown
  | unsupportedEcosystem
  | insufficientFirmwareEvidence
deriving DecidableEq, Repr

inductive Freshness where
  | fresh
  | aging
  | stale
  | unknown
deriving DecidableEq, Repr

/-- The columns that the upsert takes over from an observation. -/
structure ComponentFacts where
  componentType : ComponentType
  ecosystem : String
  packageNamespace : Option String
  vendor : Option String
  name : String
  normalizedName : String
  version : Option String
  normalizedVersion : Option String
  architecture : Option String
  packageManager : Option String
  canonicalIdentifier : Option String
  cpeHint : Option String
  installScope : String
  sourceType : String
  sourceId : String
  firmwareEvidenceType : FirmwareEvidenceType
  freshness : Freshness
  confidence : ℚ
  normalizationStatus : NormalizationStatus
  metadata : List (String × String)
  modelVersion : String := componentModelVersion

/-- The three fields that a native source supplies together. -/
structure NativeReference where
  collectionSourceId : String
  sourceRecordId : String
  evidenceMethod : String
deriving DecidableEq, Repr

/-- One observation is seen for the first and the last time when it is observed. -/
structure NormalizedComponent extends ComponentFacts where
  componentId : ComponentId
  evidenceIds : List String
  observedAt : Time
  firstSeenAt : Time := observedAt
  lastSeenAt : Time := observedAt
  inventoryComplete : Bool
  native : Option NativeReference
  firstSeen : firstSeenAt = observedAt := by rfl
  lastSeen : lastSeenAt = observedAt := by rfl

/-- A row of `asset_components`; its id holds the site and the asset. -/
structure ComponentRow extends ComponentFacts where
  firstSeenAt : Time
  lastSeenAt : Time
  observedAt : Time
  active : Bool := true
  notObservedAt : Option Time := none

abbrev ComponentTable := Dict ComponentId ComponentRow

/-- `_SOURCE_TRUST`, and the `CASE` expressions of the upsert. -/
def sourceTrust (sourceType : String) : Nat :=
  if sourceType = "endpoint-collector" then 3
  else if sourceType = "reviewed-connector" then 2
  else if sourceType = "passive-network-sensor" then 1
  else if sourceType = "connector" then 1
  else 0

/-- The key that settles ties of time, with texts compared by `text`. -/
def compareKeys (text : String → String → Ordering) (previous component : ComponentFacts) : Ordering :=
  (compare (sourceTrust previous.sourceType) (sourceTrust component.sourceType)).then <|
    (compare previous.confidence component.confidence).then <|
      (text previous.sourceType component.sourceType).then <|
        (text previous.sourceId component.sourceId).then <|
          text (previous.normalizedVersion.getD "") (component.normalizedVersion.getD "")

/-- The newer of the row's observation and its omission. -/
def ComponentRow.boundary (row : ComponentRow) : Time :=
  match row.notObservedAt with
  | none => row.observedAt
  | some time => if row.observedAt < time then time else row.observedAt

def shouldReplaceComponent (previous : Option ComponentRow) (component : NormalizedComponent) : Bool :=
  match previous with
  | none => true
  | some row =>
    if component.observedAt < row.boundary then false
    else if row.boundary < component.observedAt then sourceTrust row.sourceType ≤ sourceTrust component.sourceType
    else (compareKeys compare row.toComponentFacts component.toComponentFacts).isLE

section

variable (collation : String → String → Ordering)

/-- The `WHERE` clause of the upsert, where the database compares texts. -/
def upsertApplies (row : ComponentRow) (component : NormalizedComponent) : Bool :=
  (row.boundary < component.observedAt && sourceTrust row.sourceType ≤ sourceTrust component.sourceType) ||
    (component.observedAt == row.boundary &&
      (compareKeys collation row.toComponentFacts component.toComponentFacts).isLE)

def upsertedRow (previous : Option ComponentRow) (component : NormalizedComponent) : ComponentRow :=
  match previous with
  | none =>
    { toComponentFacts := component.toComponentFacts
      firstSeenAt := component.firstSeenAt
      lastSeenAt := component.lastSeenAt
      observedAt := component.observedAt }
  | some row =>
    { toComponentFacts := component.toComponentFacts
      firstSeenAt := min row.firstSeenAt component.firstSeenAt
      lastSeenAt := max row.lastSeenAt component.lastSeenAt
      observedAt := max row.observedAt component.observedAt
      active := true
      notObservedAt := none }

/-- The Python test and the `WHERE` clause of the upsert, both of which an observation has to pass. -/
def replaces (previous : Option ComponentRow) (component : NormalizedComponent) : Bool :=
  shouldReplaceComponent previous component && previous.all (upsertApplies collation · component)

structure Persisted where
  rows : ComponentTable
  inserted : Nat := 0
  updated : Nat := 0
  removed : Nat := 0

def persistComponent (state : Persisted) (component : NormalizedComponent) : Persisted :=
  let previous := state.rows.get? component.componentId
  if replaces collation previous component then
    { state with
      rows := state.rows.set component.componentId (upsertedRow previous component)
      inserted := state.inserted + if previous.isNone then 1 else 0
      updated := state.updated + if previous.isNone then 0 else 1 }
  else
    state

/-- The asset and the source whose inventory was complete at a time. -/
structure CompleteAsset where
  siteId : String
  assetId : String
  sourceId : String
  observedAt : Time
deriving DecidableEq

def CompleteAsset.covers (scope : CompleteAsset) (componentId : ComponentId) (sourceId : String) : Bool :=
  componentId.siteId == scope.siteId && componentId.assetId == scope.assetId && sourceId == scope.sourceId

/-- The first components of a call; the others are dropped. -/
def bounded (components : List NormalizedComponent) : List NormalizedComponent :=
  components.take (maxComponentsPerAsset * 500)

/-- `observed_by_asset` at the scope's key. -/
def observedIds (components : List NormalizedComponent) (scope : CompleteAsset) : List ComponentId :=
  ((bounded components).filter fun component => scope.covers component.componentId component.sourceId).map (·.componentId)

def omitsRow (components : List NormalizedComponent) (scope : CompleteAsset) (entry : ComponentId × ComponentRow) : Bool :=
  scope.covers entry.1 entry.2.sourceId && entry.2.active && entry.2.observedAt ≤ scope.observedAt &&
    !(observedIds components scope).contains entry.1

def omittedRow (time : Time) (row : ComponentRow) : ComponentRow :=
  { row with active := false, notObservedAt := some time }

/-- The update of one selected row; the row is locked and active. -/
def omitRow (scope : CompleteAsset) (state : Persisted) (entry : ComponentId × ComponentRow) : Persisted :=
  { state with
    rows := state.rows.update entry.1 fun row => omittedRow scope.observedAt (row.getD entry.2)
    removed := state.removed + 1 }

def omitRows (components : List NormalizedComponent) (state : Persisted) (scope : CompleteAsset) : Persisted :=
  ((state.rows.entries.filter (omitsRow components scope)).take maxComponentsPerAsset).foldl (omitRow scope) state

def persistComponents (components : List NormalizedComponent) (completeAssets : List CompleteAsset)
    (rows : ComponentTable) : Persisted :=
  let state := (bounded components).foldl (persistComponent collation) { rows }
  completeAssets.foldl (omitRows components) state

end

end OpenAssetWatch.Component
