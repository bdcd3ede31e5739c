import OpenAssetWatch.Component.Observation

namespace OpenAssetWatch.Ingestion

open Text Component

inductive SourceAuthority where
  | authenticatedEndpoint
  | authenticatedPassiveSensor
  | legacyCollector
  | untrustedTransitional
deriving DecidableEq, Repr

inductive AdapterType where
  | endpointAgent
  | passiveSensor
  | pythonCollector
  | transitionalLocal
deriving DecidableEq, Repr

inductive SourceType where
  | endpointAgent
  | passiveSensor
  | legacyCollector
  | transitional
deriving DecidableEq, Repr

inductive AuthenticationClass where
  | boundCredential
  | developmentShared
  | legacyShared
  | unauthenticated
deriving DecidableEq, Repr

inductive CompatibilityStatus where
  | canonical
  | compatibility
  | deprecated
deriving DecidableEq, Repr

inductive InventoryMode where
  | complete
  | partially
  | passive
  | legacy
  | transitional
deriving DecidableEq, Repr

structure CanonicalEvidence where
  protocol : String := "inventory"
  kind : String
  value : String
  confidence : ℚ := 7 / 10

structure CanonicalAsset where
  assetId : String
  hostname : Option String := none
  primaryIp : Option String := none
  mac : Option String := none
  os : Option String := none
  platform : Option String := none
  category : Option String := none
  evidence : List CanonicalEvidence := []
  components : List ComponentObservation := []
  componentInventoryComplete : Bool := false
  metadata : List (String × Json) := []

structure CanonicalSoftwareSource where
  sourceId : String
  platform : Platform
  status : CollectionStatus
  observedAt : Time
  recordCount : Nat
  truncated : Bool := false
  errorCode : Option String := none
  limitations : List String := []

/-- `MAX_FUTURE_SKEW`, five minutes, and `MAX_OBSERVATION_FUTURE_SKEW`. -/
def maxFutureSkew : Time := 300000000

def isSiteChar (c : Char) : Bool := c.isAlphanum || c == '.' || c == '_' || c == '-'

def trustRank : SourceAuthority → Nat
  | .authenticatedEndpoint => 90
  | .authenticatedPassiveSensor => 75
  | .legacyCollector => 25
  | .untrustedTransitional => 10

def sourceTypeOf : SourceAuthority → SourceType
  | .authenticatedEndpoint => .endpointAgent
  | .authenticatedPassiveSensor => .passiveSensor
  | .legacyCollector => .legacyCollector
  | .untrustedTransitional => .transitional

def compatibilityOf : SourceAuthority → CompatibilityStatus
  | .authenticatedEndpoint => .canonical
  | .authenticatedPassiveSensor => .canonical
  | .legacyCollector => .compatibility
  | .untrustedTransitional => .deprecated

/-- The adapter that an authority comes through; a transitional source may use any. -/
def adapterOf : SourceAuthority → Option AdapterType
  | .authenticatedEndpoint => some .endpointAgent
  | .authenticatedPassiveSensor => some .passiveSensor
  | .legacyCollector => some .pythonCollector
  | .untrustedTransitional => none

def SourceAuthority.isAuthenticated : SourceAuthority → Bool
  | .authenticatedEndpoint => true
  | .authenticatedPassiveSensor => true
  | .legacyCollector => false
  | .untrustedTransitional => false

/-- The envelope with what its validators enforce. -/
structure CanonicalInventoryEnvelope where
  routeName : String
  siteId : String
  sourceId : String
  sourceIdentity : String
  sourceType : SourceType
  adapterType : AdapterType
  authenticationClass : AuthenticationClass
  sourceAuthority : SourceAuthority
  rank : Nat
  compatibilityStatus : CompatibilityStatus
  observedAt : Time
  ingestedAt : Time
  inventoryMode : InventoryMode
  idempotencyKey : String
  canonicalCollectionId : String
  payloadSha256 : String
  originalIdentifier : Option String := none
  assets : List CanonicalAsset := []
  softwareSources : List CanonicalSoftwareSource := []
  credentialId : Option String := none
  boundIdentityId : Option String := none
  site : siteId.toList.all isSiteChar = true
  sourceTypeMatches : sourceType = sourceTypeOf sourceAuthority
  rankMatches : rank = trustRank sourceAuthority
  compatibilityMatches : compatibilityStatus = compatibilityOf sourceAuthority
  adapterMatches : ∀ adapter ∈ adapterOf sourceAuthority, adapterType = adapter
  authenticated : sourceAuthority.isAuthenticated = true → authenticationClass = .boundCredential
  notAhead : observedAt ≤ ingestedAt + maxFutureSkew

def CanonicalInventoryEnvelope.sourceAuthenticated (envelope : CanonicalInventoryEnvelope) : Bool :=
  envelope.sourceAuthority.isAuthenticated

def CanonicalInventoryEnvelope.evidenceCount (envelope : CanonicalInventoryEnvelope) : Nat :=
  (envelope.assets.map (·.evidence.length)).sum

def CanonicalInventoryEnvelope.componentCount (envelope : CanonicalInventoryEnvelope) : Nat :=
  (envelope.assets.map (·.components.length)).sum

def CanonicalEvidence.dump (evidence : CanonicalEvidence) : Json :=
  .object
    [("protocol", .string evidence.protocol),
      ("kind", .string evidence.kind),
      ("value", .string evidence.value),
      ("confidence", .number evidence.confidence)]

/-- `model_dump` without the metadata. -/
def CanonicalAsset.fields (asset : CanonicalAsset) : List (String × Json) :=
  [("asset_id", .string asset.assetId),
    ("hostname", .ofText asset.hostname),
    ("primary_ip", .ofText asset.primaryIp),
    ("mac", .ofText asset.mac),
    ("os", .ofText asset.os),
    ("platform", .ofText asset.platform),
    ("category", .ofText asset.category),
    ("evidence", .array (asset.evidence.map (·.dump))),
    ("components", .array (asset.components.map (·.dump))),
    ("component_inventory_complete", .bool asset.componentInventoryComplete)]

/-- `{**old, **new}`. -/
def merge (old new : List (String × Json)) : List (String × Json) :=
  new ++ old.filter fun (key, _) => !(new.map Prod.fst).contains key

/-- What the persistence of assets and components reads of `persistence_payload`; its times are written and read back. -/
structure PersistencePayload where
  agentId : String
  sensorId : String
  sensorType : String
  observationSource : String
  observationBatchId : Option String
  componentInventoryComplete : Bool
  softwareSources : List CanonicalSoftwareSource
  observedAt : Time
  canonicalCollectionId : String
  confidence : ℚ
  assets : List (List (String × Json))

def observationSource : AdapterType → String
  | .endpointAgent => "endpoint-inventory"
  | .passiveSensor => "passive-network"
  | .pythonCollector => "legacy-collector"
  | .transitionalLocal => "local-inventory"

def sensorType : SourceAuthority → String
  | .authenticatedEndpoint => "endpoint-agent"
  | .authenticatedPassiveSensor => "passive-network-sensor"
  | .legacyCollector => "connector"
  | .untrustedTransitional => "connector"

def payloadConfidence : SourceAuthority → ℚ
  | .authenticatedEndpoint => 9 / 10
  | .authenticatedPassiveSensor => 8 / 10
  | .legacyCollector => 35 / 100
  | .untrustedTransitional => 35 / 100

def CanonicalInventoryEnvelope.persistencePayload (envelope : CanonicalInventoryEnvelope) : PersistencePayload where
  agentId := envelope.sourceId
  sensorId := envelope.sourceId
  sensorType := sensorType envelope.sourceAuthority
  observationSource := observationSource envelope.adapterType
  observationBatchId := envelope.originalIdentifier
  componentInventoryComplete := envelope.inventoryMode = .complete && envelope.softwareSources.isEmpty
  softwareSources := envelope.softwareSources
  observedAt := envelope.observedAt
  canonicalCollectionId := envelope.canonicalCollectionId
  confidence := payloadConfidence envelope.sourceAuthority
  assets := envelope.assets.map fun asset =>
    merge (merge asset.metadata asset.fields)
      [("source_agent_id", .string envelope.sourceId), ("observed_at", .time envelope.observedAt)]

end OpenAssetWatch.Ingestion
