import OpenAssetWatch.Ingestion.Envelope
import OpenAssetWatch.Library.Dict

namespace OpenAssetWatch.Ingestion

open Library Text Component

section

variable (printed : Json → String)

/-- The first text under one of the names in the objects of a list. -/
def firstNestedText (values : List Json) (names : List String) : Option String :=
  values.findSome? fun value =>
    if value.isObject then names.findSome? fun name => cleanText printed (value.get name) else none

def addressOf (value : Json) : Option String :=
  match value with
  | .array values => firstNestedText printed values ["address", "ip_address", "ip"]
  | _ => none

def assetPrimaryIp (asset : Json) : Option String :=
  (cleanText printed (asset.get "primary_ip")).orElse fun _ =>
    (addressOf printed (asset.get "ip_addresses")).orElse fun _ =>
      match asset.get "primary_interfaces" with
      | .array interfaces => interfaces.findSome? fun interface => addressOf printed (interface.get "ip_addresses")
      | _ => none

def invalidMacTexts : List String := ["(incomplete)", "<incomplete>", "incomplete", "none", "null"]

def isHexDigit (c : Char) : Bool := ('0' ≤ c && c ≤ '9') || ('a' ≤ c && c ≤ 'f')

/-- Twelve hexadecimal digits, two by two. -/
def macPairs : List Char → List Char
  | a :: b :: c :: rest => a :: b :: ':' :: macPairs (c :: rest)
  | rest => rest

/-- `_normalize_mac_address`; lowering a character outside ASCII gives no hexadecimal digit. -/
def normalizeMacAddress (value : Json) : Option String :=
  match cleanText printed value with
  | none => none
  | some text =>
    let cleaned := text.toList.map fun c => if c.toLower = '-' then ':' else c.toLower
    let compact := cleaned.filter isHexDigit
    let address := macPairs compact
    if invalidMacTexts.contains (String.ofList cleaned) || compact.length ≠ 12 then none
    else if address = "00:00:00:00:00:00".toList || address = "ff:ff:ff:ff:ff:ff".toList ||
      "01:00:5e:".toList.isPrefixOf address || "33:33:".toList.isPrefixOf address then none
    else some (String.ofList address)

def assetMac (asset : Json) : Option String :=
  (normalizeMacAddress printed ((asset.get "mac").orElse (asset.get "mac_address"))).orElse fun _ =>
    let fromAddresses := match asset.get "mac_addresses" with
      | .array values => firstNestedText printed values ["address", "mac_address", "mac"]
      | _ => none
    let fromInterfaces := match asset.get "primary_interfaces" with
      | .array values => firstNestedText printed values ["mac_address", "mac"]
      | _ => none
    -- a text among the addresses is final, also when it is no address
    match fromAddresses.orElse fun _ => fromInterfaces with
    | some text => normalizeMacAddress printed (.string text)
    | none => none

def evidenceFields : List String :=
  ["host", "platform_info", "primary_interfaces", "ip_addresses", "mac_addresses", "default_gateway",
    "network_neighbors", "software", "evidence"]

def fieldEvidence (value : Json) : Nat :=
  match value with
  | .array items => items.countP (!·.isNull)
  | value => if value.isTruthy then 1 else 0

def assetEvidenceCount (asset : Json) : Nat := 1 + (evidenceFields.map fun name => fieldEvidence (asset.get name)).sum

def hubOwnedAssetMetadataFields : List String :=
  ["confidence", "demo", "findings", "management_status", "risk_score", "sample_data", "source"]

def spokeAssetMetadata (asset : List (String × Json)) : List (String × Json) :=
  asset.filter fun (key, _) => !hubOwnedAssetMetadataFields.contains key

/-- One entry of `normalize_local_inventory_assets`. -/
structure NormalizedAsset where
  assetKey : String
  assetId : String
  siteId : String
  hostname : Option String
  primaryIp : Option String
  mac : Option String
  os : Option String
  platform : Option String
  sourceAgentId : Option String
  firstSeenAt : Time
  lastSeenAt : Time
  evidenceCount : Nat
  observationBatchId : Option String
  observationSource : String
  observedAt : Time
  deliveryState : String
  confidence : Option ℚ
  metadata : List (String × Json)

def boundedObservedAt (value receivedAt : Time) : Time := if receivedAt + maxFutureSkew < value then receivedAt else value

def assetKey (siteId assetId : String) : String := siteId ++ ":" ++ assetId

/-- The payload of an envelope names no delivery state, so it is `live`. -/
def normalizeAsset (payload : PersistencePayload) (siteId : String) (receivedAt : Time) (index : Nat)
    (fields : List (String × Json)) : NormalizedAsset :=
  let asset := Json.object fields
  let observedAt := boundedObservedAt payload.observedAt receivedAt
  let hostname := cleanText printed ((asset.get "hostname").orElse ((asset.get "host").get "hostname"))
  let primaryIp := assetPrimaryIp printed asset
  let mac := assetMac printed asset
  let assetId := ((((cleanText printed (asset.get "asset_id")).orElse fun _ => hostname).orElse fun _ => mac).orElse
    fun _ => primaryIp).getD ("observed-" ++ toString (index + 1))
  let platformInfo := asset.get "platform_info"
  { assetKey := assetKey siteId assetId
    assetId
    siteId
    hostname
    primaryIp
    mac
    os := cleanText printed ((asset.get "os").orElse (platformInfo.get "os"))
    platform := cleanText printed ((asset.get "platform").orElse (platformInfo.get "platform"))
    sourceAgentId := cleanText printed ((Json.string payload.sensorId).orElse (.string payload.agentId))
    firstSeenAt := receivedAt
    lastSeenAt := observedAt
    evidenceCount := assetEvidenceCount asset
    observationBatchId := cleanText printed (.ofText payload.observationBatchId)
    observationSource := (cleanText printed (.string payload.observationSource)).getD "local-inventory"
    observedAt
    deliveryState := "live"
    confidence := if 0 ≤ payload.confidence && payload.confidence ≤ 1 then some payload.confidence else none
    metadata := spokeAssetMetadata fields }

def normalizeLocalInventoryAssets (payload : PersistencePayload) (siteId : String) (receivedAt : Time) : List NormalizedAsset :=
  payload.assets.mapIdx (normalizeAsset printed payload siteId receivedAt)

def CanonicalInventoryEnvelope.normalizedAssets (envelope : CanonicalInventoryEnvelope) : List NormalizedAsset :=
  normalizeLocalInventoryAssets printed envelope.persistencePayload envelope.siteId envelope.ingestedAt

end

/-- A row of `control_tower_assets`. -/
structure AssetRow where
  assetId : String
  siteId : String
  hostname : Option String
  primaryIp : Option String
  mac : Option String
  os : Option String
  platform : Option String
  sourceAgentId : Option String
  firstSeenAt : Time
  lastSeenAt : Time
  evidenceCount : Nat
  observationBatchId : Option String
  observationSource : Option String
  observedAt : Option Time
  deliveryState : String
  confidence : Option ℚ
  metadata : List (String × Json)

def NormalizedAsset.row (asset : NormalizedAsset) : AssetRow where
  assetId := asset.assetId
  siteId := asset.siteId
  hostname := asset.hostname
  primaryIp := asset.primaryIp
  mac := asset.mac
  os := asset.os
  platform := asset.platform
  sourceAgentId := asset.sourceAgentId
  firstSeenAt := asset.firstSeenAt
  lastSeenAt := asset.lastSeenAt
  evidenceCount := asset.evidenceCount
  observationBatchId := asset.observationBatchId
  observationSource := some asset.observationSource
  observedAt := some asset.observedAt
  deliveryState := asset.deliveryState
  confidence := asset.confidence
  metadata := asset.metadata

/-- `COALESCE(excluded, stored)` when the observation is not older, and the stored value otherwise. -/
def newest {α : Type} (newer : Bool) (excluded stored : Option α) : Option α := if newer then excluded.or stored else stored

/-- The `DO UPDATE` of the compatibility upsert. -/
def updatedAssetRow (stored : AssetRow) (asset : NormalizedAsset) : AssetRow :=
  let newer : Bool := stored.observedAt.getD stored.lastSeenAt ≤ asset.observedAt
  { stored with
    hostname := newest newer asset.hostname stored.hostname
    primaryIp := newest newer asset.primaryIp stored.primaryIp
    mac := newest newer asset.mac stored.mac
    os := newest newer asset.os stored.os
    platform := newest newer asset.platform stored.platform
    sourceAgentId := newest newer asset.sourceAgentId stored.sourceAgentId
    lastSeenAt := max stored.lastSeenAt asset.lastSeenAt
    evidenceCount := max stored.evidenceCount asset.evidenceCount
    observationBatchId := newest newer asset.observationBatchId stored.observationBatchId
    observationSource := newest newer (some asset.observationSource) stored.observationSource
    observedAt := some (stored.observedAt.elim asset.observedAt (max · asset.observedAt))
    deliveryState := if newer then asset.deliveryState else stored.deliveryState
    confidence := newest newer asset.confidence stored.confidence
    metadata := if newer then asset.metadata else stored.metadata }

abbrev AssetTable := Dict String AssetRow

def upsertControlTowerAsset (assets : AssetTable) (asset : NormalizedAsset) : AssetTable :=
  assets.update asset.assetKey fun
    | none => asset.row
    | some stored => updatedAssetRow stored asset

/-- A row of `canonical_asset_authority`. -/
structure AuthorityRow where
  siteId : String
  assetId : String
  canonicalCollectionId : String
  sourceId : String
  adapterType : AdapterType
  sourceAuthority : SourceAuthority
  trustRank : Nat
  compatibilityStatus : CompatibilityStatus
  observedAt : Time
  updatedAt : Time
deriving DecidableEq

structure AssetStore where
  assets : AssetTable := .empty
  authority : Dict String AuthorityRow := .empty

/-- One normalized asset of an accepted envelope. -/
structure AssetObservation where
  envelope : CanonicalInventoryEnvelope
  asset : NormalizedAsset

def AssetObservation.authorityRow (observation : AssetObservation) : AuthorityRow where
  siteId := observation.asset.siteId
  assetId := observation.asset.assetId
  canonicalCollectionId := observation.envelope.canonicalCollectionId
  sourceId := observation.envelope.sourceId
  adapterType := observation.envelope.adapterType
  sourceAuthority := observation.envelope.sourceAuthority
  trustRank := observation.envelope.rank
  compatibilityStatus := observation.envelope.compatibilityStatus
  observedAt := observation.envelope.observedAt
  updatedAt := observation.envelope.ingestedAt

def shouldReplaceAssetAuthority (current : Option AuthorityRow) (incomingTrustRank : Nat) (incomingObservedAt : Time) : Bool :=
  match current with
  | none => true
  | some row =>
    row.trustRank < incomingTrustRank || (incomingTrustRank == row.trustRank && row.observedAt ≤ incomingObservedAt)

/-- The update that a higher trust rank brings; it leaves the first sighting. -/
def overriddenRow (stored : AssetRow) (asset : NormalizedAsset) : AssetRow :=
  { asset.row with
    assetId := stored.assetId
    siteId := stored.siteId
    firstSeenAt := stored.firstSeenAt }

def overrideAsset (assets : AssetTable) (asset : NormalizedAsset) : AssetTable :=
  match assets.get? asset.assetKey with
  | none => assets
  | some stored => assets.set asset.assetKey (overriddenRow stored asset)

/-- The `DO UPDATE` of the authority upsert keeps the site and the asset. -/
def recordedAuthority (stored : Option AuthorityRow) (observation : AssetObservation) : AuthorityRow :=
  match stored with
  | none => observation.authorityRow
  | some row => { observation.authorityRow with siteId := row.siteId, assetId := row.assetId }

/-- `_persist_asset`, with whether the observation became authoritative. -/
def persistAsset (store : AssetStore) (observation : AssetObservation) : AssetStore × Bool :=
  let asset := observation.asset
  let current := store.authority.get? asset.assetKey
  if shouldReplaceAssetAuthority current observation.envelope.rank observation.envelope.observedAt then
    let assets := upsertControlTowerAsset store.assets asset
    let stronger := current.all (·.trustRank < observation.envelope.rank)
    ({ assets := if stronger then overrideAsset assets asset else assets
       authority := store.authority.set asset.assetKey (recordedAuthority current observation) }, true)
  else
    (store, false)

section

variable (printed : Json → String)

def CanonicalInventoryEnvelope.observations (envelope : CanonicalInventoryEnvelope) : List AssetObservation :=
  (envelope.normalizedAssets printed).map fun asset => { envelope, asset }

/-- The assets of an accepted envelope, with the ids of the authoritative ones. -/
def persistAssets (envelope : CanonicalInventoryEnvelope) (store : AssetStore) : AssetStore × List String :=
  (envelope.observations printed).foldl
    (fun (store, authoritative) observation =>
      let (next, replaced) := persistAsset store observation
      (next, if replaced then authoritative ++ [observation.asset.assetId] else authoritative))
    (store, [])

def acceptAssets (store : AssetStore) (envelope : CanonicalInventoryEnvelope) : AssetStore :=
  (persistAssets printed envelope store).1

end

end OpenAssetWatch.Ingestion
