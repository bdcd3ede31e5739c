import OpenAssetWatch.Library.Guard
import OpenAssetWatch.Sensor.Address

namespace OpenAssetWatch.Sensor

open Library

/-- Nanoseconds since the zero time, the first of January of year 1 in UTC. -/
abbrev Instant := Int

/-- A `time.Time`: its instant and the seconds that its zone is east of UTC. -/
structure GoTime where
  instant : Instant
  offset : Int
deriving DecidableEq, Repr

def GoTime.isZero (t : GoTime) : Bool := t.instant = 0

/-- A `float64`. -/
inductive Float64 where
  | finite (value : ℚ)
  | infinite
  | notANumber
deriving DecidableEq, Repr

/-- Neither NaN nor infinite, and between 0 and 1. -/
def Float64.isConfidence : Float64 → Bool
  | .finite value => 0 ≤ value && value ≤ 1
  | .infinite => false
  | .notANumber => false

structure Evidence where
  protocol : GoString
  kind : GoString
  value : GoString
  confidence : Float64
deriving DecidableEq, Repr

structure Asset where
  assetId : GoString
  hostname : GoString := []
  primaryIp : GoString := []
  mac : GoString := []
  os : GoString := []
  platform : GoString := []
  category : GoString := []
  evidence : List Evidence := []
  vlanId : Option Int := none
  sourceProtocols : List GoString := []
deriving DecidableEq, Repr

/-- A batch; no assets at all are a nil slice. -/
structure Batch where
  schemaVersion : GoString
  observationBatchId : GoString
  siteId : GoString
  sensorId : GoString
  sensorName : GoString
  sensorType : GoString
  sensorVersion : GoString := []
  observedAt : GoTime
  observationSource : GoString
  deliveryState : GoString
  confidence : Float64
  assets : Option (List Asset)
deriving DecidableEq, Repr

/-- `SchemaVersion`. -/
def schemaVersion : String := "oaw.observation-batch.v1"

def maxAssets : Nat := 500

def maxEvidence : Nat := 32

def maxBodyBytes : Nat := 2 * 2 ^ 20

def protocols : List String := ["arp", "dhcpv4", "dns", "mdns", "ssdp", "nbns", "vlan"]

/-- `validProtocol`. -/
def validProtocol (value : GoString) : Bool := protocols.any fun protocol => value = GoString.ofText protocol

def Evidence.validate (evidence : Evidence) : Except String Unit := do
  require (validProtocol evidence.protocol) "unsupported evidence protocol"
  require (validText evidence.kind 1 64) "evidence kind must contain 1 to 64 characters"
  require (validText evidence.value 1 512) "evidence value must contain 1 to 512 characters"
  require evidence.confidence.isConfidence "evidence confidence must be between 0 and 1"

/-- A field that may be left out. -/
def optionalText (value : GoString) (most : Nat) : Bool := value = [] || validText value 1 most

def Asset.validate (asset : Asset) : Except String Unit := do
  require (validText asset.assetId 1 160) "asset_id must contain 1 to 160 characters"
  require (optionalText asset.hostname 255) "hostname exceeds 255 characters"
  require (optionalText asset.os 160) "os exceeds 160 characters"
  require (optionalText asset.platform 160) "platform exceeds 160 characters"
  require (optionalText asset.category 80) "category exceeds 80 characters"
  require (asset.primaryIp = [] || isIP asset.primaryIp.runes) "primary_ip is invalid"
  require (asset.mac = [] || isMAC asset.mac.runes) "mac is invalid"
  require (asset.vlanId.all fun vlan => 0 ≤ vlan && vlan ≤ 4094) "vlan_id must be between 0 and 4094"
  require (asset.sourceProtocols.length ≤ 8) "source_protocols exceeds 8 entries"
  require (asset.evidence.length ≤ maxEvidence) "evidence exceeds maximum of 32"
  asset.evidence.forM Evidence.validate
  require (asset.sourceProtocols.all validProtocol) "unsupported source protocol"

/-- The loop over the assets; `seen` holds the identifiers before them. -/
def validateAssets (seen : List GoString) : List Asset → Except String Unit
  | [] => .ok ()
  | asset :: rest => do
    asset.validate
    require (!seen.contains asset.assetId) "asset duplicates asset_id"
    validateAssets (asset.assetId :: seen) rest

/-- `Batch.Validate`. -/
def Batch.validate (b : Batch) : Except String Unit := do
  require (b.schemaVersion = GoString.ofText Sensor.schemaVersion) "schema_version must be oaw.observation-batch.v1"
  require (isIdentifier 8 160 isIdentifierChar b.observationBatchId)
    "observation_batch_id must be 8 to 160 characters using letters, digits, dot, underscore, colon, or hyphen"
  require (isIdentifier 1 128 isSiteIdentifierChar b.siteId)
    "site_id must be 1 to 128 characters using letters, digits, dot, underscore, or hyphen"
  require (isIdentifier 1 160 isIdentifierChar b.sensorId)
    "sensor_id must be 1 to 160 characters using letters, digits, dot, underscore, colon, or hyphen"
  require (validText b.sensorName 1 160) "sensor_name must contain 1 to 160 characters"
  require (b.sensorType = GoString.ofText "passive-network-sensor") "sensor_type must be passive-network-sensor"
  require (optionalText b.sensorVersion 80) "sensor_version exceeds 80 characters"
  require (!b.observedAt.isZero) "observed_at is required"
  require (b.observationSource = GoString.ofText "passive-network") "observation_source must be passive-network"
  require (b.deliveryState = GoString.ofText "live" || b.deliveryState = GoString.ofText "cached-retry")
    "delivery_state must be live or cached-retry"
  require b.confidence.isConfidence "confidence must be between 0 and 1"
  let some assets := b.assets
    | throw "assets must be a JSON array"
  require (assets.length ≤ maxAssets) "assets exceeds maximum of 500"
  validateAssets [] assets

end OpenAssetWatch.Sensor
