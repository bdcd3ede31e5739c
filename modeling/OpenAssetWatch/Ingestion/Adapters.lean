import OpenAssetWatch.Ingestion.BoundedJson

namespace OpenAssetWatch.Ingestion

open Library Text Component

/-- The last moment of a `datetime`, which ends with the year 9999. -/
def lastMoment : Time := 253_402_300_799_999_999

def AdapterType.text : AdapterType → String
  | .endpointAgent => "endpoint-agent"
  | .passiveSensor => "passive-sensor"
  | .pythonCollector => "python-collector"
  | .transitionalLocal => "transitional-local"

def AuthenticationClass.text : AuthenticationClass → String
  | .boundCredential => "bound-credential"
  | .developmentShared => "development-shared"
  | .legacyShared => "legacy-shared"
  | .unauthenticated => "unauthenticated"

/-- An envelope with what its source says of itself. -/
structure AdaptedEnvelope extends CanonicalInventoryEnvelope where
  collectionLimitations : List String
  provenance : List (String × String)
  legacySubmission : Option Json

/-- The arguments of `_envelope` other than the digest of the submission. -/
structure EnvelopeArguments where
  routeName : String
  siteId : String
  sourceIdentity : String
  sourceType : SourceType
  adapterType : AdapterType
  authenticationClass : AuthenticationClass
  sourceAuthority : SourceAuthority
  rank : Nat
  compatibilityStatus : CompatibilityStatus
  observedAt : Time
  ingestedAt : Time
  inventoryMode : InventoryMode
  idempotencyKey : String
  originalIdentifier : Option String
  assets : List CanonicalAsset
  limitations : List String := []
  provenance : List (String × String) := []
  credentialId : Option String := none
  boundIdentityId : Option String := none
  legacySubmission : Option Json := none

/-- The texts of the envelope without the white space around them. -/
def EnvelopeArguments.stripped (a : EnvelopeArguments) : EnvelopeArguments :=
  { a with
    siteId := contractText a.siteId
    sourceIdentity := contractText a.sourceIdentity
    idempotencyKey := contractText a.idempotencyKey
    originalIdentifier := a.originalIdentifier.map contractText
    limitations := (a.limitations.map contractText).eraseDups
    provenance := a.provenance.map fun (key, text) => (key, contractText text)
    credentialId := a.credentialId.map contractText
    boundIdentityId := a.boundIdentityId.map contractText }

/-- The bounds of the fields of the envelope. -/
def EnvelopeArguments.fieldsValid (a : EnvelopeArguments) : Bool :=
  isLong 1 96 a.routeName && isLong 1 128 a.siteId && isLong 1 160 a.sourceIdentity && isLong 1 200 a.idempotencyKey &&
    a.originalIdentifier.all (isLong 0 160) && a.assets.length ≤ 1000 && a.limitations.length ≤ 64 &&
    a.limitations.all (isLong 1 240) && a.provenance.length ≤ 16 && a.provenance.all (fun entry => isLong 1 240 entry.2) &&
    a.credentialId.all (isLong 0 80) && a.boundIdentityId.all (isLong 0 160)

/-- `enforce_authority_contract`, without its limits on time and size. -/
structure EnvelopeArguments.Consistent (a : EnvelopeArguments) : Prop where
  site : a.siteId.toList.all isSiteChar = true
  sourceTypeMatches : a.sourceType = sourceTypeOf a.sourceAuthority
  rankMatches : a.rank = trustRank a.sourceAuthority
  compatibilityMatches : a.compatibilityStatus = compatibilityOf a.sourceAuthority
  adapterMatches : ∀ adapter ∈ adapterOf a.sourceAuthority, a.adapterType = adapter
  authenticated : a.sourceAuthority.isAuthenticated = true → a.authenticationClass = .boundCredential
  bound : a.sourceAuthority.isAuthenticated = true → a.credentialId.any (· ≠ "") = true ∧ a.boundIdentityId.any (· ≠ "") = true

instance (a : EnvelopeArguments) : Decidable a.Consistent :=
  decidable_of_iff (a.siteId.toList.all isSiteChar = true ∧ a.sourceType = sourceTypeOf a.sourceAuthority ∧
    a.rank = trustRank a.sourceAuthority ∧ a.compatibilityStatus = compatibilityOf a.sourceAuthority ∧
    (∀ adapter ∈ adapterOf a.sourceAuthority, a.adapterType = adapter) ∧
    (a.sourceAuthority.isAuthenticated = true → a.authenticationClass = .boundCredential) ∧
    (a.sourceAuthority.isAuthenticated = true →
      a.credentialId.any (· ≠ "") = true ∧ a.boundIdentityId.any (· ≠ "") = true))
    ⟨fun ⟨b, c, d, e, f, g, h⟩ => ⟨b, c, d, e, f, g, h⟩, fun ⟨b, c, d, e, f, g, h⟩ => ⟨b, c, d, e, f, g, h⟩⟩

section

variable (digest : List String → HexDigest)

/-- `_source_id`. -/
def sourceIdOf (a : EnvelopeArguments) : String :=
  "src_" ++ (digest [a.siteId, a.adapterType.text, a.authenticationClass.text, a.sourceIdentity]).text

def collectionIdOf (a : EnvelopeArguments) : String :=
  "col_" ++ (digest [sourceIdOf digest a, a.adapterType.text, a.idempotencyKey]).text

/-- The envelope of stripped arguments and of the identifiers made before, with what its validators enforce. -/
def validatedEnvelope (sourceId collectionId payloadDigest : String) (a : EnvelopeArguments) : Except EnvelopeError AdaptedEnvelope := do
  require a.fieldsValid (.contract .fieldConstraint)
  require (a.ingestedAt + maxFutureSkew ≤ lastMoment) .overflow
  require ((a.assets.map (·.components.length)).sum ≤ 32000) (.contract .componentLimit)
  require ((a.assets.map (·.evidence.length)).sum ≤ 64000) (.contract .evidenceLimit)
  if consistent : a.Consistent then
    if notAhead : a.observedAt ≤ a.ingestedAt + maxFutureSkew then
      return {
        routeName := a.routeName
        siteId := a.siteId
        sourceId
        sourceIdentity := a.sourceIdentity
        sourceType := a.sourceType
        adapterType := a.adapterType
        authenticationClass := a.authenticationClass
        sourceAuthority := a.sourceAuthority
        rank := a.rank
        compatibilityStatus := a.compatibilityStatus
        observedAt := a.observedAt
        ingestedAt := a.ingestedAt
        inventoryMode := a.inventoryMode
        idempotencyKey := a.idempotencyKey
        canonicalCollectionId := collectionId
        payloadSha256 := payloadDigest
        originalIdentifier := a.originalIdentifier
        assets := a.assets
        credentialId := a.credentialId
        boundIdentityId := a.boundIdentityId
        site := consistent.site
        sourceTypeMatches := consistent.sourceTypeMatches
        rankMatches := consistent.rankMatches
        compatibilityMatches := consistent.compatibilityMatches
        adapterMatches := consistent.adapterMatches
        authenticated := consistent.authenticated
        notAhead
        collectionLimitations := a.limitations
        provenance := a.provenance
        legacySubmission := a.legacySubmission }
    else .error .futureSkew
  else .error .siteInvalid

/-- `_envelope`. -/
def envelopeOf (payloadDigest : String) (a : EnvelopeArguments) : Except EnvelopeError AdaptedEnvelope :=
  validatedEnvelope (sourceIdOf digest a) (collectionIdOf digest a) payloadDigest a.stripped

end

def CanonicalEvidence.fieldsValid (evidence : CanonicalEvidence) : Bool :=
  isLong 1 64 evidence.protocol && isLong 1 80 evidence.kind && isLong 1 512 evidence.value &&
    (0 ≤ evidence.confidence && evidence.confidence ≤ 1)

def CanonicalAsset.fieldsValid (asset : CanonicalAsset) : Bool :=
  isLong 1 160 asset.assetId && asset.hostname.all (isLong 0 255) && asset.primaryIp.all (isLong 0 64) &&
    asset.mac.all (isLong 0 64) && asset.os.all (isLong 0 160) && asset.platform.all (isLong 0 160) &&
    asset.category.all (isLong 0 80) && asset.evidence.length ≤ 64 && asset.evidence.all (·.fieldsValid) &&
    asset.components.length ≤ 2000

def CanonicalEvidence.stripped (evidence : CanonicalEvidence) : CanonicalEvidence :=
  { evidence with
    protocol := contractText evidence.protocol
    kind := contractText evidence.kind
    value := contractText evidence.value }

/-- Keys that are equal without the white space around them are one. -/
def strippedKeys (entries : List (String × Json)) : List (String × Json) :=
  entries.foldl (fun stripped (key, value) => DictEntries.update (contractText key) (fun _ => value) stripped) []

def CanonicalAsset.stripped (asset : CanonicalAsset) : CanonicalAsset :=
  { asset with
    assetId := contractText asset.assetId
    hostname := asset.hostname.map contractText
    primaryIp := asset.primaryIp.map contractText
    mac := asset.mac.map contractText
    os := asset.os.map contractText
    platform := asset.platform.map contractText
    category := asset.category.map contractText
    evidence := asset.evidence.map (·.stripped) }

section

variable (printed : Json → String)

/-- `_asset_from_mapping` with the contract of the asset that it makes. -/
def canonicalAsset (value : Json) (index : Nat) : Except EnvelopeError CanonicalAsset := do
  let asset ← assetFromMapping printed value index
  let asset := asset.stripped
  require asset.fieldsValid (.contract .fieldConstraint)
  let metadata ← boundedJson (.object (strippedKeys asset.metadata))
  return {
    asset with
    metadata := match metadata with
      | .object entries => entries
      | _ => [] }

variable (digest : List String → HexDigest)

/-- Whose credential a batch came with. -/
inductive SensorContext where
  | boundSensor (siteId sensorId credentialId : String)
  | developmentShared

def sensorArguments (payload : ObservationBatchRequest) (context : SensorContext) (assets : List CanonicalAsset)
    (receivedAt : Time) : EnvelopeArguments :=
  let provenance := [("claimed_sensor_id", payload.sensorId), ("sensor_name", payload.sensorName),
    ("sensor_type", payload.sensorType.text)] ++
    ((payload.sensorVersion.filter (· ≠ "")).map fun version => ("sensor_version", version)).toList
  match context with
  | .boundSensor siteId sensorId credentialId =>
    { routeName := "/api/v1/observations/batches"
      siteId
      sourceIdentity := sensorId
      sourceType := .passiveSensor
      adapterType := .passiveSensor
      authenticationClass := .boundCredential
      sourceAuthority := .authenticatedPassiveSensor
      rank := 75
      compatibilityStatus := .canonical
      observedAt := payload.observedAt.instant
      ingestedAt := receivedAt
      inventoryMode := .passive
      idempotencyKey := payload.observationBatchId
      originalIdentifier := some payload.observationBatchId
      assets
      provenance
      credentialId := some credentialId
      boundIdentityId := some sensorId }
  | .developmentShared =>
    { routeName := "/api/v1/observations/batches"
      siteId := payload.siteId
      sourceIdentity := "transitional_" ++ (digest [payload.siteId, payload.sensorId]).text
      sourceType := .transitional
      adapterType := .passiveSensor
      authenticationClass := .developmentShared
      sourceAuthority := .untrustedTransitional
      rank := 10
      compatibilityStatus := .deprecated
      observedAt := payload.observedAt.instant
      ingestedAt := receivedAt
      inventoryMode := .transitional
      idempotencyKey := payload.observationBatchId
      originalIdentifier := some payload.observationBatchId
      assets
      limitations := ["development-shared sensor identity is untrusted"]
      provenance }

variable (batchDigest : ObservationBatchRequest → String)

def sensorEnvelope (payload : ObservationBatchRequest) (context : SensorContext) (receivedAt : Time) :
    Except EnvelopeError AdaptedEnvelope := do
  let assets ← payload.assets.zipIdx.mapM fun (asset, index) => canonicalAsset printed asset.dump index
  envelopeOf digest (batchDigest payload) (sensorArguments digest payload context assets receivedAt)

variable (jsonDigest : Json → String) (fromIsoFormat : String → Option (Option Time))

/-- A reported time, unless it names no zone or lies ahead of its receipt. -/
def reportedTime (receivedAt : Time) (reported : Option (Option Time)) : Time :=
  match reported with
  | some (some time) => if time ≤ receivedAt + maxFutureSkew then time else receivedAt
  | _ => receivedAt

/-- The characters `Z` of a time as the parser of ISO times takes them. -/
def isoText (text : String) : String := text.replace "Z" "+00:00"

def transitionalArguments (safe : Json) (siteId : String) (assets : List CanonicalAsset) (receivedAt : Time) :
    EnvelopeArguments :=
  let observed := (safe.get "observed_at").orElse (safe.get "collected_at")
  let supplied := shortText printed 160 (safe.get "observation_batch_id")
  { routeName := "/api/v1/collections/local-inventory"
    siteId
    sourceIdentity := "transitional_" ++ (digest [siteId]).text
    sourceType := .transitional
    adapterType := .transitionalLocal
    authenticationClass := .unauthenticated
    sourceAuthority := .untrustedTransitional
    rank := 10
    compatibilityStatus := .deprecated
    observedAt := reportedTime receivedAt
      (if observed.isTruthy then fromIsoFormat (isoText (str printed observed)) else some (some receivedAt))
    ingestedAt := receivedAt
    inventoryMode := .transitional
    idempotencyKey := supplied.getD ("digest-" ++ jsonDigest safe)
    originalIdentifier := supplied
    assets
    limitations := ["unauthenticated compatibility input", "not authoritative evidence"]
    provenance := [("legacy_schema_version", (shortText printed 80 (safe.get "schema_version")).getD "unknown")] }

def isArray : Json → Bool
  | .array _ => true
  | _ => false

/-- The items of a list that are objects, made into assets. -/
def assetsFrom (items : List Json) : Except EnvelopeError (List CanonicalAsset) :=
  (items.zipIdx.filter (·.1.isObject)).mapM fun (item, index) => canonicalAsset printed item index

def transitionalEnvelope (payload : Json) (receivedAt : Time) : Except EnvelopeError AdaptedEnvelope := do
  let safe ← boundedJson payload
  require safe.isObject .localObject
  let some siteId := (shortText printed 128 (safe.get "site_id")).filter fun site => site.toList.all isSiteChar
    | throw .localSite
  let raw := (safe.get "assets").orElse (.array [])
  require (isArray raw && (reportedItems raw).length ≤ 1000) .localAssets
  let assets ← assetsFrom printed (reportedItems raw)
  envelopeOf digest (jsonDigest safe) (transitionalArguments printed digest jsonDigest fromIsoFormat safe siteId assets receivedAt)

/-- `model_dump` of what an old collector sends, and its time, which may be missing or name no zone. -/
structure CollectorInventoryRequest where
  fields : List (String × Json)
  collectedAt : Option (Option Time)

def collectorFields : List String :=
  ["schema_version", "collector", "collector_guid", "collector_id", "collector_name", "collector_version", "mode",
    "collected_at", "platform", "deployment", "labels", "supported_capabilities", "enabled_capabilities", "device",
    "network", "software"]

def CollectorInventoryRequest.known (payload : CollectorInventoryRequest) : Json :=
  .object (collectorFields.filterMap fun key => (payload.fields.lookup key).map fun value => (key, value))

/-- `dict.update`. -/
def updated (entries new : List (String × Json)) : List (String × Json) :=
  new.foldl (fun entries (key, value) => DictEntries.update key (fun _ => value) entries) entries

/-- The device of an old collector with its software, when it reports either. -/
def collectorDevice (safe : Json) (sourceIdentity : String) : Option Json :=
  let device := safe.get "device"
  let software := reportedItems (safe.get "software")
  match device with
  | .object entries =>
    let name := (shortText printed 160 (device.get "hostname")).getD sourceIdentity
    let named := if (entries.lookup "asset_id").isSome then entries else entries ++ [("asset_id", .string name)]
    some (.object (updated named [("software", .array software)]))
  | _ => if software.isEmpty then none else some (.object [("asset_id", .string sourceIdentity), ("software", .array software)])

/-- An asset of the network of an old collector; its own fields come before those made of them. -/
def collectorNeighbour (entry : Json) : Option Json :=
  match entry with
  | .object entries => some (.object (updated
      [("asset_id", firstOf entry ["asset_id", "mac_address", "mac", "ip_address", "ip"]),
        ("primary_ip", firstOf entry ["ip_address", "ip"]),
        ("mac", firstOf entry ["mac_address", "mac"])] entries))
  | _ => none

def networkItems (safe : Json) : List Json :=
  match safe.get "network" with
  | .object entries => entries.map Prod.snd
  | .array items => items
  | _ => []

/-- What identifies an old collector, of which it may say several. -/
structure CollectorNames where
  identityClaim : String
  collectorId : Option String
  collectorName : Option String

def collectorNames (safe : Json) : CollectorNames :=
  let collector := safe.get "collector"
  let named := objectOrEmpty collector
  { identityClaim := (shortText printed 160 ((safe.get "collector_guid").orElse ((safe.get "collector_id").orElse
      ((named.get "id").orElse collector)))).getD "anonymous-collector"
    collectorId := shortText printed 160 ((safe.get "collector_id").orElse ((named.get "id").orElse collector))
    collectorName := shortText printed 160 ((safe.get "collector_name").orElse (named.get "name")) }

def arrayOrEmpty (value : Json) : Json := if isArray value then value else .array []

def legacySubmission (safe : Json) (names : CollectorNames) (observed : Time) : Json :=
  let count (n : Nat) : Json := .number n
  .object
    [("collector_guid", .ofText (shortText printed 160 (safe.get "collector_guid"))),
      ("collector_id", .ofText names.collectorId),
      ("collector_name", .ofText names.collectorName),
      ("collector_version", .ofText (shortText printed 80 (safe.get "collector_version"))),
      ("mode", .ofText (shortText printed 40 (safe.get "mode"))),
      ("schema_version", .ofText (shortText printed 80 (safe.get "schema_version"))),
      ("collected_at", .time observed),
      ("device_count", count (if (safe.get "device").isObject then 1 else 0)),
      ("network_observation_count", count (networkItems safe).length),
      ("software_count", count (reportedItems (safe.get "software")).length),
      ("payload", safe),
      ("deployment", objectOrEmpty (safe.get "deployment")),
      ("labels", objectOrEmpty (safe.get "labels")),
      ("supported_capabilities", arrayOrEmpty (safe.get "supported_capabilities")),
      ("enabled_capabilities", arrayOrEmpty (safe.get "enabled_capabilities"))]

def legacyArguments (safe : Json) (authenticationClass : AuthenticationClass) (names : CollectorNames)
    (assets : List CanonicalAsset) (submission : Json) (observedAt receivedAt : Time) : EnvelopeArguments :=
  let deployment := objectOrEmpty (safe.get "deployment")
  let site := shortText printed 128 (firstOf deployment ["site_id", "deployment_id"])
  { routeName := "/api/v1/collectors/inventory"
    siteId := (site.filter fun site => site.toList.all isSiteChar).getD "legacy-collector-default"
    sourceIdentity := "legacy_" ++ (digest [names.identityClaim]).text
    sourceType := .legacyCollector
    adapterType := .pythonCollector
    authenticationClass
    sourceAuthority := .legacyCollector
    rank := 25
    compatibilityStatus := .compatibility
    observedAt
    ingestedAt := receivedAt
    inventoryMode := .legacy
    idempotencyKey := "digest-" ++ jsonDigest safe
    originalIdentifier := some names.identityClaim
    assets
    limitations := ["legacy shared identity", "reported facts are lower trust"]
    provenance := [("collector_id", names.collectorId.getD "unknown"), ("collector_name", names.collectorName.getD "unknown")]
    legacySubmission := some submission }

/-- `legacy_collector_envelope`. -/
def legacyCollectorEnvelope (payload : CollectorInventoryRequest) (authenticationClass : AuthenticationClass)
    (receivedAt : Time) : Except EnvelopeError AdaptedEnvelope := do
  let safe ← boundedJson payload.known
  let names := collectorNames printed safe
  let device := collectorDevice printed safe ("legacy_" ++ (digest [names.identityClaim]).text)
  let neighbours := networkItems safe
  require (neighbours.length + device.toList.length ≤ 1000) .networkAssets
  let assets ← (device.toList ++ neighbours.filterMap collectorNeighbour).zipIdx.mapM fun (value, index) =>
    canonicalAsset printed value index
  let observed := reportedTime receivedAt (payload.collectedAt.elim (some (some receivedAt)) some)
  let submission ← boundedJson (legacySubmission printed safe names observed)
  envelopeOf digest (jsonDigest safe)
    (legacyArguments printed digest jsonDigest safe authenticationClass names assets submission observed receivedAt)

/-- What an endpoint agent says of itself beside its inventory. -/
structure EndpointClaims where
  agentVersion : Option String
  architecture : Option String

variable (payloadDigest : EndpointInventoryRequest → String)

/-- `endpoint_envelope` with its provenance. -/
def adaptedEndpoint (inventory : AdmittedInventory) (claims : EndpointClaims) (context : AgentContext)
    (deploymentId : String) : Except EnvelopeError AdaptedEnvelope := do
  let envelope ← endpointEnvelope printed digest payloadDigest inventory context
  let provenance := [("agent_version", claims.agentVersion), ("architecture", claims.architecture),
    ("deployment_id", some deploymentId), ("platform", inventory.platform)].filterMap fun (key, text) =>
    (text.filter (· ≠ "")).map fun text => (key, text)
  return {
    envelope with
    collectionLimitations := inventory.collectionLimitations.eraseDups
    provenance
    legacySubmission := none }

end

end OpenAssetWatch.Ingestion
