import OpenAssetWatch.Component.Presence
import OpenAssetWatch.Ingestion.Assets
import OpenAssetWatch.Library.Best
import OpenAssetWatch.Text.Purl

namespace OpenAssetWatch.Ingestion

open Library Text Component

/-- `bounded_text(value, limit=limit) or None`. -/
def boundedString (limit : Nat) (value : Json) : Option String :=
  (nonempty (boundedText limit value.text?)).map String.ofList

def token (limit : Nat) (value : Json) : String := normalizedToken limit value.text?

/-- `or None` of a text. -/
def nonemptyText (text : String) : Option String := if text = "" then none else some text

def supportedEcosystems : List String :=
  ["pypi", "npm", "maven", "nuget", "golang", "deb", "rpm", "alpine", "generic", "firmware", "operating-system"]

def componentTypeAliases : List (String × ComponentType) :=
  [("app", .application), ("application", .application), ("package", .operatingSystemPackage),
    ("os-package", .operatingSystemPackage), ("operating-system-package", .operatingSystemPackage),
    ("library", .library), ("runtime", .runtime), ("driver", .driver), ("firmware", .firmware),
    ("os", .operatingSystem), ("operating-system", .operatingSystem), ("security-tool", .securityTool),
    ("security_tool", .securityTool), ("unknown", .unknown)]

def ecosystemAliases : List (String × String) :=
  [("python", "pypi"), ("pypi", "pypi"), ("node", "npm"), ("nodejs", "npm"), ("npm", "npm"), ("java", "maven"),
    ("maven", "maven"), ("dotnet", "nuget"), ("nuget", "nuget"), ("go", "golang"), ("golang", "golang"),
    ("debian", "deb"), ("ubuntu", "deb"), ("dpkg", "deb"), ("deb", "deb"), ("redhat", "rpm"), ("rhel", "rpm"),
    ("fedora", "rpm"), ("centos", "rpm"), ("rpm", "rpm"), ("apk", "alpine"), ("alpine", "alpine"),
    ("application", "generic"), ("generic", "generic"), ("firmware", "firmware"), ("os", "operating-system"),
    ("operating-system", "operating-system")]

def normalizeEcosystem (value : Json) (componentType : String) : String :=
  let candidate := token 40 value
  if candidate = "" then
    if componentType = "firmware" then "firmware"
    else if componentType = "operating-system" then "operating-system"
    else "generic"
  else (ecosystemAliases.lookup candidate).getD candidate

def normalizeComponentType (value : Json) (ecosystem : String) : ComponentType :=
  match componentTypeAliases.lookup (token 48 value) with
  | some componentType => componentType
  | none =>
    if ecosystem = "deb" || ecosystem = "rpm" || ecosystem = "alpine" then .operatingSystemPackage
    else if ecosystem = "firmware" then .firmware
    else if ecosystem = "operating-system" then .operatingSystem
    else .application

/-- A first character that is plain, and up to `limit` more. -/
def isName (tail : Char → Bool) (limit : Nat) (text : String) : Bool :=
  match text.toList with
  | [] => false
  | c :: rest => isPlain c && rest.all tail && rest.length ≤ limit

def isArchitectureChar (c : Char) : Bool := isPlain c || c == '_' || c == '.' || c == '-'

/-- The pattern of a source, a method and an error code. -/
def isSourceName (text : String) : Bool := isName isArchitectureChar 63 text

def normalizeArchitecture (value : Json) : Option String :=
  let candidate := token 40 value
  let architecture :=
    if candidate = "x86-64" || candidate = "x64" then "amd64" else if candidate = "aarch64" then "arm64" else candidate
  if isName isArchitectureChar 39 architecture then some architecture else none

def utc (value : Json) (receivedAt : Time) : Time :=
  match value with
  | .time time => min time (receivedAt + maxFutureSkew)
  | _ => receivedAt

def hour : Time := 3600000000

def componentFreshness (observedAt now : Time) : Freshness :=
  let age := max 0 (now - observedAt)
  if age ≤ 72 * hour then .fresh else if age ≤ 24 * 30 * hour then .aging else .stale

def confidenceOf (value : Json) (default : ℚ) : ℚ :=
  match value with
  | .number value => max 0 (min value 1)
  | .bool value => if value then 1 else 0
  | _ => default

structure SourceContext where
  sourceType : String
  sourceId : String
  direct : Bool
deriving DecidableEq

def sourceContext (payload : PersistencePayload) (asset : Json) (sourceAuthenticated : Bool) : SourceContext :=
  let declaredType := token 64 (.string payload.sensorType)
  let observationSource := token 64 (.string payload.observationSource)
  let sourceId := boundedString 160
    (((Json.string payload.sensorId).orElse (.string payload.agentId)).orElse (asset.get "source_agent_id"))
  if !sourceAuthenticated then ⟨"untrusted-ingestion", "untrusted-local-inventory", false⟩
  else if ["endpoint-collector", "endpoint-agent", "collector"].contains declaredType then
    ⟨"endpoint-collector", sourceId.getD "endpoint-source", true⟩
  else if declaredType = "passive-network-sensor" then
    ⟨"passive-network-sensor", sourceId.getD "passive-source", false⟩
  else if declaredType = "connector" then ⟨"reviewed-connector", sourceId.getD "connector-source", true⟩
  else if ["endpoint-inventory", "local-inventory"].contains observationSource then
    ⟨"connector", sourceId.getD "connector-source", false⟩
  else if observationSource = "passive-network" then
    ⟨"passive-network-sensor", sourceId.getD "passive-source", false⟩
  else ⟨"connector", sourceId.getD "connector-source", false⟩

def componentFields : List (String × Json) :=
  [("components", .null), ("software", .string "application"), ("packages", .string "operating-system-package"),
    ("firmware", .string "firmware")]

def componentEntry (defaultType : Json) (entry : Json) : Option Json :=
  match entry with
  | .object entry => some (.object (merge entry [("_default_component_type", defaultType)]))
  | .string name => some (.object [("name", .string name), ("_default_component_type", defaultType)])
  | _ => none

/-- The entries under one field; a single firmware stands for a list of one. -/
def entriesUnder (container : Json) (field : String × Json) : List Json :=
  let entries := match container.get field.1 with
    | .array entries => entries
    | .object entry => if field.1 = "firmware" then [.object entry] else []
    | _ => []
  (entries.take maxComponentsPerAsset).filterMap (componentEntry field.2)

def componentEntries (asset : Json) : List Json :=
  ([asset, asset.get "metadata"].flatMap fun container => componentFields.flatMap (entriesUnder container)).take
    maxComponentsPerAsset

def safeMetadataFields : List String :=
  ["channel", "description", "edition", "install_state", "language", "release", "repository", "service_pack"]

def safeMetadata (value : Json) : List (String × String) :=
  safeMetadataFields.filterMap fun key => (boundedString 160 (value.get key)).map (key, ·)

def isEvidenceChar (c : Char) : Bool := isPlain c || c == '_' || c == '-'

def isEvidenceId (text : String) : Bool :=
  match text.toList with
  | [] => false
  | c :: rest => 'a' ≤ c && c ≤ 'z' && rest.all isEvidenceChar && 3 ≤ rest.length && rest.length ≤ 79

/-- The entries of a payload's component have these fields in common. -/
structure EntryContext where
  siteId : String
  assetId : String
  source : SourceContext
  receivedAt : Time
  defaultObservedAt : Json
  defaultConfidence : ℚ
  inventoryComplete : Bool

def firstOf (entry : Json) : List String → Json
  | [] => .null
  | [name] => entry.get name
  | name :: rest => (entry.get name).orElse (firstOf entry rest)

def entryPurl (entry : Json) : Option ParsedPurl := parsePurl (firstOf entry ["purl", "package_url"]).text?

def initialType (entry : Json) : Json :=
  (firstOf entry ["component_type", "type", "_default_component_type"]).orElse (.string "")

def entryEcosystem (entry : Json) : String :=
  match entryPurl entry with
  | some parsed => parsed.ecosystem
  | none => normalizeEcosystem (firstOf entry ["ecosystem", "package_manager"]) (token 48 (initialType entry))

def entryName (entry : Json) : List Char :=
  boundedText maxComponentName
    ((firstOf entry ["name", "product", "package"]).orElse
      (.ofText ((entryPurl entry).map fun parsed => String.ofList parsed.name))).text?

def entryNormalizedName (entry : Json) : String :=
  match entryPurl entry with
  | some parsed => normalizedToken maxComponentName (some (String.ofList parsed.name))
  | none => normalizedToken maxComponentName (some (String.ofList (entryName entry)))

def entryNamespace (entry : Json) : Option (List Char) :=
  match entryPurl entry with
  | some parsed => parsed.packageNamespace
  | none => canonicalPurlNamespace (entryEcosystem entry) (nonempty (boundedText 160 (entry.get "namespace").text?))

def entryComponentType (entry : Json) : ComponentType := normalizeComponentType (initialType entry) (entryEcosystem entry)

def entryVendor (entry : Json) : Option String :=
  (boundedString 160 (firstOf entry ["vendor", "manufacturer"])).orElse fun _ =>
    if entryComponentType entry = .firmware then (entryNamespace entry).map String.ofList else none

def entryVersion (entry : Json) : Option String :=
  (normalizeVersionText ((firstOf entry ["version", "firmware_version"]).orElse
    (.ofText ((entryPurl entry).bind fun parsed => parsed.version.map String.ofList))).text?).map String.ofList

def entryInstallScope (entry : Json) : String :=
  (nonemptyText (token 40 ((firstOf entry ["install_scope", "scope"]).orElse (.string "system")))).getD "system"

def canonicalIdentifier (entry : Json) : Option String :=
  match entryPurl entry with
  | some parsed => purlIdentity (some (String.ofList parsed.canonical))
  | none =>
    if ["generic", "firmware", "operating-system"].contains (entryEcosystem entry) then none
    else (buildPurl (entryEcosystem entry) (entryNamespace entry) (entryName entry) none).map String.ofList

/-- Without a canonical identifier the vendor and the names take its place; the version has no part in it. -/
def entryIdentity (entry : Json) : String :=
  (canonicalIdentifier entry).getD ("\x1f".intercalate
    [entryEcosystem entry, normalizedToken 160 (entryVendor entry), String.ofList ((entryNamespace entry).getD []),
      entryNormalizedName entry])

def entryComponentId (context : EntryContext) (entry : Json) : ComponentId where
  siteId := context.siteId
  assetId := context.assetId
  identity := String.ofList (casefold (entryIdentity entry).toList)
  architecture := (normalizeArchitecture (entry.get "architecture")).getD ""
  installScope := entryInstallScope entry

/-- The three fields of a native source, all of them or none. -/
def nativeReference (entry : Json) : Option NativeReference := do
  let collectionSourceId ← (boundedString 64 (entry.get "collection_source_id")).filter isSourceName
  let sourceRecordId ← boundedString 240 (entry.get "source_record_id")
  let evidenceMethod ← (boundedString 64 (entry.get "evidence_method")).filter isSourceName
  return { collectionSourceId, sourceRecordId, evidenceMethod }

def firmwareEvidenceTypes : List (String × FirmwareEvidenceType) :=
  [("direct", .direct), ("vendor-reported", .vendorReported), ("collector-reported", .collectorReported),
    ("inferred", .inferred), ("unknown", .unknown)]

def firmwareEvidence (entry : Json) (direct : Bool) : FirmwareEvidenceType :=
  if entryComponentType entry = .firmware then
    let declared := (firmwareEvidenceTypes.lookup (token 40 (firstOf entry ["firmware_evidence_type", "evidence_type"]))).getD
      (if direct then .collectorReported else .inferred)
    if !direct && (declared = .direct || declared = .collectorReported) then .inferred else declared
  else .unknown

def normalizationStatus (entry : Json) (direct : Bool) : NormalizationStatus :=
  let isFirmware := entryComponentType entry = .firmware
  let evidence := firmwareEvidence entry direct
  if !supportedEcosystems.contains (entryEcosystem entry) then .unsupportedEcosystem
  else if isFirmware && ((entryVendor entry).isNone || (entryVersion entry).isNone ||
      evidence = .inferred || evidence = .unknown) then .insufficientFirmwareEvidence
  else if (entryVersion entry).isNone then .versionUnknown
  else if isFirmware then .normalized
  else if (canonicalIdentifier entry).isNone ||
      (entryEcosystem entry = "generic" && (entryVendor entry).isNone && (entryNamespace entry).isNone) then .identityUncertain
  else .normalized

def isHexText (length : Nat) (text : String) : Bool := text.toList.all isHexDigit && text.toList.length == length

theorem isHexText_zeros : isHexText 32 "00000000000000000000000000000000" = true := by decide

/-- The first half of a SHA-256 in hexadecimal. -/
structure HexDigest where
  text : String
  isHex : isHexText 32 text = true

section

variable (digest : List String → HexDigest)

def evidenceIds (entry : Json) (context : EntryContext) (identity : String) : List String :=
  let claims := match entry.get "evidence_ids" with
    | .array supplied => ((supplied.take 16).filterMap (boundedString 80)).filter isEvidenceId
    | _ => []
  let claims := if claims = [] then ["server-observation"] else claims
  (claims.map fun claim =>
    "cpe_" ++ (digest [context.siteId, context.assetId, context.source.sourceId, identity, claim]).text).eraseDups

def entryObservedAt (context : EntryContext) (entry : Json) : Time :=
  utc ((entry.get "observed_at").orElse context.defaultObservedAt) context.receivedAt

def entryConfidence (context : EntryContext) (entry : Json) : ℚ :=
  confidenceOf (entry.get "confidence")
    (if context.source.direct then context.defaultConfidence else min context.defaultConfidence (55 / 100))

def entryEvidenceIds (context : EntryContext) (entry : Json) : List String :=
  evidenceIds digest entry context <|
    match nativeReference entry with
    | none => entryIdentity entry
    | some native =>
      "\x1f".intercalate [entryIdentity entry, native.collectionSourceId, native.sourceRecordId, native.evidenceMethod]

/-- The name and the token of it that an entry cannot do without. -/
def isNamed (entry : Json) : Bool := !(entryName entry).isEmpty && entryNormalizedName entry != ""

def normalizedComponent (context : EntryContext) (entry : Json) : Option NormalizedComponent :=
  if isNamed entry then
    let observedAt := entryObservedAt context entry
    some
      { componentId := entryComponentId context entry
        componentType := entryComponentType entry
        ecosystem := entryEcosystem entry
        packageNamespace := (entryNamespace entry).map String.ofList
        vendor := entryVendor entry
        name := String.ofList (entryName entry)
        normalizedName := entryNormalizedName entry
        version := entryVersion entry
        normalizedVersion := entryVersion entry
        architecture := normalizeArchitecture (entry.get "architecture")
        packageManager := nonemptyText (token 48 (entry.get "package_manager"))
        canonicalIdentifier := canonicalIdentifier entry
        cpeHint :=
          if (entry.get "cpe_reviewed").isTruthy then boundedString 500 (firstOf entry ["cpe_hint", "cpe"]) else none
        installScope := entryInstallScope entry
        sourceType := context.source.sourceType
        sourceId := context.source.sourceId
        firmwareEvidenceType := firmwareEvidence entry context.source.direct
        evidenceIds := entryEvidenceIds digest context entry
        observedAt
        freshness := componentFreshness observedAt context.receivedAt
        confidence := entryConfidence context entry
        normalizationStatus := normalizationStatus entry context.source.direct
        metadata := safeMetadata (entry.get "metadata")
        inventoryComplete := context.inventoryComplete
        native := nativeReference entry }
  else none

/-- What decides between two observations of one component. -/
structure ObservationKey where
  observedAt : Time
  confidence : ℚ
  evidenceIds : List String
deriving DecidableEq

def compareObservations : ObservationKey → ObservationKey → Ordering :=
  compareLex (compareOn (·.observedAt)) (compareLex (compareOn (·.confidence)) (compareOn (·.evidenceIds)))

def ObservationKey.outranks (key existing : ObservationKey) : Bool := compareObservations key existing == .gt

def observationKey (component : NormalizedComponent) : ObservationKey :=
  ⟨component.observedAt, component.confidence, component.evidenceIds⟩

def outranks (component existing : NormalizedComponent) : Bool := (observationKey component).outranks (observationKey existing)

def completeRequested (payload : PersistencePayload) (asset : Json) : Bool :=
  payload.componentInventoryComplete || (asset.get "component_inventory_complete").isTruthy

/-- The asset's own names; without both of them nothing is recorded of it. -/
def entryContext (asset : Json) (payload : PersistencePayload) (receivedAt : Time) (sourceAuthenticated : Bool) :
    Option EntryContext := do
  let siteId ← boundedString 128 (asset.get "site_id")
  let assetId ← boundedString 160 (asset.get "asset_id")
  let source := sourceContext payload asset sourceAuthenticated
  return {
    siteId
    assetId
    source
    receivedAt
    defaultObservedAt := (asset.get "observed_at").orElse (.time payload.observedAt)
    defaultConfidence := confidenceOf (.number payload.confidence) (8 / 10)
    inventoryComplete := completeRequested payload asset && source.direct }

def normalizeComponentsForAsset (asset : Json) (payload : PersistencePayload) (receivedAt : Time)
    (sourceAuthenticated : Bool) : List NormalizedComponent :=
  match entryContext asset payload receivedAt sourceAuthenticated with
  | none => []
  | some context =>
    (bestByKey (·.componentId) outranks ((componentEntries asset).filterMap (normalizedComponent digest context))).values

end

def isCollectionId (text : String) : Bool :=
  text.toList.take 4 == "col_".toList && (text.toList.drop 4).all isHexDigit && text.toList.length == 36

/-- `component_counts`, of entries as they come. -/
def isFromSource (sourceId : String) (entry : Json) : Bool :=
  boundedString 64 (entry.get "collection_source_id") == some sourceId

def snapshotOf (asset : Json) (context : EntryContext) (canonicalCollectionId : String) (source : CanonicalSoftwareSource)
    (collectionSourceId : String) : ComponentSourceSnapshot :=
  let scope : Component.SourceScope :=
    { siteId := context.siteId
      assetId := context.assetId
      agentSourceId := context.source.sourceId
      collectionSourceId }
  { sourceSnapshotId := ⟨canonicalCollectionId, scope⟩
    canonicalCollectionId
    scope
    platform := source.platform
    collectionStatus := source.status
    observedAt := utc (.time source.observedAt) context.receivedAt
    recordCount := (componentEntries asset).countP (isFromSource collectionSourceId)
    truncated := source.truncated
    errorCode := boundedString 80 (.ofText source.errorCode)
    limitations := ((source.limitations.take 8).filterMap fun limitation => boundedString 120 (.string limitation)).eraseDups }

def sourceSnapshot (asset : Json) (context : EntryContext) (canonicalCollectionId : String)
    (source : CanonicalSoftwareSource) : Option ComponentSourceSnapshot :=
  ((boundedString 64 (.string source.sourceId)).filter isSourceName).map
    (snapshotOf asset context canonicalCollectionId source)

def componentSourceSnapshotsForAsset (asset : Json) (payload : PersistencePayload) (receivedAt : Time)
    (sourceAuthenticated : Bool) (canonicalCollectionId : Option String) : List ComponentSourceSnapshot :=
  match canonicalCollectionId.filter isCollectionId, entryContext asset payload receivedAt sourceAuthenticated with
  | some canonicalCollectionId, some context =>
    if context.source.sourceType = "endpoint-collector" && context.source.direct then
      (payload.softwareSources.take 8).filterMap (sourceSnapshot asset context canonicalCollectionId)
    else []
  | _, _ => []

def completeComponentInventoryScope (asset : Json) (payload : PersistencePayload) (receivedAt : Time)
    (sourceAuthenticated : Bool) : Option CompleteAsset := do
  let context ← entryContext asset payload receivedAt sourceAuthenticated
  if context.source.sourceType = "endpoint-collector" && context.source.direct && completeRequested payload asset then
    return {
      siteId := context.siteId
      assetId := context.assetId
      sourceId := context.source.sourceId
      observedAt := utc context.defaultObservedAt receivedAt }
  else none

/-- The normalised asset as the projection reads it. -/
def NormalizedAsset.dict (asset : NormalizedAsset) : Json :=
  .object
    [("asset_key", .string asset.assetKey),
      ("asset_id", .string asset.assetId),
      ("site_id", .string asset.siteId),
      ("hostname", .ofText asset.hostname),
      ("primary_ip", .ofText asset.primaryIp),
      ("mac", .ofText asset.mac),
      ("os", .ofText asset.os),
      ("platform", .ofText asset.platform),
      ("source_agent_id", .ofText asset.sourceAgentId),
      ("first_seen_at", .time asset.firstSeenAt),
      ("last_seen_at", .time asset.lastSeenAt),
      ("evidence_count", .number asset.evidenceCount),
      ("observation_batch_id", .ofText asset.observationBatchId),
      ("observation_source", .string asset.observationSource),
      ("observed_at", .time asset.observedAt),
      ("delivery_state", .string asset.deliveryState),
      ("confidence", asset.confidence.elim .null .number),
      ("metadata", .object asset.metadata)]

section

variable (printed : Json → String) (digest : List String → HexDigest) (envelope : CanonicalInventoryEnvelope)
  (selected : List String)

/-- The assets of a collection that its evaluation was queued for. -/
def evaluatedAssets : List Json :=
  ((envelope.normalizedAssets printed).filter fun asset => selected.contains asset.assetId).map (·.dict)

def projectedComponents : List NormalizedComponent :=
  (evaluatedAssets printed envelope selected).flatMap fun asset =>
    normalizeComponentsForAsset digest asset envelope.persistencePayload envelope.ingestedAt envelope.sourceAuthenticated

def projectedSnapshots : List ComponentSourceSnapshot :=
  (evaluatedAssets printed envelope selected).flatMap fun asset =>
    componentSourceSnapshotsForAsset asset envelope.persistencePayload envelope.ingestedAt envelope.sourceAuthenticated
      (some envelope.canonicalCollectionId)

/-- The native part of a projection, on the rows that `persistComponents` has left. -/
def projectSourcePresence (hub : Hub) (store : ComponentStore) : Except PresenceError ComponentStore :=
  persistSourcePresence hub (projectedComponents printed digest envelope selected) (projectedSnapshots printed envelope selected)
    store

end

end OpenAssetWatch.Ingestion
