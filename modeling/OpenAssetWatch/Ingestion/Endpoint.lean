import OpenAssetWatch.Ingestion.ComponentEvidence
import OpenAssetWatch.Library.Guard

namespace OpenAssetWatch.Ingestion

open Library Text Component

inductive ContractError where
  | fieldConstraint
  | metadataUnbounded
  | componentAhead
  | nativeReferenceIncomplete
  | limitationsUnbounded
  | sourceNotReviewed
  | completeSourceFailed
  | unsuccessfulReports
  | unsuccessfulUnexplained
  | partialUndiagnosed
  | capabilitiesUnbounded
  | evidenceIdsSupplied
  | outsideWindow
  | stringsUnbounded
  | componentLimit
  | evidenceLimit
  | networkLimit
  | sourcesRepeated
  | severalAssets
  | sourceUnreported
  | recordCountDiffers
  | nativeFieldsDiffer
  | notMachineScoped
  | componentAfterSource
  | recordsRepeated
  | sourceAhead
  | platformDiffers
deriving DecidableEq, Repr

/-- The texts of the validators; a field's own constraints have those of the library. -/
def ContractError.message : ContractError → String
  | .fieldConstraint => ""
  | .metadataUnbounded => "component metadata must contain bounded safe strings"
  | .componentAhead => "component observed_at exceeds the allowed future clock skew"
  | .nativeReferenceIncomplete => "native component source fields must be supplied together"
  | .limitationsUnbounded => "software source limitations must be bounded strings"
  | .sourceNotReviewed => "software source is not reviewed for the reported platform"
  | .completeSourceFailed => "complete software source cannot be truncated or failed"
  | .unsuccessfulReports => "unsuccessful software source cannot report components"
  | .unsuccessfulUnexplained => "unsuccessful software source requires an error code"
  | .partialUndiagnosed => "partial software source requires bounded diagnostics"
  | .capabilitiesUnbounded => "management capabilities must be bounded strings"
  | .evidenceIdsSupplied => "component evidence identifiers are server-issued"
  | .outsideWindow => "observed_at is outside the accepted window"
  | .stringsUnbounded => "inventory string lists must contain bounded strings"
  | .componentLimit => "inventory component limit exceeded"
  | .evidenceLimit => "inventory evidence limit exceeded"
  | .networkLimit => "inventory network evidence limit exceeded"
  | .sourcesRepeated => "software source identifiers must be unique"
  | .severalAssets => "native software source results must describe exactly one endpoint asset"
  | .sourceUnreported => "native component source must have a source-level result"
  | .recordCountDiffers => "software source record count does not match components"
  | .nativeFieldsDiffer => "native component fields do not match the reviewed source contract"
  | .notMachineScoped => "native software collection is machine scoped"
  | .componentAfterSource => "native component time exceeds its source snapshot time"
  | .recordsRepeated => "native source record identifiers must be unique"
  | .sourceAhead => "software source time exceeds inventory observation time"
  | .platformDiffers => "software source platform does not match the endpoint"

def isLong (low high : Nat) (text : String) : Bool := low ≤ text.length && text.length ≤ high

def maxInventoryAge : Time := 30 * 24 * hour

def isMetadataItem (item : String × String) : Bool :=
  isSourceName item.1 && item.2.length ≤ 240 && !item.2.toList.any isControl

def componentFieldsValid (component : ComponentObservation) : Bool :=
  isLong 1 40 component.ecosystem && isLong 1 240 component.name && component.version.all (isLong 0 160) &&
    component.packageNamespace.all (isLong 0 160) && component.vendor.all (isLong 0 160) &&
    component.architecture.all (isLong 0 40) && component.packageManager.all (isLong 0 48) &&
    component.purl.all (isLong 0 600) && isLong 1 40 component.installScope &&
    (0 ≤ component.confidence && component.confidence ≤ 1) && component.evidenceIds.length ≤ 16 &&
    component.collectionSourceId.all isSourceName && component.sourceRecordId.all (isLong 1 240) &&
    component.evidenceMethod.all isSourceName && component.metadata.length ≤ 4

def validateComponent (now : Time) (component : ComponentObservation) : Except ContractError Unit := do
  require (componentFieldsValid component) .fieldConstraint
  require (component.metadata.all isMetadataItem) .metadataUnbounded
  require (component.observedAt.all (· ≤ now + maxFutureSkew)) .componentAhead
  let fields := [component.collectionSourceId, component.sourceRecordId, component.evidenceMethod]
  require (!fields.any (·.isSome) || fields.all (·.isSome)) .nativeReferenceIncomplete

structure EndpointEvidence where
  kind : String
  value : String
  method : String := "endpoint-inventory"
  confidence : ℚ := 9 / 10

structure EndpointIPAddress where
  address : String
  family : Option String := none

structure EndpointInterface where
  name : String
  macAddress : Option String := none
  ipAddresses : List EndpointIPAddress := []

structure EndpointAsset where
  assetId : Option String := none
  hostname : Option String := none
  fqdn : Option String := none
  os : Option String := none
  platform : Option String := none
  architecture : Option String := none
  category : Option String := none
  interfaces : List EndpointInterface := []
  evidence : List EndpointEvidence := []
  components : List ComponentObservation := []
  managementCapabilities : List String := []

def isAssetChar (c : Char) : Bool := c.isAlphanum || c == '.' || c == '_' || c == ':' || c == '-'

def EndpointEvidence.fieldsValid (evidence : EndpointEvidence) : Bool :=
  isName isArchitectureChar 79 evidence.kind && isLong 1 512 evidence.value && isLong 1 64 evidence.method &&
    (0 ≤ evidence.confidence && evidence.confidence ≤ 1)

def EndpointInterface.fieldsValid (interface : EndpointInterface) : Bool :=
  isLong 1 128 interface.name && interface.macAddress.all (isLong 11 64) && interface.ipAddresses.length ≤ 64 &&
    interface.ipAddresses.all fun address =>
      isLong 2 64 address.address && address.family.all (["ipv4", "ipv6"].contains ·)

def EndpointAsset.fieldsValid (asset : EndpointAsset) : Bool :=
  asset.assetId.all (fun text => isLong 1 160 text && text.toList.all isAssetChar) && asset.hostname.all (isLong 1 255) &&
    asset.fqdn.all (isLong 1 255) && asset.os.all (isLong 1 160) && asset.platform.all (isLong 1 160) &&
    asset.architecture.all (isLong 1 40) && asset.category.all (isLong 1 80) && asset.interfaces.length ≤ 128 &&
    asset.interfaces.all (·.fieldsValid) && asset.evidence.length ≤ 256 && asset.evidence.all (·.fieldsValid) &&
    asset.components.length ≤ maxComponentsPerAsset && asset.managementCapabilities.length ≤ 64

def EndpointAsset.validate (now : Time) (asset : EndpointAsset) : Except ContractError Unit := do
  require asset.fieldsValid .fieldConstraint
  asset.components.forM (validateComponent now)
  require (asset.managementCapabilities.all (isLong 1 80)) .capabilitiesUnbounded
  require (asset.components.all (·.evidenceIds.isEmpty)) .evidenceIdsSupplied

structure NativeSoftwareSourceResult where
  sourceId : String
  platform : Platform
  status : CollectionStatus
  observedAt : Time
  recordCount : Nat
  truncated : Bool := false
  errorCode : Option String := none
  limitations : List String := []

def isErrorCode (text : String) : Bool := isName isArchitectureChar 79 text

def NativeSoftwareSourceResult.validate (source : NativeSoftwareSourceResult) : Except ContractError Unit := do
  require (isSourceName source.sourceId && source.recordCount ≤ maxComponentsPerAsset && source.errorCode.all isErrorCode &&
    source.limitations.length ≤ 8) .fieldConstraint
  require (source.limitations.all (isLong 1 120)) .limitationsUnbounded
  require ((reviewedSources source.platform).contains source.sourceId) .sourceNotReviewed
  let unsuccessful := source.status == .failed || source.status == .unsupported
  require (!(source.status == .complete && (source.truncated || source.errorCode.isSome))) .completeSourceFailed
  require (!(unsuccessful && source.recordCount != 0)) .unsuccessfulReports
  require (!(unsuccessful && source.errorCode.isNone)) .unsuccessfulUnexplained
  require (!(source.status == .partially &&
    !(source.truncated || source.errorCode.isSome || !source.limitations.isEmpty))) .partialUndiagnosed

/-- What a reviewed source says of its components; some sources have no architecture. -/
structure NativeContract where
  ecosystem : String
  packageManager : String
  method : String
  hasArchitecture : Bool

def nativeContract (sourceId : String) : Option NativeContract :=
  if sourceId = "windows-uninstall-32" || sourceId = "windows-uninstall-64" then
    some ⟨"generic", "windows-registry", "windows-uninstall-registry", false⟩
  else if sourceId = "linux-dpkg" then some ⟨"deb", "dpkg", "dpkg-native-query", true⟩
  else if sourceId = "linux-rpm" then some ⟨"rpm", "rpm", "rpm-native-query", true⟩
  else if sourceId = "macos-pkgutil" then some ⟨"generic", "pkgutil", "pkgutil-native-query", true⟩
  else none

structure EndpointInventoryRequest where
  inventoryBatchId : String
  observedAt : Time
  isComplete : Bool
  platform : Option String := none
  supportedCapabilities : List String := []
  collectionLimitations : List String := []
  softwareSources : List NativeSoftwareSourceResult := []
  assets : List EndpointAsset

def EndpointInventoryRequest.components (request : EndpointInventoryRequest) : List ComponentObservation :=
  request.assets.flatMap (·.components)

def followsContract (component : ComponentObservation) (expected : NativeContract) : Bool :=
  String.ofList (casefold component.ecosystem.toList) == expected.ecosystem &&
    String.ofList (casefold (component.packageManager.getD "").toList) == expected.packageManager &&
    component.evidenceMethod.getD "" == expected.method &&
    (expected.hasArchitecture || component.architecture.getD "" == "")

/-- The loop over the components; `seen` holds the records before them. -/
def validateNativeRecords (sources : List NativeSoftwareSourceResult) (seen : List (String × String)) :
    List ComponentObservation → Except ContractError Unit
  | [] => .ok ()
  | component :: rest =>
    match component.collectionSourceId with
    | none => validateNativeRecords sources seen rest
    | some sourceId => do
      let record := (sourceId, component.sourceRecordId.getD "")
      require ((nativeContract sourceId).any (followsContract component)) .nativeFieldsDiffer
      require (component.installScope == "system") .notMachineScoped
      require ((sources.find? (·.sourceId == sourceId)).all fun source => component.observedAt.all (· ≤ source.observedAt))
        .componentAfterSource
      require (!seen.contains record) .recordsRepeated
      validateNativeRecords sources (record :: seen) rest

def hasSource (sourceId : String) (component : ComponentObservation) : Bool := component.collectionSourceId == some sourceId

def platformNamed (text : String) : Option Platform :=
  if text = "windows" then some .windows
  else if text = "linux" then some .linux
  else if text = "darwin" then some .darwin
  else none

def EndpointInventoryRequest.validate (now : Time) (request : EndpointInventoryRequest) : Except ContractError Unit := do
  require (isLong 8 160 request.inventoryBatchId && request.inventoryBatchId.toList.all isAssetChar &&
    request.supportedCapabilities.length ≤ 64 && request.collectionLimitations.length ≤ 64 &&
    request.softwareSources.length ≤ 8 && 1 ≤ request.assets.length && request.assets.length ≤ 16) .fieldConstraint
  require (request.observedAt ≤ now + maxFutureSkew && now - maxInventoryAge ≤ request.observedAt) .outsideWindow
  require ((request.supportedCapabilities ++ request.collectionLimitations).all (isLong 1 240)) .stringsUnbounded
  request.softwareSources.forM NativeSoftwareSourceResult.validate
  request.assets.forM (EndpointAsset.validate now)
  require (request.components.length ≤ 8000) .componentLimit
  require ((request.assets.map (·.evidence.length)).sum ≤ 1024) .evidenceLimit
  let interfaces := request.assets.flatMap (·.interfaces)
  require (interfaces.length ≤ 256 && (interfaces.map (·.ipAddresses.length)).sum ≤ 1024) .networkLimit
  let sourceIds : List String := request.softwareSources.map (·.sourceId)
  require (decide sourceIds.Nodup) .sourcesRepeated
  require (request.softwareSources.isEmpty || request.assets.length == 1) .severalAssets
  require (request.components.all fun component => component.collectionSourceId.all sourceIds.contains) .sourceUnreported
  require (request.softwareSources.all fun source =>
    source.recordCount == request.components.countP (hasSource source.sourceId)) .recordCountDiffers
  validateNativeRecords request.softwareSources [] request.components
  require (request.softwareSources.all fun source => source.observedAt ≤ request.observedAt + maxFutureSkew) .sourceAhead
  require ((request.platform.bind platformNamed).all fun platform =>
    request.softwareSources.all (·.platform == platform)) .platformDiffers

/-- A request that the contract admits. -/
structure AdmittedInventory extends EndpointInventoryRequest where
  receivedAt : Time
  admitted : toEndpointInventoryRequest.validate receivedAt = .ok ()

end OpenAssetWatch.Ingestion
