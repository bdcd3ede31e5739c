import OpenAssetWatch.Component.Presence
import OpenAssetWatch.Text.Json

namespace OpenAssetWatch.Component

open Text

def ComponentType.text : ComponentType → String
  | .application => "application"
  | .operatingSystemPackage => "operating-system-package"
  | .library => "library"
  | .runtime => "runtime"
  | .driver => "driver"
  | .firmware => "firmware"
  | .operatingSystem => "operating-system"
  | .securityTool => "security-tool"
  | .unknown => "unknown"

def FirmwareEvidenceType.text : FirmwareEvidenceType → String
  | .direct => "direct"
  | .vendorReported => "vendor-reported"
  | .collectorReported => "collector-reported"
  | .inferred => "inferred"
  | .unknown => "unknown"

def Platform.text : Platform → String
  | .windows => "windows"
  | .linux => "linux"
  | .darwin => "darwin"

def CollectionStatus.text : CollectionStatus → String
  | .complete => "complete"
  | .partially => "partial"
  | .unsupported => "unsupported"
  | .failed => "failed"

/-- The contract of one reported component. -/
structure ComponentObservation where
  componentType : ComponentType
  ecosystem : String
  name : String
  version : Option String := none
  packageNamespace : Option String := none
  vendor : Option String := none
  architecture : Option String := none
  packageManager : Option String := none
  purl : Option String := none
  installScope : String := "system"
  observedAt : Option Time := none
  firmwareEvidenceType : FirmwareEvidenceType := .unknown
  confidence : ℚ := 4 / 5
  evidenceIds : List String := []
  collectionSourceId : Option String := none
  sourceRecordId : Option String := none
  evidenceMethod : Option String := none
  metadata : List (String × String) := []

/-- `model_dump`. -/
def ComponentObservation.dump (observation : ComponentObservation) : Json :=
  .object
    [("component_type", .string observation.componentType.text),
      ("ecosystem", .string observation.ecosystem),
      ("name", .string observation.name),
      ("version", .ofText observation.version),
      ("namespace", .ofText observation.packageNamespace),
      ("vendor", .ofText observation.vendor),
      ("architecture", .ofText observation.architecture),
      ("package_manager", .ofText observation.packageManager),
      ("purl", .ofText observation.purl),
      ("install_scope", .string observation.installScope),
      ("observed_at", observation.observedAt.elim .null .time),
      ("firmware_evidence_type", .string observation.firmwareEvidenceType.text),
      ("confidence", .number observation.confidence),
      ("evidence_ids", .array (observation.evidenceIds.map .string)),
      ("collection_source_id", .ofText observation.collectionSourceId),
      ("source_record_id", .ofText observation.sourceRecordId),
      ("evidence_method", .ofText observation.evidenceMethod),
      ("metadata", .object (observation.metadata.map fun (key, value) => (key, .string value)))]

end OpenAssetWatch.Component
