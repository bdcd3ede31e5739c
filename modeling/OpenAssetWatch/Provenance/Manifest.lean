import OpenAssetWatch.Provenance.Fields

namespace OpenAssetWatch.Provenance

open Library Library.JsonText Text

section Fields

def text (name : String) (minimum maximum : Nat) : FieldSpec :=
  ⟨name, .text { nullable := false, minimum, maximum := some maximum }, none⟩

def optionalText (name : String) (maximum : Nat) : FieldSpec := ⟨name, .text { maximum := some maximum }, some .null⟩

def optionalRevision (name : String) (maximum : Nat) : FieldSpec :=
  ⟨name, .text { maximum := some maximum, rule := .immutable }, some .null⟩

def optionalReference (name : String) (maximum : Nat) : FieldSpec :=
  ⟨name, .text { maximum := some maximum, rule := .reference }, some .null⟩

def optionalCommit (name : String) (maximum : Nat) : FieldSpec :=
  ⟨name, .text { maximum := some maximum, pattern := .identifier }, some .null⟩

def digest (name : String) : FieldSpec := ⟨name, .text { nullable := false, pattern := .sha256 }, none⟩

def optionalDigest (name : String) : FieldSpec := ⟨name, .text { pattern := .sha256 }, some .null⟩

def constant (name value : String) : FieldSpec := ⟨name, .literal [value.toList], some (.text value.toList)⟩

def choice (name : String) (values : List String) : FieldSpec := ⟨name, .literal (values.map String.toList), none⟩

def optionalNatural (name : String) : FieldSpec := ⟨name, .natural true 0 none, some .null⟩

def optionalInstant (name : String) : FieldSpec := ⟨name, .instant true, some .null⟩

def instant (name : String) : FieldSpec := ⟨name, .instant false, none⟩

def identifiers (name : String) (maximum : Nat) : FieldSpec := ⟨name, .identifiers maximum, some (.texts [])⟩

end Fields

section Models

def maxArtifactSplits : Nat := 1024

def modelCapabilities : List String :=
  ["reasoning", "classification", "structured_output", "tool_calling", "coding", "summarization", "report_writing", "streaming",
    "mtp", "speculative_decoding", "moe", "long_context"]

def provenanceStates : List String := ["complete", "partial", "unknown", "invalid", "superseded", "requalification-required"]

/-- `ModelIdentity`. -/
def modelIdentity : List FieldSpec :=
  [text "model_name" 1 256, text "model_family" 1 128, text "model_architecture" 1 128, text "model_purpose" 1 500,
    ⟨"model_capabilities", .literals (modelCapabilities.map String.toList) 1 16, none⟩, text "upstream_model_name" 1 256,
    optionalRevision "upstream_model_revision" 160, text "license" 1 256, optionalReference "license_reference" 2048]

/-- `SourceCheckpointProvenance`. -/
def sourceCheckpoint : List FieldSpec :=
  [text "source_name" 1 256, optionalRevision "source_revision" 160, optionalDigest "source_checkpoint_digest",
    constant "source_digest_algorithm" "sha256", optionalText "source_format" 128, optionalNatural "source_size_bytes",
    optionalText "source_license" 256, optionalReference "source_reference" 2048]

/-- `ConversionProvenance`. -/
def conversion : List FieldSpec :=
  [optionalText "converter_name" 160, optionalText "converter_version" 128, optionalCommit "converter_commit" 128,
    optionalReference "converter_source" 2048, optionalText "conversion_profile" 256, optionalDigest "input_checkpoint_digest",
    optionalDigest "output_intermediate_digest", optionalInstant "conversion_started_at",
      optionalInstant "conversion_completed_at"]

/-- `QuantizationProvenance`. -/
def quantization : List FieldSpec :=
  [optionalText "quantizer_name" 160, optionalText "quantizer_version" 128, optionalCommit "quantizer_commit" 128,
    optionalReference "quantizer_source" 2048, optionalDigest "source_artifact_digest", optionalText "quantization_type" 128,
    optionalText "quantization_profile" 256, optionalDigest "importance_matrix_digest", optionalDigest "output_artifact_digest",
    optionalInstant "quantization_started_at", optionalInstant "quantization_completed_at"]

/-- `ArtifactSplit`. -/
def artifactSplit : List FieldSpec :=
  [⟨"ordinal", .natural false 1 (some maxArtifactSplits), none⟩, text "name" 1 256, digest "digest",
    ⟨"size_bytes", .natural false 0 none, none⟩]

/-- `ModelArtifactIdentity` without its splits. -/
def artifactIdentity : List FieldSpec :=
  [text "artifact_name" 1 256, text "artifact_format" 1 128, digest "artifact_digest",
    constant "artifact_digest_algorithm" "sha256",
    ⟨"artifact_size_bytes", .natural false 0 none, none⟩,
      ⟨"split_count", .natural false 0 (some maxArtifactSplits), some (.natural 0)⟩,
    optionalDigest "split_manifest_digest", optionalDigest "parent_artifact_digest", instant "created_at"]

/-- `RuntimeCompatibility`. -/
def runtimeCompatibility : List FieldSpec :=
  [optionalText "runtime_type" 128, optionalText "runtime_version" 128, optionalCommit "runtime_commit" 128,
    constant "provider_protocol" "openai-compatible", identifiers "supported_backends" 32,
    identifiers "supported_hardware_architectures" 32, optionalCommit "minimum_runtime_commit" 128,
    ⟨"maximum_tested_context", .natural true 1 (some 16777216), some .null⟩, optionalNatural "required_memory_bytes"]

/-- `ResourceObservations`. -/
def resourceObservations : List FieldSpec :=
  [optionalNatural "input_size_bytes", optionalNatural "output_size_bytes", optionalNatural "peak_rss_bytes",
    optionalNatural "peak_gpu_memory_bytes", optionalNatural "temporary_storage_bytes", optionalNatural "staging_limit_bytes",
    ⟨"streaming_output", .flag, some .null⟩, ⟨"elapsed_seconds", .measure, some .null⟩,
      optionalText "measurement_environment" 500,
    choice "measurement_classification" ["measured", "estimated", "synthetic", "unknown"]]

/-- The fields of `ModelArtifactManifest` that are no models themselves, without its digest. -/
def manifestFields : List FieldSpec :=
  [constant "schema_version" "oaw.model-artifact-manifest.v1",
    ⟨"manifest_id", .text { nullable := false, minimum := 1, maximum := some 160, pattern := .identifier }, none⟩,
    choice "provenance_state" provenanceStates, instant "created_at"]

def manifestDigestField : FieldSpec := optionalDigest "manifest_digest"

end Models

section Records

variable (externals : Externals)

/-- What a model forbids beyond its fields. -/
def onlyKeys (keys : List String) (entries : List (List Char × JsonDoc)) : Bool :=
  entries.all fun entry => (keys.map String.toList).contains entry.1

def readSpecs (specs : List FieldSpec) (entries : List (List Char × JsonDoc)) : Option (Record Scalar) :=
  readRecord (specs.map (·.field externals)) entries

/-- A model that holds no other model. -/
def readModel (specs : List FieldSpec) : JsonDoc → Option (Record Scalar)
  | .object entries => if onlyKeys (specs.map (·.name)) entries = true then readSpecs externals specs entries else none
  | _ => none

def dumpRecord (record : Record Scalar) : List (List Char × JsonDoc) := writeRecord (Scalar.dump externals) record

end Records

end OpenAssetWatch.Provenance

namespace Library.Record

open OpenAssetWatch.Provenance

def scalar (record : Record Scalar) (name : String) : Scalar := (record.lookup name.toList).getD .null

def text? (record : Record Scalar) (name : String) : Option (List Char) :=
  match record.scalar name with
  | .text value => some value
  | _ => none

def natural? (record : Record Scalar) (name : String) : Option Nat :=
  match record.scalar name with
  | .natural value => some value
  | _ => none

def instant? (record : Record Scalar) (name : String) : Option Int :=
  match record.scalar name with
  | .instant moment => some moment
  | _ => none

end Library.Record

namespace OpenAssetWatch.Provenance

open Library Library.JsonText Text

section Manifests

structure ModelArtifactIdentity where
  fields : Record Scalar
  splits : List (Record Scalar)
deriving DecidableEq

/-- A manifest without its digest. -/
structure ManifestContents where
  fields : Record Scalar
  modelIdentity : Record Scalar
  sourceCheckpoint : Record Scalar
  conversion : Record Scalar
  quantization : Record Scalar
  artifact : ModelArtifactIdentity
  runtimeCompatibility : Record Scalar
  resourceObservations : Option (Record Scalar)
deriving DecidableEq

structure ModelArtifactManifest where
  contents : ManifestContents
  manifestDigest : List Char
deriving DecidableEq

end Manifests

section Dump

variable (externals : Externals)

def dumpModel (record : Record Scalar) : JsonDoc := .object (dumpRecord externals record)

def ModelArtifactIdentity.dump (artifact : ModelArtifactIdentity) : JsonDoc :=
  .object (dumpRecord externals artifact.fields ++ [("splits".toList, .array (artifact.splits.map (dumpModel externals)))])

def ManifestContents.dumpEntries (contents : ManifestContents) : List (List Char × JsonDoc) :=
  dumpRecord externals contents.fields ++
    [("model_identity".toList, dumpModel externals contents.modelIdentity),
      ("source_checkpoint".toList, dumpModel externals contents.sourceCheckpoint),
      ("conversion".toList, dumpModel externals contents.conversion),
      ("quantization".toList, dumpModel externals contents.quantization),
      ("artifact".toList, contents.artifact.dump externals),
      ("runtime_compatibility".toList, dumpModel externals contents.runtimeCompatibility),
      ("resource_observations".toList, contents.resourceObservations.elim .null (dumpModel externals))]

/-- `model_dump` of a manifest. -/
def ModelArtifactManifest.dump (manifest : ModelArtifactManifest) : JsonDoc :=
  .object (manifest.contents.dumpEntries externals ++ [("manifest_digest".toList, .string manifest.manifestDigest)])

/-- `json.dumps` with sorted keys. -/
def canonicalText (doc : JsonDoc) : List Char := printRaw (settle id doc)

/-- `canonical_manifest_bytes`. -/
def canonicalManifestBytes (contents : ManifestContents) : ByteArray :=
  encode (canonicalText (.object (contents.dumpEntries externals)))

variable (sha256 : ByteArray → List Char)

def computeManifestDigest (contents : ManifestContents) : List Char := sha256 (canonicalManifestBytes externals contents)

def ordinal (split : Record Scalar) : Nat := (split.natural? "ordinal").getD 0

def sortByOrdinal (splits : List (Record Scalar)) : List (Record Scalar) := splits.insertionSort fun a b => ordinal a ≤ ordinal b

def splitManifestDigest (splits : List (Record Scalar)) : List Char :=
  sha256 (encode (canonicalText (.array ((sortByOrdinal splits).map (dumpModel externals)))))

end Dump

section Validation

variable (externals : Externals) (sha256 : ByteArray → List Char)

/-- `ModelArtifactIdentity.validate_splits` of splits in order. -/
def ModelArtifactIdentity.validSplits (artifact : ModelArtifactIdentity) : Bool :=
  let expected := splitManifestDigest externals sha256 artifact.splits
  artifact.fields.natural? "split_count" = some artifact.splits.length &&
    if artifact.splits = [] then artifact.fields.text? "split_manifest_digest" = none
    else
      artifact.splits.map ordinal = List.range' 1 artifact.splits.length &&
        (artifact.splits.map fun split => split.text? "name").Nodup &&
        artifact.fields.text? "split_manifest_digest" = some expected &&
        artifact.fields.natural? "artifact_size_bytes" =
          some (artifact.splits.map fun split => (split.natural? "size_bytes").getD 0).sum &&
        artifact.fields.text? "artifact_digest" = some expected

/-- `valid_interval`. -/
def validInterval (record : Record Scalar) (started completed : String) : Bool :=
  match record.instant? started, record.instant? completed with
  | none, none => true
  | some first, some last => first ≤ last
  | _, _ => false

/-- Two values that are both there are the same. -/
def agree (a b : Option (List Char)) : Bool := a.all fun first => b.all fun second => first = second

def notBefore (earlier later : Option Int) : Bool := earlier.all fun first => later.all fun second => first ≤ second

def missing (value : Scalar) : Bool := value = .null || value = .text []

/-- What complete provenance asks for. -/
def ManifestContents.required (contents : ManifestContents) : List Scalar :=
  contents.modelIdentity.scalar "upstream_model_revision" ::
    (["source_revision", "source_checkpoint_digest", "source_format", "source_size_bytes", "source_license",
        "source_reference"].map contents.sourceCheckpoint.scalar ++
      ["converter_name", "converter_version", "converter_commit", "converter_source", "conversion_profile",
        "input_checkpoint_digest", "output_intermediate_digest", "conversion_started_at",
        "conversion_completed_at"].map contents.conversion.scalar ++
      ["quantizer_name", "quantizer_version", "quantizer_commit", "quantizer_source", "source_artifact_digest",
        "quantization_type", "quantization_profile", "output_artifact_digest", "quantization_started_at",
        "quantization_completed_at"].map contents.quantization.scalar ++
      ["runtime_type", "runtime_version", "runtime_commit"].map contents.runtimeCompatibility.scalar)

/-- The lineage that unknown provenance must not assert. -/
def ManifestContents.lineage (contents : ManifestContents) : List Scalar :=
  [contents.modelIdentity.scalar "upstream_model_revision", contents.sourceCheckpoint.scalar "source_revision",
    contents.sourceCheckpoint.scalar "source_checkpoint_digest", contents.conversion.scalar "converter_commit",
    contents.quantization.scalar "quantizer_commit"]

/-- `ModelArtifactManifest.validate_lineage_and_digest` without the digest. -/
def ManifestContents.validLineage (contents : ManifestContents) : Bool :=
  agree (contents.modelIdentity.text? "upstream_model_revision") (contents.sourceCheckpoint.text? "source_revision") &&
    agree (contents.sourceCheckpoint.text? "source_checkpoint_digest") (contents.conversion.text? "input_checkpoint_digest") &&
    agree (contents.conversion.text? "output_intermediate_digest") (contents.quantization.text? "source_artifact_digest") &&
    agree (contents.quantization.text? "output_artifact_digest") (contents.artifact.fields.text? "artifact_digest") &&
    notBefore (contents.conversion.instant? "conversion_completed_at")
      (contents.quantization.instant? "quantization_started_at") &&
    notBefore (contents.quantization.instant? "quantization_completed_at") (contents.artifact.fields.instant? "created_at") &&
    notBefore (contents.artifact.fields.instant? "created_at") (contents.fields.instant? "created_at") &&
    (contents.fields.text? "provenance_state" ≠ some "complete".toList || contents.required.all (!missing ·)) &&
    (contents.fields.text? "provenance_state" ≠ some "unknown".toList || contents.lineage.all missing)

end Validation

section Reading

variable (externals : Externals) (sha256 : ByteArray → List Char)

def readSplits (entries : List (List Char × JsonDoc)) : Option (List (Record Scalar)) :=
  match entries.lookup "splits".toList with
  | none => some []
  | some doc => (itemsOf doc).bind fun items =>
    if items.length ≤ maxArtifactSplits then items.mapM (readModel externals artifactSplit) else none

def readArtifact : JsonDoc → Option ModelArtifactIdentity
  | .object entries => do
    guard (onlyKeys (artifactIdentity.map (·.name) ++ ["splits"]) entries)
    let fields ← readSpecs externals artifactIdentity entries
    let splits ← readSplits externals entries
    let artifact : ModelArtifactIdentity := ⟨fields, sortByOrdinal splits⟩
    guard (artifact.validSplits externals sha256)
    return artifact
  | _ => none

def readConversion (doc : JsonDoc) : Option (Record Scalar) := do
  let record ← readModel externals conversion doc
  guard (validInterval record "conversion_started_at" "conversion_completed_at")
  return record

def readQuantization (doc : JsonDoc) : Option (Record Scalar) := do
  let record ← readModel externals quantization doc
  guard (validInterval record "quantization_started_at" "quantization_completed_at")
  return record

def readResources (entries : List (List Char × JsonDoc)) : Option (Option (Record Scalar)) :=
  match entries.lookup "resource_observations".toList with
  | none => some none
  | some doc => if isNull doc = true then some none else (readModel externals resourceObservations doc).map some

def manifestKeys : List String :=
  manifestFields.map (·.name) ++
    ["manifest_digest", "model_identity", "source_checkpoint", "conversion", "quantization", "artifact",
    "runtime_compatibility", "resource_observations"]

def nested {α : Type} (name : String) (read : JsonDoc → Option α) (entries : List (List Char × JsonDoc)) : Option α :=
  (entries.lookup name.toList).bind read

def readContents (entries : List (List Char × JsonDoc)) : Option ManifestContents := do
  guard (onlyKeys manifestKeys entries)
  let fields ← readSpecs externals manifestFields entries
  let modelIdentity ← nested "model_identity" (readModel externals modelIdentity) entries
  let sourceCheckpoint ← nested "source_checkpoint" (readModel externals sourceCheckpoint) entries
  let conversion ← nested "conversion" (readConversion externals) entries
  let quantization ← nested "quantization" (readQuantization externals) entries
  let artifact ← nested "artifact" (readArtifact externals sha256) entries
  let runtimeCompatibility ← nested "runtime_compatibility" (readModel externals runtimeCompatibility) entries
  let resourceObservations ← readResources externals entries
  return ⟨fields, modelIdentity, sourceCheckpoint, conversion, quantization, artifact, runtimeCompatibility, resourceObservations⟩

/-- What `ModelArtifactManifest` makes of a payload. -/
def ModelArtifactManifest.read : JsonDoc → Option ModelArtifactManifest
  | .object entries => do
    let contents ← readContents externals sha256 entries
    let given ← (manifestDigestField.field externals).take entries
    guard (contents.validLineage)
    let expected := computeManifestDigest externals sha256 contents
    guard (given = .null ∨ given = .text expected)
    return ⟨contents, expected⟩
  | _ => none

end Reading

end OpenAssetWatch.Provenance
