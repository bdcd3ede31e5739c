import OpenAssetWatch.Provenance.Manifest

namespace OpenAssetWatch.Provenance

open Library Library.JsonText Text

section Vocabulary

def maxArtifactAdvisories : Nat := 128

inductive ArtifactComponentType where
  | sourceCheckpoint
  | converter
  | quantizer
  | runtime
  | artifactFormat
  | qualificationSuite
deriving DecidableEq, Repr

def ArtifactComponentType.literal : ArtifactComponentType → String
  | .sourceCheckpoint => "source-checkpoint"
  | .converter => "converter"
  | .quantizer => "quantizer"
  | .runtime => "runtime"
  | .artifactFormat => "artifact-format"
  | .qualificationSuite => "qualification-suite"

def artifactComponentTypes : List ArtifactComponentType :=
  [.sourceCheckpoint, .converter, .quantizer, .runtime, .artifactFormat, .qualificationSuite]

inductive ArtifactRequiredAction where
  | informational
  | requalificationRequired
  | reconversionRequired
  | requantizationRequired
  | runtimeUpgradeRequired
  | blockUse
deriving DecidableEq, Repr

def ArtifactRequiredAction.literal : ArtifactRequiredAction → String
  | .informational => "informational"
  | .requalificationRequired => "requalification-required"
  | .reconversionRequired => "reconversion-required"
  | .requantizationRequired => "requantization-required"
  | .runtimeUpgradeRequired => "runtime-upgrade-required"
  | .blockUse => "block-use"

/-- `_ACTION_ORDER`. -/
def ArtifactRequiredAction.order : ArtifactRequiredAction → Nat
  | .informational => 0
  | .requalificationRequired => 1
  | .reconversionRequired => 2
  | .requantizationRequired => 3
  | .runtimeUpgradeRequired => 4
  | .blockUse => 5

def artifactRequiredActions : List ArtifactRequiredAction :=
  [.informational, .requalificationRequired, .reconversionRequired, .requantizationRequired, .runtimeUpgradeRequired, .blockUse]

inductive AdvisoryStatus where
  | active
  | withdrawn
  | superseded
deriving DecidableEq, Repr

def AdvisoryStatus.literal : AdvisoryStatus → String
  | .active => "active"
  | .withdrawn => "withdrawn"
  | .superseded => "superseded"

def advisoryStatuses : List AdvisoryStatus := [.active, .withdrawn, .superseded]

/-- The value that a literal of a field stands for. -/
def named {α : Type} (values : List α) (literal : α → String) (value : List Char) : Option α :=
  values.find? fun candidate => (literal candidate).toList = value

end Vocabulary

section Advisories

/-- The fields of `ModelArtifactAdvisory`. -/
def advisoryFields : List FieldSpec :=
  [constant "schema_version" "oaw.model-artifact-advisory.v1",
    ⟨"advisory_id", .text { nullable := false, minimum := 1, maximum := some 160, pattern := .identifier }, none⟩,
    text "title" 1 300, choice "component_type" (artifactComponentTypes.map ArtifactComponentType.literal),
    text "component_name" 1 160, identifiers "affected_exact_commits" 64, identifiers "affected_versions" 64,
    optionalCommit "fixed_in_commit" 128, choice "severity" ["low", "medium", "high", "critical"],
    ⟨"status", .literal (advisoryStatuses.map fun status => status.literal.toList), some (.text "active".toList)⟩,
    choice "required_action" (artifactRequiredActions.map ArtifactRequiredAction.literal),
    ⟨"source_reference", .text { nullable := false, maximum := some 2048, rule := .reference }, none⟩,
    instant "published_at", instant "reviewed_at"]

/-- What the evaluation reads of an advisory. -/
structure ModelArtifactAdvisory where
  advisoryId : List Char
  componentType : ArtifactComponentType
  componentName : List Char
  affectedExactCommits : List (List Char)
  affectedVersions : List (List Char)
  status : AdvisoryStatus
  requiredAction : ArtifactRequiredAction
deriving DecidableEq

def textsOf : Scalar → List (List Char)
  | .texts values => values
  | _ => []

def ModelArtifactAdvisory.ofRecord (record : Record Scalar) : Option ModelArtifactAdvisory := do
  let advisoryId ← record.text? "advisory_id"
  let componentType ← (record.text? "component_type").bind (named artifactComponentTypes ArtifactComponentType.literal)
  let componentName ← record.text? "component_name"
  let status ← (record.text? "status").bind (named advisoryStatuses AdvisoryStatus.literal)
  let requiredAction ← (record.text? "required_action").bind (named artifactRequiredActions ArtifactRequiredAction.literal)
  return ⟨advisoryId, componentType, componentName, textsOf (record.scalar "affected_exact_commits"),
    textsOf (record.scalar "affected_versions"), status, requiredAction⟩

/-- What `ModelArtifactAdvisory` makes of a payload, with `valid_review_time`. -/
def ModelArtifactAdvisory.read (externals : Externals) (doc : JsonDoc) : Option ModelArtifactAdvisory := do
  let record ← readModel externals advisoryFields doc
  guard (notBefore (record.instant? "published_at") (record.instant? "reviewed_at"))
  ModelArtifactAdvisory.ofRecord record

/-- What the evaluation reads of a `ModelQualificationBinding`. -/
structure ModelQualificationBinding where
  qualificationSuiteVersion : List Char
deriving DecidableEq

structure ArtifactInvalidationResult where
  state : List Char
  matchedAdvisoryIds : List (List Char)
  requiredActions : List ArtifactRequiredAction
  qualificationValid : Bool
  reasonCodes : List (List Char)
deriving DecidableEq

/-- The bounds that the fields of the result put on its lists. -/
def ArtifactInvalidationResult.bounded (result : ArtifactInvalidationResult) : Bool :=
  result.matchedAdvisoryIds.length ≤ maxArtifactAdvisories && result.requiredActions.length ≤ 16
    && result.reasonCodes.length ≤ 64

end Advisories

section Evaluation

variable (contents : ManifestContents) (qualificationBinding : Option ModelQualificationBinding)
  (qualificationSuiteName : Option (List Char))

/-- `_advisory_target`. -/
def advisoryTarget (advisory : ModelArtifactAdvisory) : Option (List Char) :=
  match advisory.componentType with
  | .sourceCheckpoint =>
    if casefold ((contents.sourceCheckpoint.text? "source_name").getD []) ≠ casefold advisory.componentName then none
    else contents.sourceCheckpoint.text? "source_revision"
  | .converter =>
    if casefold ((contents.conversion.text? "converter_name").getD []) ≠ casefold advisory.componentName then none
    else contents.conversion.text? "converter_commit"
  | .quantizer =>
    if casefold ((contents.quantization.text? "quantizer_name").getD []) ≠ casefold advisory.componentName then none
    else contents.quantization.text? "quantizer_commit"
  | .runtime =>
    if casefold ((contents.runtimeCompatibility.text? "runtime_type").getD []) ≠ casefold advisory.componentName then none
    else contents.runtimeCompatibility.text? "runtime_commit"
  | .artifactFormat =>
    if casefold ((contents.artifact.fields.text? "artifact_format").getD []) ≠ casefold advisory.componentName then none
    else contents.artifact.fields.text? "artifact_format"
  | .qualificationSuite =>
    match qualificationBinding, qualificationSuiteName with
    | some binding, some suiteName =>
      if casefold suiteName ≠ casefold advisory.componentName then none else some binding.qualificationSuiteVersion
    | _, _ => none

/-- What the loop has gathered; the two sets are lists without repetition. -/
structure Gathered where
  matched : List ModelArtifactAdvisory := []
  reasons : List (List Char) := []
  actions : List ArtifactRequiredAction := []

def affectedReason (component : ArtifactComponentType) : List Char := component.literal.toList ++ "-affected".toList

def artifactUseBlocked : List Char := "artifact-use-blocked".toList

/-- What the loop does with an advisory that is affected. -/
def Gathered.record (gathered : Gathered) (advisory : ModelArtifactAdvisory) : Gathered :=
  let matched := gathered.matched ++ [advisory]
  let actions := gathered.actions.insert advisory.requiredAction
  let reasons := gathered.reasons.insert (affectedReason advisory.componentType)
  match advisory.requiredAction with
  | .reconversionRequired | .requantizationRequired | .runtimeUpgradeRequired =>
    ⟨matched, reasons, actions.insert .requalificationRequired⟩
  | .blockUse => ⟨matched, reasons.insert artifactUseBlocked, actions.insert .requalificationRequired⟩
  | .informational | .requalificationRequired => ⟨matched, reasons, actions⟩

theorem lawfulText : LawfulBEq (List Char) := inferInstance

attribute [local instance] lawfulText

/-- One turn of the loop of `evaluate_artifact_advisories`. -/
def Gathered.turn (gathered : Gathered) (advisory : ModelArtifactAdvisory) : Gathered :=
  if advisory.status ≠ .active then gathered
  else
    match advisoryTarget contents qualificationBinding qualificationSuiteName advisory with
    | none => gathered
    | some target =>
      if target ∈ advisory.affectedExactCommits ∨ target ∈ advisory.affectedVersions then gathered.record advisory
      else gathered

def sortById (advisories : List ModelArtifactAdvisory) : List ModelArtifactAdvisory :=
  advisories.insertionSort fun a b => a.advisoryId ≤ b.advisoryId

def sortByOrder (actions : List ArtifactRequiredAction) : List ArtifactRequiredAction :=
  actions.insertionSort fun a b => a.order ≤ b.order

def gather (advisories : List ModelArtifactAdvisory) : Gathered :=
  (sortById advisories).foldl (Gathered.turn contents qualificationBinding qualificationSuiteName) {}

def Gathered.blocking (gathered : Gathered) : Bool := gathered.actions.any (· ≠ .informational)

def Gathered.result (gathered : Gathered) (provenanceState : List Char) (currentQualificationValid : Bool) :
    ArtifactInvalidationResult where
  state :=
    if .blockUse ∈ gathered.actions then "invalid".toList
    else if gathered.blocking = true then "requalification-required".toList
    else provenanceState
  matchedAdvisoryIds := gathered.matched.map (·.advisoryId)
  requiredActions := sortByOrder gathered.actions
  qualificationValid := currentQualificationValid && !gathered.blocking
  reasonCodes := gathered.reasons.insertionSort (· ≤ ·)

def ManifestContents.provenanceState : List Char := (contents.fields.text? "provenance_state").getD []

/-- `evaluate_artifact_advisories`; an error is no result. -/
def evaluateArtifactAdvisories (currentQualificationValid : Bool) (advisories : List ModelArtifactAdvisory) :
    Option ArtifactInvalidationResult := do
  guard (advisories.map (·.advisoryId)).Nodup
  let result := (gather contents qualificationBinding qualificationSuiteName advisories).result contents.provenanceState
    currentQualificationValid
  guard (result.bounded)
  return result

end Evaluation

end OpenAssetWatch.Provenance
