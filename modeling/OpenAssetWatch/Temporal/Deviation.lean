import OpenAssetWatch.Temporal.Assessment
import OpenAssetWatch.Temporal.Expectation

namespace OpenAssetWatch.Temporal

open Library OpenAssetWatch.Text

/-- `TEMPORAL_DEVIATION_POLICIES`. -/
def temporalDeviationPolicies : List (String × TemporalDeviationPolicy) := [
  ("site.assets.new.count",
    { policyId := "tdp_site_assets_new", metricKey := "site.assets.new.count", allowedDirections := [.above],
      requiredPersistenceBuckets := 1, maximumPersistenceLookback := 1 }),
  ("site.collectors.active.count",
    { policyId := "tdp_site_collectors_active", metricKey := "site.collectors.active.count", allowedDirections := [.below],
      requiredPersistenceBuckets := 1, maximumPersistenceLookback := 1 }),
  ("site.findings.new.count",
    { policyId := "tdp_site_findings_new", metricKey := "site.findings.new.count", allowedDirections := [.above],
      requiredPersistenceBuckets := 1, maximumPersistenceLookback := 1 }),
  ("site.vulnerabilities.new.count",
    { policyId := "tdp_site_vulnerabilities_new", metricKey := "site.vulnerabilities.new.count",
      allowedDirections := [.above], requiredPersistenceBuckets := 1, maximumPersistenceLookback := 1 }),
  ("site.inventory.collections.count",
    { policyId := "tdp_site_inventory_collections", metricKey := "site.inventory.collections.count",
      allowedDirections := [.above, .below], requiredPersistenceBuckets := 2, maximumPersistenceLookback := 2 }),
  ("site.inventory.asset_observations.count",
    { policyId := "tdp_site_inventory_asset_observations", metricKey := "site.inventory.asset_observations.count",
      allowedDirections := [.above, .below], requiredPersistenceBuckets := 2, maximumPersistenceLookback := 2 })]

structure AssessmentInputs where
  observation : TemporalSignal
  expectation : TemporalExpectation

def ExpectationConfidence.rank : ExpectationConfidence → Nat
  | .none => 0 | .low => 1 | .medium => 2 | .high => 3

/-- `_confidence_meets_policy`. -/
def confidenceMeetsPolicy (value minimum : ExpectationConfidence) : Bool := minimum.rank ≤ value.rank

def ExpectationConfidence.text : ExpectationConfidence → String
  | .none => "none" | .low => "low" | .medium => "medium" | .high => "high"

def ExpectationDataQuality.text : ExpectationDataQuality → String
  | .insufficient => "insufficient" | .limited => "limited" | .sufficient => "sufficient"

def DeviationPolicyDirection.text : DeviationPolicyDirection → String
  | .above => "above" | .below => "below"

section

variable (hashing : Hashing)

/-- `temporal_observation_digest`. -/
def temporalObservationDigest (signal : TemporalSignal) : String := canonicalDigest hashing (canonicalSignal signal)

/-- `temporal_assessment_input_digest`. -/
def temporalAssessmentInputDigest (observationDigest : String) (expectation : TemporalExpectation)
    (policy : TemporalDeviationPolicy) (supportingAssessmentIds : List String) : Except Failure String := do
  require (isHistoryDigest observationDigest) (.value "observation_digest must be a lowercase SHA-256 digest")
  require (supportingAssessmentIds.all isDeviationAssessmentId) (.value "supporting assessment identifier is invalid")
  return canonicalDigest hashing (.object [
    ("schema_version", .string "oaw.temporal-deviation-assessment.v1"),
    ("observation_digest", .string observationDigest),
    ("expectation", .object [
      ("expectation_id", .string expectation.expectationId),
      ("history_digest", .string expectation.historyDigest),
      ("expected", expectation.expected.elim .null .number),
      ("lower", expectation.lower.elim .null .number),
      ("upper", expectation.upper.elim .null .number),
      ("method", .string expectation.method.text),
      ("method_version", .string "1"),
      ("confidence", .string expectation.confidence.text),
      ("data_quality", .string expectation.dataQuality.text)]),
    ("policy", .object [
      ("policy_id", .string policy.policyId),
      ("policy_version", .string policy.policyVersion),
      ("allowed_directions", .array (policy.allowedDirections.map fun direction => .string direction.text)),
      ("minimum_expectation_confidence", .string policy.minimumExpectationConfidence.text),
      ("required_expectation_data_quality", .string policy.requiredExpectationDataQuality.text),
      ("required_persistence_buckets", .number policy.requiredPersistenceBuckets),
      ("maximum_persistence_lookback", .number policy.maximumPersistenceLookback),
      ("supported_granularity", .string "daily"),
      ("entity_scope", .string "site")]),
    ("supporting_assessment_ids", .array (supportingAssessmentIds.map .string))])

/-- `temporal_deviation_assessment_id`. -/
def temporalDeviationAssessmentId (inputDigest metricKey siteId : String) (targetBucketStart targetBucketEnd : Time)
    (policyVersion : String) : Except Failure String := do
  require (isHistoryDigest inputDigest) (.value "input_digest must be a lowercase SHA-256 digest")
  let identity := "\x1f".intercalate ["oaw.temporal-deviation-assessment.v1", inputDigest, metricKey, siteId,
    hashing.isoformat targetBucketStart, hashing.isoformat targetBucketEnd, policyVersion]
  return "tda_" ++ String.ofList ((hashing.sha256 identity).toList.take 32)

/-- `_validate_provenance`. -/
def validateProvenance (inputs : AssessmentInputs) (metricKey siteId : String) (assetId : Option String)
    (targetStart targetEnd : Time) : Except Failure Unit := do
  let observation := inputs.observation
  let expectation := inputs.expectation
  require (observation.metricKey = metricKey && observation.siteId = siteId && observation.assetId = assetId &&
      observation.bucketStart = targetStart && observation.bucketEnd = targetEnd)
    (.projection "observation-provenance-mismatch" "target observation provenance does not match the requested scope")
  require (observation.signalId =
      temporalSignalId hashing metricKey siteId assetId targetStart targetEnd observation.projectionVersion)
    (.projection "invalid-observation-identity" "target observation identity validation failed")
  require (expectation.metricKey = metricKey && expectation.siteId = siteId && expectation.assetId = assetId &&
      expectation.tenantId = observation.tenantId && expectation.targetBucketStart = targetStart &&
      expectation.targetBucketEnd = targetEnd && expectation.unit = observation.unit &&
      expectation.projectionVersion = observation.projectionVersion && expectation.knowledgeCutoff = targetStart)
    (.projection "expectation-provenance-mismatch" "temporal expectation provenance does not match the target observation")
  let expectedId ← temporalExpectationId hashing expectation.metricKey expectation.siteId expectation.targetBucketStart
    expectation.targetBucketEnd expectation.historyStart expectation.historyEnd expectation.method
    expectation.projectionVersion expectation.historyDigest
  require (expectation.expectationId = expectedId)
    (.projection "invalid-expectation-identity" "temporal expectation identity validation failed")

/-- The order of supporting assessments. -/
def supportLe (left right : TemporalDeviationAssessment) : Bool :=
  left.targetBucketStart < right.targetBucketStart || left.targetBucketStart = right.targetBucketStart &&
    (left.targetBucketEnd < right.targetBucketEnd || left.targetBucketEnd = right.targetBucketEnd &&
      left.assessmentId ≤ right.assessmentId)

def isDeviating (state : DeviationAssessmentState) : Bool := state = .pendingPersistence || state = .candidate

/-- Whether a supporting assessment is the one that must stand at `expectedStart`. -/
def isAligned (observation : TemporalSignal) (policy : TemporalDeviationPolicy) (expectedStart : Time)
    (support : TemporalDeviationAssessment) : Bool :=
  support.metricKey = observation.metricKey && support.siteId = observation.siteId &&
    support.assetId = observation.assetId && support.policyId = policy.policyId &&
    support.policyVersion = policy.policyVersion && support.targetBucketStart = expectedStart &&
    support.targetBucketEnd = expectedStart + day && isDeviating support.assessmentState

/-- Why the target or its expectation cannot be used. -/
def blockingReasons (observation : TemporalSignal) (expectation : TemporalExpectation) (policy : TemporalDeviationPolicy) :
    List DeviationReasonCode :=
  let found : List (Bool × DeviationReasonCode) := [
    (observation.value.isNone, .targetObservationUnavailable),
    (!observation.complete, .targetObservationIncomplete),
    (observation.freshness = .stale, .targetObservationStale),
    (observation.dataQuality ≠ .observed, .targetObservationUntrustedQuality),
    (expectation.expected.isNone || expectation.lower.isNone || expectation.upper.isNone, .expectationRangeUnavailable),
    (expectation.dataQuality ≠ policy.requiredExpectationDataQuality, .expectationQualityBelowPolicy),
    (!confidenceMeetsPolicy expectation.confidence policy.minimumExpectationConfidence, .expectationConfidenceBelowPolicy)]
  (found.filter (·.1)).map (·.2)

/-- What an assessment says beyond its inputs. -/
structure Evaluation where
  state : DeviationAssessmentState
  direction : DeviationDirection
  distance : Option ℚ
  relativeChange : Option ℚ
  persistence : Nat
  candidate : Bool
  reasons : List DeviationReasonCode
  supporting : List TemporalDeviationAssessment

/-- The evaluation of a value against its range, with the supports in their order. -/
def evaluateValue (policy : TemporalDeviationPolicy) (observed expected lower upper : ℚ)
    (supporting : List TemporalDeviationAssessment) : Except Failure Evaluation :=
  let (direction, distance) := beyondRange observed lower upper
  let relativeChange := if 0 < expected then some (relativeChangeOf observed expected) else none
  if direction = .inside then
    .ok ⟨.withinRange, direction, some distance, relativeChange, 0, false, [.withinExpectedRange], []⟩
  else if !direction.isAdmitted policy.allowedDirections then
    .ok ⟨.outsidePolicyDirection, direction, some distance, relativeChange, 0, false, [.directionNotAdmitted], []⟩
  else if supporting.any fun support => support.direction ≠ direction then
    .error (.projection "invalid-persistence-direction" "temporal deviation persistence support changed direction")
  else
    let persistence := 1 + supporting.length
    if policy.requiredPersistenceBuckets ≤ persistence then
      .ok ⟨.candidate, direction, some distance, relativeChange, persistence, true, [.deviationCandidate], supporting⟩
    else
      .ok ⟨.pendingPersistence, direction, some distance, relativeChange, persistence, false,
        [.persistenceRequirementNotMet], supporting⟩

def evaluate (inputs : AssessmentInputs) (policy : TemporalDeviationPolicy) (supporting : List TemporalDeviationAssessment) :
    Except Failure Evaluation :=
  let reasons := blockingReasons inputs.observation inputs.expectation policy
  if reasons ≠ [] then .ok ⟨.blocked, .unknown, none, none, 0, false, reasons, []⟩
  else
    match inputs.observation.value, inputs.expectation.expected, inputs.expectation.lower, inputs.expectation.upper with
    | some value, some expected, some lower, some upper => evaluateValue policy (float value) expected lower upper supporting
    | _, _, _, _ => .error (.value "AssertionError")

/-- The contract of an evaluation, under the digests of its inputs. -/
def assembleAssessment (inputs : AssessmentInputs) (policy : TemporalDeviationPolicy) (generatedAt : Time)
    (evaluation : Evaluation) : Except Failure TemporalDeviationAssessment := do
  let observation := inputs.observation
  let expectation := inputs.expectation
  let supportingIds := evaluation.supporting.map (·.assessmentId)
  let observationDigest := temporalObservationDigest hashing observation
  let inputDigest ← temporalAssessmentInputDigest hashing observationDigest expectation policy supportingIds
  let assessmentId ← temporalDeviationAssessmentId hashing inputDigest observation.metricKey observation.siteId
    observation.bucketStart observation.bucketEnd policy.policyVersion
  TemporalDeviationAssessment.construct
    { assessmentId := assessmentId
      inputDigest := inputDigest
      metricKey := observation.metricKey
      tenantId := observation.tenantId
      siteId := observation.siteId
      assetId := observation.assetId
      targetBucketStart := observation.bucketStart
      targetBucketEnd := observation.bucketEnd
      generatedAt := generatedAt
      observationKnowledgeCutoff := observation.bucketEnd
      signalId := observation.signalId
      observationDigest := observationDigest
      observedValue := observation.value.map float
      observationUnit := observation.unit
      observationFreshness := observation.freshness
      observationDataQuality := observation.dataQuality
      observationComplete := observation.complete
      expectationId := expectation.expectationId
      historyDigest := expectation.historyDigest
      expected := expectation.expected
      lower := expectation.lower
      upper := expectation.upper
      expectationMethod := expectation.method
      expectationConfidence := expectation.confidence
      expectationDataQuality := expectation.dataQuality
      policyId := policy.policyId
      policyVersion := policy.policyVersion
      allowedDirections := policy.allowedDirections
      requiredPersistenceBuckets := policy.requiredPersistenceBuckets
      direction := evaluation.direction
      distanceBeyondBound := evaluation.distance
      relativeChange := evaluation.relativeChange
      persistenceObservedBuckets := evaluation.persistence
      supportingAssessmentIds := supportingIds
      assessmentState := evaluation.state
      candidate := evaluation.candidate
      reasonCodes := evaluation.reasons }

/-- `_build_assessment`. -/
def buildAssessment (inputs : AssessmentInputs) (policy : TemporalDeviationPolicy) (generatedAt : Time)
    (supporting : List TemporalDeviationAssessment) : Except Failure TemporalDeviationAssessment := do
  let ordered := supporting.insertionSort (supportLe · ·)
  require (ordered.length + 1 ≤ policy.requiredPersistenceBuckets)
    (.projection "unbounded-persistence-support" "temporal deviation persistence support exceeds policy bounds")
  let expectedSupportStart := inputs.observation.bucketStart - ordered.length * day
  require (ordered.zipIdx.all fun (support, index) =>
      isAligned inputs.observation policy (expectedSupportStart + index * day) support)
    (.projection "invalid-persistence-support" "temporal deviation persistence support is not consecutive and aligned")
  let evaluation ← evaluate inputs policy ordered
  assembleAssessment hashing inputs policy generatedAt evaluation

/-- The projection and the expectations that a deviation service composes, with its policies. -/
structure TemporalDeviationService where
  projection : SeriesRequest → Except Failure TemporalSignalSeriesResponse
  expectations : ExpectationRequest → Except Failure TemporalExpectation
  policies : List (String × TemporalDeviationPolicy) := temporalDeviationPolicies

/-- `from_projection_store`. -/
def TemporalDeviationService.fromProjectionStore (store : TemporalProjectionStore) : TemporalDeviationService where
  projection := store.series hashing
  expectations := expectation hashing (store.series hashing)

namespace TemporalDeviationService

variable (service : TemporalDeviationService)

/-- `_load_inputs`. -/
def loadInputs (metricKey siteId : String) (targetStart : Time) (assetId : Option String) (generatedAt : Time) :
    Except Failure AssessmentInputs := do
  let targetEnd := targetStart + day
  let series ← service.projection
    { metricKey := metricKey, siteId := siteId, start := targetStart, finish := targetEnd, assetId := assetId,
      generatedAt := targetEnd, knowledgeCutoff := some targetEnd }
  require (series.bucketCount = 1 && series.signals.length = 1)
    (.projection "invalid-observation-projection" "target observation projection must return exactly one bucket")
  let observation :: _ := series.signals
    | throw (.value "IndexError")
  let expectation ← service.expectations
    { metricKey := metricKey, siteId := siteId, targetStart := targetStart, assetId := assetId, generatedAt := generatedAt }
  validateProvenance hashing ⟨observation, expectation⟩ metricKey siteId assetId targetStart targetEnd
  return ⟨observation, expectation⟩

/-- The assessment of a day as a first deviation, which nothing supports. -/
def firstAssessment (policy : TemporalDeviationPolicy) (request : ExpectationRequest) (targetStart : Time) :
    Except Failure TemporalDeviationAssessment := do
  let inputs ← service.loadInputs hashing request.metricKey request.siteId targetStart request.assetId request.generatedAt
  buildAssessment hashing inputs policy request.generatedAt []

/-- The supports of a deviation on the days before it, latest first, up to the first day that is none. -/
def supportingFrom (policy : TemporalDeviationPolicy) (request : ExpectationRequest) (direction : DeviationDirection) :
    List Nat → Except Failure (List TemporalDeviationAssessment)
  | [] => .ok []
  | offset :: rest => do
    let prior ← service.firstAssessment hashing policy request (request.targetStart - offset * day)
    if !isDeviating prior.assessmentState || prior.direction ≠ direction then return []
    else return prior :: (← supportingFrom policy request direction rest)

/-- `_validate_request`. -/
def validateRequest (metric : TemporalMetricDefinition) (request : ExpectationRequest) : Except Failure Unit := do
  require (request.granularity = "daily")
    (.projection "unsupported-granularity" "only daily UTC temporal deviation assessments are supported")
  require (request.assetId.isNone || metric.supportsAssetScope)
    (.projection "unsupported-scope" "the selected temporal metric supports site scope only")
  require (isMidnight request.targetStart)
    (.projection "unaligned-target" "target_start must align to a UTC midnight bucket boundary")
  require (request.targetStart < (utcDailyBucket request.generatedAt).1)
    (.projection "open-or-future-target" "temporal deviation target must be a closed UTC bucket")

/-- `TemporalDeviationService.assessment`. -/
def assessment (request : ExpectationRequest) : Except Failure TemporalDeviationAssessment := do
  let some metric := temporalMetric request.metricKey
    | throw (.value "unknown temporal metric")
  let some policy := service.policies.lookup request.metricKey
    | throw (.projection "unknown-metric" "unknown temporal metric")
  validateRequest metric request
  let inputs ← service.loadInputs hashing request.metricKey request.siteId request.targetStart request.assetId
    request.generatedAt
  let current ← buildAssessment hashing inputs policy request.generatedAt []
  if current.assessmentState ≠ .pendingPersistence then
    return current
  else
    require (policy.requiredPersistenceBuckets ≤ policy.maximumPersistenceLookback)
      (.projection "invalid-deviation-policy" "temporal deviation policy exceeds its bounded lookback")
    let supporting ← service.supportingFrom hashing policy request current.direction
      (List.range' 1 (policy.requiredPersistenceBuckets - 1))
    buildAssessment hashing inputs policy request.generatedAt supporting.reverse

end TemporalDeviationService

end

end OpenAssetWatch.Temporal
