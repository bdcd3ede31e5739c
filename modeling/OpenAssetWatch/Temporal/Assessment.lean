import OpenAssetWatch.Temporal.Contracts

namespace OpenAssetWatch.Temporal

open Library

inductive DeviationPolicyDirection where
  | above | below
deriving DecidableEq, Repr

inductive DeviationDirection where
  | inside | above | below | unknown
deriving DecidableEq, Repr

/-- The direction of an observation that a policy may admit. -/
def DeviationDirection.policy : DeviationDirection → Option DeviationPolicyDirection
  | .above => some .above
  | .below => some .below
  | .inside | .unknown => none

/-- `direction in allowed_directions`. -/
def DeviationDirection.isAdmitted (allowed : List DeviationPolicyDirection) (direction : DeviationDirection) : Bool :=
  direction.policy.any allowed.contains

inductive DeviationAssessmentState where
  | blocked | withinRange | outsidePolicyDirection | pendingPersistence | candidate
deriving DecidableEq, Repr

inductive DeviationReasonCode where
  | targetObservationUnavailable | targetObservationIncomplete | targetObservationStale | targetObservationUntrustedQuality
  | expectationRangeUnavailable | expectationConfidenceBelowPolicy | expectationQualityBelowPolicy
  | expectationProvenanceInvalid
  | withinExpectedRange | directionNotAdmitted | persistenceRequirementNotMet | deviationCandidate
deriving DecidableEq, Repr

structure TemporalDeviationPolicy where
  policyId : String
  policyVersion : String := "1"
  metricKey : String
  allowedDirections : List DeviationPolicyDirection
  minimumExpectationConfidence : ExpectationConfidence := .medium
  requiredExpectationDataQuality : ExpectationDataQuality := .sufficient
  requiredPersistenceBuckets : Nat
  maximumPersistenceLookback : Nat
deriving DecidableEq, Repr

/-- What the contract of a policy admits. -/
structure TemporalDeviationPolicy.Admitted (policy : TemporalDeviationPolicy) : Prop where
  confidence : policy.minimumExpectationConfidence = .medium
  quality : policy.requiredExpectationDataQuality = .sufficient
  directed : policy.allowedDirections ≠ []
  distinct : policy.allowedDirections.Nodup
  required_pos : 1 ≤ policy.requiredPersistenceBuckets
  required_le : policy.requiredPersistenceBuckets ≤ policy.maximumPersistenceLookback
  lookback_le : policy.maximumPersistenceLookback ≤ 3

structure TemporalDeviationAssessment where
  assessmentId : String
  inputDigest : String
  metricKey : String
  tenantId : Option String
  siteId : String
  assetId : Option String
  targetBucketStart : Time
  targetBucketEnd : Time
  generatedAt : Time
  observationKnowledgeCutoff : Time
  signalId : String
  observationDigest : String
  observedValue : Option ℚ
  observationUnit : String
  observationFreshness : SignalFreshness
  observationDataQuality : SignalDataQuality
  observationComplete : Bool
  expectationId : String
  historyDigest : String
  expected : Option ℚ
  lower : Option ℚ
  upper : Option ℚ
  expectationMethod : ExpectationMethod
  expectationConfidence : ExpectationConfidence
  expectationDataQuality : ExpectationDataQuality
  policyId : String
  policyVersion : String
  allowedDirections : List DeviationPolicyDirection
  requiredPersistenceBuckets : Nat
  direction : DeviationDirection
  distanceBeyondBound : Option ℚ
  relativeChange : Option ℚ
  persistenceObservedBuckets : Nat
  supportingAssessmentIds : List String
  assessmentState : DeviationAssessmentState
  candidate : Bool
  reasonCodes : List DeviationReasonCode
deriving DecidableEq, Repr

/-- Where a number lies of a range, and by how much it is out of it. -/
def beyondRange (observed lower upper : ℚ) : DeviationDirection × ℚ :=
  if observed < lower then (.below, float (lower - observed))
  else if upper < observed then (.above, float (observed - upper))
  else (.inside, 0)

/-- `abs(observed_value - expected) / expected`. -/
def relativeChangeOf (observed expected : ℚ) : ℚ := float (|float (observed - expected)| / expected)

namespace TemporalDeviationAssessment

def fieldChecks (assessment : TemporalDeviationAssessment) : Checks := [
  (isDeviationAssessmentId assessment.assessmentId, "assessment_id"),
  (isHistoryDigest assessment.inputDigest, "input_digest"),
  (isLength 1 120 assessment.metricKey, "metric_key"),
  (isOptionalLength 128 assessment.tenantId, "tenant_id"),
  (isLength 1 128 assessment.siteId && isSitePattern assessment.siteId, "site_id"),
  (isOptionalLength 160 assessment.assetId, "asset_id"),
  (isSignalId assessment.signalId, "signal_id"),
  (isHistoryDigest assessment.observationDigest, "observation_digest"),
  (isFloatField assessment.observedValue, "observed_value"),
  (isLength 1 40 assessment.observationUnit, "observation_unit"),
  (isExpectationId assessment.expectationId, "expectation_id"),
  (isHistoryDigest assessment.historyDigest, "history_digest"),
  (isFloatField assessment.expected, "expected"),
  (isFloatField assessment.lower, "lower"),
  (isFloatField assessment.upper, "upper"),
  (isLength 1 160 assessment.policyId, "policy_id"),
  (isLength 1 8 assessment.policyVersion, "policy_version"),
  (1 ≤ assessment.allowedDirections.length && assessment.allowedDirections.length ≤ 2, "allowed_directions"),
  (1 ≤ assessment.requiredPersistenceBuckets && assessment.requiredPersistenceBuckets ≤ 3, "required_persistence_buckets"),
  (isFloatField assessment.distanceBeyondBound, "distance_beyond_bound"),
  (isFloatField assessment.relativeChange, "relative_change"),
  (assessment.persistenceObservedBuckets ≤ 3, "persistence_observed_buckets"),
  (assessment.supportingAssessmentIds.length ≤ 2, "supporting_assessment_ids"),
  (assessment.supportingAssessmentIds.Nodup, "supporting assessment identifiers must be unique"),
  (assessment.supportingAssessmentIds.all isDeviationAssessmentId, "supporting assessment identifier is invalid"),
  (1 ≤ assessment.reasonCodes.length && assessment.reasonCodes.length ≤ 8, "reason_codes")]

def requiredReason : DeviationAssessmentState → Option DeviationReasonCode
  | .blocked => none
  | .withinRange => some .withinExpectedRange
  | .outsidePolicyDirection => some .directionNotAdmitted
  | .pendingPersistence => some .persistenceRequirementNotMet
  | .candidate => some .deviationCandidate

def blockedReasons : List DeviationReasonCode := [
  .targetObservationUnavailable, .targetObservationIncomplete, .targetObservationStale, .targetObservationUntrustedQuality,
  .expectationRangeUnavailable, .expectationConfidenceBelowPolicy, .expectationQualityBelowPolicy,
  .expectationProvenanceInvalid]

/-- What every assessment is checked for. -/
def commonChecks (assessment : TemporalDeviationAssessment) : Checks := [
  (assessment.targetBucketEnd - assessment.targetBucketStart = day, "deviation assessments must span exactly one UTC day"),
  ([assessment.targetBucketStart, assessment.targetBucketEnd, assessment.observationKnowledgeCutoff].all isMidnight,
    "deviation boundaries must align to UTC midnight"),
  (assessment.observationKnowledgeCutoff = assessment.targetBucketEnd, "observation cutoff must equal the target bucket end"),
  (assessment.allowedDirections.Nodup, "deviation assessment directions must be unique"),
  (assessment.reasonCodes.Nodup, "deviation reason codes must be unique"),
  (assessment.expected.isSome = assessment.lower.isSome && assessment.lower.isSome = assessment.upper.isSome,
    "assessment expectation values must be all present or absent"),
  ((requiredReason assessment.assessmentState).all assessment.reasonCodes.contains,
    "assessment state requires its matching reason code")]

/-- What a blocked assessment is checked for. -/
def blockedChecks (assessment : TemporalDeviationAssessment) : Checks := [
  (assessment.reasonCodes.all blockedReasons.contains, "a blocked assessment contains a non-blocking reason"),
  (!assessment.candidate, "a blocked assessment cannot be a candidate"),
  (assessment.direction = .unknown && assessment.distanceBeyondBound.isNone,
    "a blocked assessment requires unknown direction and null distance"),
  (assessment.relativeChange.isNone, "a blocked assessment requires null relative change"),
  (assessment.persistenceObservedBuckets = 0 && assessment.supportingAssessmentIds.isEmpty,
    "a blocked assessment cannot claim persistence support")]

/-- What the numbers of an evaluated assessment are checked for. -/
def valueChecks (assessment : TemporalDeviationAssessment) : Checks :=
  match assessment.observedValue, assessment.expected, assessment.lower, assessment.upper with
  | some observed, some expected, some lower, some upper => [
      (lower ≤ expected && expected ≤ upper, "assessment range bounds must contain the expected value"),
      (assessment.direction = (beyondRange observed lower upper).1, "assessment direction is inconsistent with its values"),
      (assessment.distanceBeyondBound = some (beyondRange observed lower upper).2,
        "assessment distance is inconsistent with its values"),
      (if expected = 0 then assessment.relativeChange = none
        else assessment.relativeChange = some (relativeChangeOf observed expected),
        "relative change is inconsistent with its values")]
  | _, _, _, _ => [(false, "an evaluated assessment requires observation and range values")]

/-- What an evaluated assessment is checked for in its state. -/
def stateChecks (assessment : TemporalDeviationAssessment) : Checks :=
  match assessment.assessmentState with
  | .blocked => []
  | .withinRange => [
      (assessment.direction = .inside && !assessment.candidate, "within-range assessments must be inside and non-candidates"),
      (assessment.persistenceObservedBuckets = 0 && assessment.supportingAssessmentIds.isEmpty,
        "within-range assessments cannot claim persistence")]
  | .outsidePolicyDirection => [
      (assessment.direction ≠ .inside && !assessment.direction.isAdmitted assessment.allowedDirections,
        "outside-policy-direction must use a disallowed direction"),
      (!assessment.candidate && assessment.persistenceObservedBuckets = 0,
        "a disallowed direction cannot claim candidate persistence")]
  | .pendingPersistence => [
      (assessment.direction.isAdmitted assessment.allowedDirections && !assessment.candidate,
        "pending persistence requires an admitted non-candidate direction"),
      (1 ≤ assessment.persistenceObservedBuckets &&
        assessment.persistenceObservedBuckets < assessment.requiredPersistenceBuckets,
        "pending persistence count is inconsistent with policy")]
  | .candidate => [
      (assessment.direction.isAdmitted assessment.allowedDirections && assessment.candidate,
        "candidate state requires an admitted candidate direction"),
      (assessment.persistenceObservedBuckets = assessment.requiredPersistenceBuckets,
        "candidate persistence count must meet the policy exactly")]

def evaluatedChecks (assessment : TemporalDeviationAssessment) : Checks :=
  ([((requiredReason assessment.assessmentState).toList = assessment.reasonCodes,
    "an evaluated assessment requires one state reason")] : Checks) ++
  assessment.valueChecks ++ ([
  (assessment.observationComplete && assessment.observationFreshness = .current &&
    assessment.observationDataQuality = .observed, "an evaluated assessment requires a trustworthy observation"),
  (assessment.expectationDataQuality = .sufficient &&
    (assessment.expectationConfidence = .medium || assessment.expectationConfidence = .high),
    "an evaluated assessment requires a trustworthy expectation")] : Checks) ++
  assessment.stateChecks ++ ([
  (assessment.supportingAssessmentIds.length = assessment.persistenceObservedBuckets - 1,
    "supporting assessment count is inconsistent with persistence")] : Checks)

/-- `validate_deviation_consistency`, which returns early for a blocked assessment. -/
def validateDeviationConsistency (assessment : TemporalDeviationAssessment) : Checks :=
  assessment.commonChecks ++
    if assessment.assessmentState = .blocked then assessment.blockedChecks else assessment.evaluatedChecks

def construct (assessment : TemporalDeviationAssessment) : Except Failure TemporalDeviationAssessment := do
  ensure (assessment.fieldChecks ++ assessment.validateDeviationConsistency)
  return assessment

end TemporalDeviationAssessment

end OpenAssetWatch.Temporal
