import OpenAssetWatch.Library.Guard
import OpenAssetWatch.Library.Rounding
import OpenAssetWatch.Text.Json

namespace OpenAssetWatch.Temporal

open Library OpenAssetWatch.Text

/-- Why a temporal service raises: its own error with a code, a contract that refuses its values, or another ValueError. -/
inductive Failure where
  | projection (code message : String)
  | contract (message : String)
  | value (message : String)
deriving DecidableEq, Repr

/-- Python's binary64 numbers, which round to nearest with ties to even. -/
def binary64 : Format := ⟨2, 53, -1074, by decide, by decide⟩

/-- `float`. -/
def float (x : ℚ) : ℚ := binary64.nearest x

/-- Whether a rounded number is still below the overflow threshold. -/
def isFinite (x : ℚ) : Bool := |x| < 2 ^ 1024

/-- `timedelta(days=1)`. -/
def day : Time := 86_400_000_000

def isMidnight (t : Time) : Bool := t % day = 0

/-- `utc_daily_bucket`: the UTC day that holds a timestamp. -/
def utcDailyBucket (timestamp : Time) : Time × Time := (timestamp - timestamp % day, timestamp - timestamp % day + day)

/-- The checks of a contract in their order, each with the text it raises. -/
abbrev Checks := List (Bool × String)

def ensure (checks : Checks) : Except Failure Unit :=
  checks.forM fun check => require check.1 (.contract check.2)

theorem ensure_eq_ok {checks : Checks} : ensure checks = .ok () ↔ ∀ check ∈ checks, check.1 = true := by
  rw [ensure, forM_eq_ok]
  simp only [require_eq_ok]

section Patterns

def isLowerHex (c : Char) : Bool := c.isDigit || ('a' ≤ c && c ≤ 'f')

/-- A prefix followed by so many lowercase hexadecimal digits. -/
def isHexId (start : String) (digits : Nat) (text : String) : Bool :=
  text.toList.take start.length = start.toList && (text.toList.drop start.length).length = digits &&
    (text.toList.drop start.length).all isLowerHex

/-- `SIGNAL_ID_PATTERN`. -/
def isSignalId : String → Bool := isHexId "sig_" 32

/-- `EXPECTATION_ID_PATTERN`. -/
def isExpectationId : String → Bool := isHexId "exp_" 32

/-- `DEVIATION_ASSESSMENT_ID_PATTERN`. -/
def isDeviationAssessmentId : String → Bool := isHexId "tda_" 32

/-- `HISTORY_DIGEST_PATTERN`. -/
def isHistoryDigest : String → Bool := isHexId "" 64

/-- `SITE_ID_PATTERN` with the contracts' bounds. -/
def isSitePattern (text : String) : Bool :=
  text ≠ "" && text.toList.all fun c => c.isAlphanum || c = '.' || c = '_' || c = '-'

def isLength (least most : Nat) (text : String) : Bool := least ≤ text.length && text.length ≤ most

def isOptionalLength (most : Nat) (text : Option String) : Bool := text.all (isLength 1 most)

end Patterns

/-- `MAX_TEMPORAL_BUCKETS`, also `MAX_TEMPORAL_HISTORY_DAYS`. -/
def maxTemporalBuckets : Nat := 366

/-- `TEMPORAL_EXPECTATION_HISTORY_BUCKETS`. -/
def historyBuckets : Nat := 56

structure TemporalMetricDefinition where
  metricKey : String
  unit : String
  sourceAuthority : String
  projectionVersion : String := "1"
  freshnessExpectationSeconds : Int
  missingBucketDiffersFromZero : Bool := true
  supportsAssetScope : Bool := false
deriving DecidableEq, Repr

/-- `TEMPORAL_METRICS`. -/
def temporalMetrics : List TemporalMetricDefinition := [
  { metricKey := "site.assets.new.count", unit := "count",
    sourceAuthority := "canonical control_tower_assets.first_seen_at", freshnessExpectationSeconds := 129_600 },
  { metricKey := "site.collectors.active.count", unit := "count",
    sourceAuthority := "accepted agent_checkins", freshnessExpectationSeconds := 90_000 },
  { metricKey := "site.findings.new.count", unit := "count",
    sourceAuthority := "deterministic findings.first_seen_at", freshnessExpectationSeconds := 129_600 },
  { metricKey := "site.vulnerabilities.new.count", unit := "count",
    sourceAuthority := "deterministic vulnerability_matches.first_matched_at", freshnessExpectationSeconds := 172_800 },
  { metricKey := "site.inventory.collections.count", unit := "count",
    sourceAuthority := "canonical_inventory_collections", freshnessExpectationSeconds := 129_600 },
  { metricKey := "site.inventory.asset_observations.count", unit := "asset-observations",
    sourceAuthority := "canonical_inventory_collections.canonical_asset_count", freshnessExpectationSeconds := 129_600 }]

def temporalMetric (metricKey : String) : Option TemporalMetricDefinition :=
  temporalMetrics.find? fun metric => metric.metricKey = metricKey

inductive SignalFreshness where
  | current | stale | unknown
deriving DecidableEq, Repr

inductive SignalDataQuality where
  | observed | missing | incomplete | stale
deriving DecidableEq, Repr

inductive SignalBackfillState where
  | live | backfilled | lateArriving
deriving DecidableEq, Repr

structure TemporalSignal where
  signalId : String
  metricKey : String
  tenantId : Option String
  siteId : String
  assetId : Option String
  bucketStart : Time
  bucketEnd : Time
  value : Option ℚ
  unit : String
  evidenceCount : Int
  source : String
  sourceObservedAt : Option Time
  sourceReceivedAt : Option Time
  freshness : SignalFreshness
  complete : Bool
  dataQuality : SignalDataQuality
  backfillState : SignalBackfillState
  projectionVersion : String
  generatedAt : Time
deriving DecidableEq, Repr

namespace TemporalSignal

def isReceivedLate (signal : TemporalSignal) : Bool := signal.sourceReceivedAt.any fun received => signal.bucketEnd < received

/-- The field constraints of the contract. -/
def fieldChecks (signal : TemporalSignal) : Checks := [
  (isSignalId signal.signalId, "signal_id"),
  (isLength 1 120 signal.metricKey, "metric_key"),
  (isOptionalLength 128 signal.tenantId, "tenant_id"),
  (isLength 1 128 signal.siteId && isSitePattern signal.siteId, "site_id"),
  (isOptionalLength 160 signal.assetId, "asset_id"),
  (signal.value.all fun value => 0 ≤ value, "value"),
  (isLength 1 40 signal.unit, "unit"),
  (0 ≤ signal.evidenceCount, "evidence_count"),
  (isLength 1 160 signal.source, "source"),
  (isLength 1 32 signal.projectionVersion, "projection_version")]

/-- `validate_bucket_and_quality`. -/
def validateBucketAndQuality (signal : TemporalSignal) : Checks := [
  (signal.bucketStart < signal.bucketEnd, "bucket_end must be after bucket_start"),
  (signal.bucketEnd - signal.bucketStart = day, "daily buckets must span exactly one UTC day"),
  (isMidnight signal.bucketStart && isMidnight signal.bucketEnd, "daily bucket boundaries must be UTC midnight"),
  (signal.value.isSome || !signal.complete, "a missing value cannot be complete"),
  (signal.value.isSome || signal.dataQuality = .missing || signal.dataQuality = .incomplete,
    "a missing value must report missing or incomplete quality"),
  (signal.dataQuality ≠ .observed || (signal.complete && signal.value.isSome && signal.freshness = .current),
    "observed quality requires a complete current value"),
  (signal.dataQuality ≠ .missing ||
      (!signal.complete && signal.value.isNone && signal.evidenceCount = 0 && signal.freshness = .unknown),
    "missing quality requires an uncovered null value"),
  (signal.dataQuality ≠ .incomplete || !signal.complete, "incomplete signals cannot claim complete coverage"),
  (signal.dataQuality ≠ .stale || (signal.complete && signal.value.isSome && signal.freshness = .stale),
    "stale quality requires a complete stale value"),
  (!(signal.complete && signal.freshness = .stale) || signal.dataQuality = .stale,
    "complete stale signals must report stale quality"),
  (!signal.complete || signal.sourceObservedAt.isSome, "complete signals require a source observation watermark"),
  (signal.backfillState ≠ .lateArriving || signal.isReceivedLate,
    "late-arriving signals require evidence received after bucket end"),
  (!signal.isReceivedLate || signal.backfillState = .lateArriving,
    "evidence received after bucket end must be late-arriving")]

/-- The constructor of the contract, which refuses what its validators do. -/
def construct (signal : TemporalSignal) : Except Failure TemporalSignal := do
  ensure (signal.fieldChecks ++ signal.validateBucketAndQuality)
  return signal

end TemporalSignal

structure TemporalSignalSeriesResponse where
  metric : TemporalMetricDefinition
  tenantId : Option String
  siteId : String
  assetId : Option String
  start : Time
  finish : Time
  generatedAt : Time
  bucketCount : Nat
  missingBucketCount : Nat
  incompleteBucketCount : Nat
  signals : List TemporalSignal
deriving DecidableEq, Repr

namespace TemporalSignalSeriesResponse

def fieldChecks (series : TemporalSignalSeriesResponse) : Checks := [
  (isOptionalLength 128 series.tenantId, "tenant_id"),
  (isLength 1 128 series.siteId && isSitePattern series.siteId, "site_id"),
  (isOptionalLength 160 series.assetId, "asset_id"),
  (1 ≤ series.bucketCount && series.bucketCount ≤ maxTemporalBuckets, "bucket_count"),
  (series.missingBucketCount ≤ maxTemporalBuckets, "missing_bucket_count"),
  (series.incompleteBucketCount ≤ maxTemporalBuckets, "incomplete_bucket_count"),
  (series.signals.length ≤ maxTemporalBuckets, "signals")]

/-- The checks on the signals in turn, from where the last bucket ended. -/
def signalChecks (series : TemporalSignalSeriesResponse) : Time → List TemporalSignal → Checks
  | expectedStart, [] => [(expectedStart = series.finish, "series buckets must cover the requested window")]
  | expectedStart, signal :: rest => ([
      (signal.metricKey = series.metric.metricKey, "series contains a signal for another metric"),
      (signal.siteId = series.siteId && signal.tenantId = series.tenantId,
        "series contains a signal for another authority scope"),
      (signal.assetId = series.assetId, "series contains a signal for another asset scope"),
      (signal.bucketStart = expectedStart, "series buckets must be contiguous and ordered")] : Checks) ++
    series.signalChecks signal.bucketEnd rest

/-- `validate_series_consistency`. -/
def validateSeriesConsistency (series : TemporalSignalSeriesResponse) : Checks := ([
  (series.start < series.finish, "series end must be after start"),
  (series.signals.length = series.bucketCount, "series bucket_count must match the signal count"),
  (series.missingBucketCount = series.signals.countP (·.dataQuality = .missing),
    "series missing bucket count is inconsistent"),
  (series.incompleteBucketCount = series.signals.countP (!·.complete),
    "series incomplete bucket count is inconsistent")] : Checks) ++
  series.signalChecks series.start series.signals

def construct (series : TemporalSignalSeriesResponse) : Except Failure TemporalSignalSeriesResponse := do
  ensure (series.fieldChecks ++ series.validateSeriesConsistency)
  return series

end TemporalSignalSeriesResponse

inductive ExpectationMethod where
  | rollingRobustBaseline | seasonalRobustBaseline
deriving DecidableEq, Repr

inductive ExpectationConfidence where
  | none | low | medium | high
deriving DecidableEq, Repr

inductive ExpectationDataQuality where
  | insufficient | limited | sufficient
deriving DecidableEq, Repr

inductive ExpectationBlockedReason where
  | insufficientUsableHistory
deriving DecidableEq, Repr

structure TemporalExpectation where
  expectationId : String
  historyDigest : String
  metricKey : String
  tenantId : Option String
  siteId : String
  assetId : Option String
  targetBucketStart : Time
  targetBucketEnd : Time
  knowledgeCutoff : Time
  generatedAt : Time
  historyStart : Time
  historyEnd : Time
  usableBucketCount : Nat
  missingBucketCount : Nat
  incompleteBucketCount : Nat
  staleBucketCount : Nat
  lateArrivingBucketCount : Nat
  method : ExpectationMethod
  methodSampleCount : Nat
  expected : Option ℚ
  lower : Option ℚ
  upper : Option ℚ
  unit : String
  confidence : ExpectationConfidence
  dataQuality : ExpectationDataQuality
  blockedReason : Option ExpectationBlockedReason
  projectionVersion : String
deriving DecidableEq, Repr

/-- A number a float field with `ge=0` accepts. -/
def isFloatField (value : Option ℚ) : Bool := value.all fun value => 0 ≤ value && isFinite value

namespace TemporalExpectation

def fieldChecks (expectation : TemporalExpectation) : Checks := [
  (isExpectationId expectation.expectationId, "expectation_id"),
  (isHistoryDigest expectation.historyDigest, "history_digest"),
  (isLength 1 120 expectation.metricKey, "metric_key"),
  (isOptionalLength 128 expectation.tenantId, "tenant_id"),
  (isLength 1 128 expectation.siteId && isSitePattern expectation.siteId, "site_id"),
  (isOptionalLength 160 expectation.assetId, "asset_id"),
  (expectation.usableBucketCount ≤ historyBuckets, "usable_bucket_count"),
  (expectation.missingBucketCount ≤ historyBuckets, "missing_bucket_count"),
  (expectation.incompleteBucketCount ≤ historyBuckets, "incomplete_bucket_count"),
  (expectation.staleBucketCount ≤ historyBuckets, "stale_bucket_count"),
  (expectation.lateArrivingBucketCount ≤ historyBuckets, "late_arriving_bucket_count"),
  (expectation.methodSampleCount ≤ historyBuckets, "method_sample_count"),
  (isFloatField expectation.expected, "expected"),
  (isFloatField expectation.lower, "lower"),
  (isFloatField expectation.upper, "upper"),
  (isLength 1 40 expectation.unit, "unit"),
  (isLength 1 32 expectation.projectionVersion, "projection_version")]

/-- The checks on the range: all of it there and in order, or none of it. -/
def rangeChecks (expectation : TemporalExpectation) : Checks :=
  match expectation.expected, expectation.lower, expectation.upper with
  | some expected, some lower, some upper => [
      (lower ≤ expected && expected ≤ upper, "expected range bounds must contain the expected value"),
      (expectation.dataQuality ≠ .insufficient, "a populated expected range cannot be insufficient"),
      (expectation.confidence ≠ .none && expectation.blockedReason.isNone,
        "a populated expected range requires confidence and no block")]
  | none, none, none => [
      (expectation.dataQuality = .insufficient, "a blocked expected range must report insufficient quality"),
      (expectation.confidence = .none && expectation.blockedReason.isSome,
        "a blocked expected range requires no confidence and a reason")]
  | _, _, _ => [(false, "expected range values must be all present or all absent")]

/-- `validate_expectation_consistency`. -/
def validateExpectationConsistency (expectation : TemporalExpectation) : Checks := ([
  (expectation.targetBucketEnd - expectation.targetBucketStart = day, "expectation targets must span exactly one UTC day"),
  ([expectation.targetBucketStart, expectation.targetBucketEnd, expectation.knowledgeCutoff, expectation.historyStart,
      expectation.historyEnd].all isMidnight, "expectation boundaries must align to UTC midnight"),
  (expectation.knowledgeCutoff = expectation.targetBucketStart, "knowledge_cutoff must equal the target bucket start"),
  (expectation.historyEnd = expectation.targetBucketStart, "expectation history must end at the target bucket start"),
  (expectation.historyEnd - expectation.historyStart = historyBuckets * day,
    "expectation history must cover the fixed bounded window"),
  (expectation.usableBucketCount + expectation.missingBucketCount + expectation.incompleteBucketCount +
      expectation.staleBucketCount = historyBuckets, "expectation history quality counts are inconsistent"),
  (expectation.methodSampleCount ≤ expectation.usableBucketCount,
    "expectation method sample cannot exceed usable history")] : Checks) ++
  expectation.rangeChecks

def construct (expectation : TemporalExpectation) : Except Failure TemporalExpectation := do
  ensure (expectation.fieldChecks ++ expectation.validateExpectationConsistency)
  return expectation

end TemporalExpectation

end OpenAssetWatch.Temporal
