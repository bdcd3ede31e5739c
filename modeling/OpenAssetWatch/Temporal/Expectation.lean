import OpenAssetWatch.Temporal.Contracts

namespace OpenAssetWatch.Temporal

open Library OpenAssetWatch.Text

/-- One bounded source aggregate before the public signal projection. -/
structure ProjectionAggregate where
  value : Nat
  evidenceCount : Nat
  sourceObservedAt : Option Time
  sourceReceivedAt : Option Time
  complete : Bool
  coverageObserved : Bool := true
deriving DecidableEq, Repr

/-- The arguments of `metric_buckets`. -/
structure BucketQuery where
  metric : TemporalMetricDefinition
  siteId : String
  start : Time
  finish : Time
  knowledgeCutoff : Option Time
deriving DecidableEq, Repr

/-- `metric_buckets` of a store: a dictionary from bucket starts, in its order. -/
abbrev TemporalProjectionStore := BucketQuery → Except Failure (List (Time × ProjectionAggregate))

/-- The arguments of `series`; `generatedAt` is the clock's time when the caller gives none. -/
structure SeriesRequest where
  metricKey : String
  siteId : String
  start : Time
  finish : Time
  granularity : String := "daily"
  assetId : Option String := none
  generatedAt : Time
  knowledgeCutoff : Option Time := none
deriving DecidableEq, Repr

/-- What the ids rest on: SHA-256 in hexadecimal, `isoformat`, and `json.dumps` in its canonical form. -/
structure Hashing where
  sha256 : String → String
  isoformat : Time → String
  dumps : Json → String

/-- `validate_temporal_window`. -/
def validateTemporalWindow (start finish : Time) (granularity : String) : Except Failure Nat := do
  require (granularity = "daily") (.projection "unsupported-granularity" "only daily UTC temporal buckets are supported")
  require (isMidnight start) (.projection "unaligned-window" "start must align to a UTC midnight bucket boundary")
  require (isMidnight finish) (.projection "unaligned-window" "end must align to a UTC midnight bucket boundary")
  require (start < finish) (.projection "invalid-window" "end must be after start")
  let bucketCount := ((finish - start) / day).toNat
  require (bucketCount ≤ maxTemporalBuckets)
    (.projection "window-too-large" "temporal history is limited to 366 daily buckets")
  return bucketCount

/-- `iter_daily_buckets`: every day from the start on that begins before the end. -/
def iterDailyBuckets (start finish : Time) : List Time :=
  (List.range ((finish - start + day - 1) / day).toNat).map fun (i : Nat) => start + i * day

def freshnessOf (metric : TemporalMetricDefinition) (bucketEnd : Time) (sourceObservedAt : Option Time) : SignalFreshness :=
  match sourceObservedAt with
  | none => .unknown
  | some observed => if observed < bucketEnd - metric.freshnessExpectationSeconds * 1_000_000 then .stale else .current

def backfillStateOf (bucketEnd generatedAt : Time) (sourceReceivedAt : Option Time) : SignalBackfillState :=
  if sourceReceivedAt.any fun received => bucketEnd < received then .lateArriving
  else if bucketEnd ≤ (utcDailyBucket generatedAt).1 then .backfilled
  else .live

section

variable (hashing : Hashing)

/-- `temporal_signal_id`. -/
def temporalSignalId (metricKey siteId : String) (assetId : Option String) (bucketStart bucketEnd : Time)
    (projectionVersion : String) : String :=
  let identity := "\x1f".intercalate ["oaw.temporal-signal.v1", metricKey, siteId, assetId.getD "",
    hashing.isoformat bucketStart, hashing.isoformat bucketEnd, projectionVersion]
  "sig_" ++ String.ofList ((hashing.sha256 identity).toList.take 32)

/-- The value a signal shows: none for an empty incomplete bucket without evidence. -/
def shownValue (metric : TemporalMetricDefinition) (aggregate : ProjectionAggregate) : Option ℚ :=
  if aggregate.value = 0 ∧ aggregate.complete = false ∧ metric.missingBucketDiffersFromZero = true ∧
      aggregate.evidenceCount = 0 then none
  else some aggregate.value

/-- The quality of the signal of an aggregate. -/
def qualityOf (aggregate : ProjectionAggregate) (value : Option ℚ) (complete : Bool) (freshness : SignalFreshness) :
    SignalDataQuality :=
  if value.isNone then if aggregate.coverageObserved then .incomplete else .missing
  else if !complete then .incomplete
  else if freshness = .stale then .stale
  else .observed

/-- `_signal` before its contract checks it. -/
def signalOf (metric : TemporalMetricDefinition) (siteId : String) (bucketStart bucketEnd : Time)
    (aggregate : Option ProjectionAggregate) (generatedAt : Time) : TemporalSignal :=
  let shared : TemporalSignal :=
    { signalId := temporalSignalId hashing metric.metricKey siteId none bucketStart bucketEnd metric.projectionVersion
      metricKey := metric.metricKey
      tenantId := none
      siteId := siteId
      assetId := none
      bucketStart := bucketStart
      bucketEnd := bucketEnd
      value := none
      unit := metric.unit
      evidenceCount := 0
      source := metric.sourceAuthority
      sourceObservedAt := none
      sourceReceivedAt := none
      freshness := .unknown
      complete := false
      dataQuality := .missing
      backfillState := backfillStateOf bucketEnd generatedAt none
      projectionVersion := metric.projectionVersion
      generatedAt := generatedAt }
  match aggregate with
  | none => shared
  | some aggregate =>
    let value := shownValue metric aggregate
    let freshness := freshnessOf metric bucketEnd aggregate.sourceObservedAt
    let complete := aggregate.complete && value.isSome
    { shared with
      value := value
      evidenceCount := aggregate.evidenceCount
      sourceObservedAt := aggregate.sourceObservedAt
      sourceReceivedAt := aggregate.sourceReceivedAt
      freshness := freshness
      complete := complete
      dataQuality := qualityOf aggregate value complete freshness
      backfillState := backfillStateOf bucketEnd generatedAt aggregate.sourceReceivedAt }

def isWithin (start finish t : Time) : Bool := start ≤ t && t < finish

/-- The sources of a window; two buckets of one time are refused. -/
def normalizedSources (start finish : Time) (sources : List (Time × ProjectionAggregate)) :
    Except Failure (List (Time × ProjectionAggregate)) :=
  sources.foldlM (fun found entry =>
    if !isWithin start finish entry.1 then .ok found
    else if (found.lookup entry.1).isSome then
      .error (.projection "duplicate-source-bucket" "temporal source returned duplicate normalized buckets")
    else .ok (found ++ [entry])) []

/-- `TemporalProjectionService.series`. -/
def TemporalProjectionStore.series (store : TemporalProjectionStore) (request : SeriesRequest) :
    Except Failure TemporalSignalSeriesResponse := do
  let some metric := temporalMetric request.metricKey
    | throw (.projection "unknown-metric" "unknown temporal metric")
  require (isSitePattern request.siteId) (.projection "invalid-site" "invalid temporal site scope")
  require (request.assetId.isNone || metric.supportsAssetScope)
    (.projection "unsupported-scope" "the selected temporal metric supports site scope only")
  let bucketCount ← validateTemporalWindow request.start request.finish request.granularity
  require (request.knowledgeCutoff.all fun cutoff => request.finish ≤ cutoff)
    (.projection "history-after-cutoff" "temporal history cannot extend beyond its evidence cutoff")
  require (request.finish ≤ (utcDailyBucket request.generatedAt).2)
    (.projection "future-window" "temporal history cannot extend beyond the current UTC bucket")
  let sources ← store ⟨metric, request.siteId, request.start, request.finish, request.knowledgeCutoff⟩
  let normalized ← normalizedSources request.start request.finish sources
  let signals ← (iterDailyBuckets request.start request.finish).mapM fun bucketStart =>
    (signalOf hashing metric request.siteId bucketStart (bucketStart + day) (normalized.lookup bucketStart)
      request.generatedAt).construct
  TemporalSignalSeriesResponse.construct
    { metric := metric
      tenantId := none
      siteId := request.siteId
      assetId := none
      start := request.start
      finish := request.finish
      generatedAt := request.generatedAt
      bucketCount := bucketCount
      missingBucketCount := signals.countP (·.dataQuality = .missing)
      incompleteBucketCount := signals.countP (!·.complete)
      signals := signals }

end

/-- The arguments of `expectation`; `generatedAt` is the clock's time when the caller gives none. -/
structure ExpectationRequest where
  metricKey : String
  siteId : String
  targetStart : Time
  granularity : String := "daily"
  assetId : Option String := none
  generatedAt : Time
deriving DecidableEq, Repr

inductive PrimaryMethod where
  | rolling | seasonal
deriving DecidableEq, Repr

/-- `TEMPORAL_EXPECTATION_POLICIES`. -/
def expectationPolicies : List (String × PrimaryMethod) := [
  ("site.assets.new.count", .rolling),
  ("site.collectors.active.count", .seasonal),
  ("site.findings.new.count", .rolling),
  ("site.vulnerabilities.new.count", .rolling),
  ("site.inventory.collections.count", .seasonal),
  ("site.inventory.asset_observations.count", .seasonal)]

/-- Python's decimals in the default context: 28 digits, rounded to nearest with ties to even. -/
def decimal28 : Format := ⟨10, 28, -1000026, by decide, by decide⟩

def rounded28 (x : ℚ) : ℚ := decimal28.nearest x

/-- `_median`. -/
def median (values : List ℚ) : ℚ :=
  let ordered := values.insertionSort (· ≤ ·)
  let midpoint := ordered.length / 2
  if ordered.length % 2 = 1 then ordered.getD midpoint 0
  else rounded28 (rounded28 (ordered.getD (midpoint - 1) 0 + ordered.getD midpoint 0) / 2)

/-- Rounding half away from zero. -/
def halfUp (x : ℚ) : ℤ := if 0 ≤ x then ⌊x + 1 / 2⌋ else -⌊-x + 1 / 2⌋

/-- `_rounded`: quantized to six decimals, which fails past the 28 digits of the context, then a finite float. -/
def roundedFloat (value : ℚ) : Except Failure ℚ := do
  let quantized := halfUp (value * 10 ^ 6)
  require (quantized.natAbs < 10 ^ 28) (.value "[<class 'decimal.InvalidOperation'>]")
  let result := float (quantized / 10 ^ 6)
  require (isFinite result) (.value "robust expected range must produce finite values")
  return result

/-- `robust_expected_range` of counts, which a decimal holds exactly. -/
def robustExpectedRange (values : List ℚ) : Except Failure (ℚ × ℚ × ℚ) := do
  require (!values.isEmpty) (.value "robust expected range requires at least one value")
  let center := median values
  let medianAbsoluteDeviation := median (values.map fun value => rounded28 |rounded28 (value - center)|)
  let halfWidth := rounded28 (rounded28 (medianAbsoluteDeviation * 1.4826) * 3)
  let lower := max 0 (rounded28 (center - halfWidth))
  let upper := rounded28 (center + halfWidth)
  return (← roundedFloat center, ← roundedFloat lower, ← roundedFloat upper)

/-- `_quality_and_confidence`. -/
def qualityAndConfidence (usableBucketCount methodSampleCount : Nat) (method : ExpectationMethod) :
    ExpectationDataQuality × ExpectationConfidence :=
  let historyCoverage : ℚ := float (usableBucketCount / historyBuckets)
  let strongSample := if method = .seasonalRobustBaseline then 8 else 14
  let mediumSample := if method = .seasonalRobustBaseline then 6 else 10
  if historyCoverage ≥ float 0.8 ∧ methodSampleCount ≥ strongSample then (.sufficient, .high)
  else if historyCoverage ≥ float 0.5 ∧ methodSampleCount ≥ mediumSample then (.sufficient, .medium)
  else (.limited, .low)

/-- The day of the week, counted from that of the epoch. -/
def weekday (t : Time) : Int := t / day % 7

/-- `_method_sample`. -/
def methodSample (policy : PrimaryMethod) (usable : List TemporalSignal) (targetStart : Time) :
    ExpectationMethod × List TemporalSignal :=
  let seasonal := usable.filter fun signal => weekday signal.bucketStart = weekday targetStart
  if policy = .seasonal ∧ 4 ≤ seasonal.length then (.seasonalRobustBaseline, seasonal)
  else (.rollingRobustBaseline, usable.filter fun signal => targetStart - 28 * day ≤ signal.bucketStart)

section

variable (hashing : Hashing)

def SignalFreshness.text : SignalFreshness → String
  | .current => "current" | .stale => "stale" | .unknown => "unknown"

def SignalDataQuality.text : SignalDataQuality → String
  | .observed => "observed" | .missing => "missing" | .incomplete => "incomplete" | .stale => "stale"

def SignalBackfillState.text : SignalBackfillState → String
  | .live => "live" | .backfilled => "backfilled" | .lateArriving => "late-arriving"

def ExpectationMethod.text : ExpectationMethod → String
  | .rollingRobustBaseline => "rolling_robust_baseline" | .seasonalRobustBaseline => "seasonal_robust_baseline"

/-- The fields of a signal that a digest covers. -/
def canonicalSignal (signal : TemporalSignal) : Json := .object [
  ("schema_version", .string "oaw.temporal-signal.v1"),
  ("signal_id", .string signal.signalId),
  ("metric_key", .string signal.metricKey),
  ("tenant_id", .ofText signal.tenantId),
  ("site_id", .string signal.siteId),
  ("asset_id", .ofText signal.assetId),
  ("bucket_start", .time signal.bucketStart),
  ("bucket_end", .time signal.bucketEnd),
  ("bucket_granularity", .string "daily"),
  ("value", signal.value.elim .null .number),
  ("unit", .string signal.unit),
  ("evidence_count", .number signal.evidenceCount),
  ("source", .string signal.source),
  ("source_observed_at", signal.sourceObservedAt.elim .null .time),
  ("source_received_at", signal.sourceReceivedAt.elim .null .time),
  ("freshness", .string signal.freshness.text),
  ("complete", .bool signal.complete),
  ("data_quality", .string signal.dataQuality.text),
  ("backfill_state", .string signal.backfillState.text),
  ("projection_version", .string signal.projectionVersion)]

/-- `_canonical_digest`. -/
def canonicalDigest (payload : Json) : String := hashing.sha256 (hashing.dumps payload)

/-- The order of the signals of a history in its digest. -/
def signalLe (left right : TemporalSignal) : Bool :=
  left.bucketStart < right.bucketStart || left.bucketStart = right.bucketStart &&
    (left.bucketEnd < right.bucketEnd || left.bucketEnd = right.bucketEnd && left.signalId ≤ right.signalId)

/-- `temporal_history_digest`. -/
def temporalHistoryDigest (signals : List TemporalSignal) : Except Failure String := do
  require (signals.length = historyBuckets) (.value "temporal history digest requires exactly 56 signals")
  return canonicalDigest hashing (.array ((signals.insertionSort (signalLe · ·)).map canonicalSignal))

/-- `temporal_expectation_id`. -/
def temporalExpectationId (metricKey siteId : String) (targetBucketStart targetBucketEnd historyStart historyEnd : Time)
    (method : ExpectationMethod) (projectionVersion historyDigest : String) : Except Failure String := do
  require (isHistoryDigest historyDigest) (.value "history_digest must be a lowercase SHA-256 digest")
  let identity := "\x1f".intercalate ["oaw.temporal-expectation.v1", metricKey, siteId, hashing.isoformat targetBucketStart,
    hashing.isoformat targetBucketEnd, hashing.isoformat historyStart, hashing.isoformat historyEnd, method.text, "1",
    projectionVersion, historyDigest]
  return "exp_" ++ String.ofList ((hashing.sha256 identity).toList.take 32)

/-- The range, quality, confidence and block of a sample. -/
structure ExpectedRange where
  expected : Option ℚ
  lower : Option ℚ
  upper : Option ℚ
  dataQuality : ExpectationDataQuality
  confidence : ExpectationConfidence
  blockedReason : Option ExpectationBlockedReason
deriving DecidableEq, Repr

def expectedRangeOf (usable sample : List TemporalSignal) (method : ExpectationMethod) : Except Failure ExpectedRange :=
  let minimum := if method = .seasonalRobustBaseline then 4 else 7
  if sample.length < minimum then
    .ok ⟨none, none, none, .insufficient, .none, some .insufficientUsableHistory⟩
  else do
    let (expected, lower, upper) ← robustExpectedRange (sample.filterMap (·.value))
    let (dataQuality, confidence) := qualityAndConfidence usable.length sample.length method
    return ⟨some expected, some lower, some upper, dataQuality, confidence, none⟩

/-- The fields of an expectation over its history. -/
def expectationOf (metric : TemporalMetricDefinition) (request : ExpectationRequest) (signals : List TemporalSignal)
    (historyDigest expectationId : String) (method : ExpectationMethod) (sampleCount : Nat) (range : ExpectedRange) :
    TemporalExpectation where
  expectationId := expectationId
  historyDigest := historyDigest
  metricKey := request.metricKey
  tenantId := none
  siteId := request.siteId
  assetId := none
  targetBucketStart := request.targetStart
  targetBucketEnd := request.targetStart + day
  knowledgeCutoff := request.targetStart
  generatedAt := request.generatedAt
  historyStart := request.targetStart - historyBuckets * day
  historyEnd := request.targetStart
  usableBucketCount := signals.countP (·.dataQuality = .observed)
  missingBucketCount := signals.countP (·.dataQuality = .missing)
  incompleteBucketCount := signals.countP (·.dataQuality = .incomplete)
  staleBucketCount := signals.countP (·.dataQuality = .stale)
  lateArrivingBucketCount := signals.countP (·.backfillState = .lateArriving)
  method := method
  methodSampleCount := sampleCount
  expected := range.expected
  lower := range.lower
  upper := range.upper
  unit := metric.unit
  confidence := range.confidence
  dataQuality := range.dataQuality
  blockedReason := range.blockedReason
  projectionVersion := metric.projectionVersion

/-- `TemporalExpectationService.expectation` over the projection it is given. -/
def expectation (projection : SeriesRequest → Except Failure TemporalSignalSeriesResponse) (request : ExpectationRequest) :
    Except Failure TemporalExpectation := do
  let some metric := temporalMetric request.metricKey
    | throw (.projection "unknown-metric" "unknown temporal metric")
  require (request.granularity = "daily")
    (.projection "unsupported-granularity" "only daily UTC temporal expectations are supported")
  require (isMidnight request.targetStart)
    (.projection "unaligned-target" "target_start must align to a UTC midnight bucket boundary")
  require (request.assetId.isNone || metric.supportsAssetScope)
    (.projection "unsupported-scope" "the selected temporal metric supports site scope only")
  let latestClosedBucketEnd := (utcDailyBucket request.generatedAt).1
  require (request.targetStart ≤ latestClosedBucketEnd)
    (.projection "future-target" "temporal expectation target cannot begin after the current UTC bucket")
  let historyStart := request.targetStart - historyBuckets * day
  let history ← projection
    { metricKey := request.metricKey, siteId := request.siteId, start := historyStart, finish := request.targetStart,
      assetId := request.assetId, generatedAt := request.targetStart, knowledgeCutoff := some request.targetStart }
  require (history.signals.all fun signal =>
      signal.bucketEnd ≤ request.targetStart && signal.bucketEnd ≤ latestClosedBucketEnd)
    (.projection "open-history-bucket" "expected-range history must contain closed UTC buckets only")
  let historyDigest ← temporalHistoryDigest hashing history.signals
  let usable := history.signals.filter fun signal => signal.dataQuality = .observed && signal.value.isSome
  let some policy := expectationPolicies.lookup request.metricKey
    | throw (.value "KeyError")
  let (method, sample) := methodSample policy usable request.targetStart
  let range ← expectedRangeOf usable sample method
  let expectationId ← temporalExpectationId hashing request.metricKey request.siteId request.targetStart
    (request.targetStart + day) historyStart request.targetStart method metric.projectionVersion historyDigest
  TemporalExpectation.construct
    (expectationOf metric request history.signals historyDigest expectationId method sample.length range)

end

end OpenAssetWatch.Temporal
