import OpenAssetWatch.Temporal.PersistenceExists
import OpenAssetWatch.Temporal.Range

namespace OpenAssetWatch.Temporal

open Library OpenAssetWatch.Text

/-- A bucket as the queries of the store make it: a complete bucket has an observation watermark, a bucket without coverage
    has an event, and a count is a BIGINT. -/
structure ProjectionAggregate.IsReturned (aggregate : ProjectionAggregate) : Prop where
  watermark : aggregate.complete = true → aggregate.sourceObservedAt.isSome = true
  event : aggregate.coverageObserved = false → 1 ≤ aggregate.evidenceCount
  bigint : aggregate.value < 2 ^ 63

/-- A store that answers every query with such buckets, one for each time. -/
def TemporalProjectionStore.Answers (store : TemporalProjectionStore) : Prop :=
  ∀ query, ∃ sources, store query = .ok sources ∧ (sources.map Prod.fst).Nodup ∧ ∀ entry ∈ sources, entry.2.IsReturned

/-- A site id that the contracts admit. -/
def IsSiteId (siteId : String) : Prop := isLength 1 128 siteId = true ∧ isSitePattern siteId = true

/-- Every check of a contract passes. -/
def TemporalSignal.IsValid (signal : TemporalSignal) : Prop :=
  ∀ check ∈ signal.fieldChecks ++ signal.validateBucketAndQuality, check.1 = true

def TemporalSignalSeriesResponse.IsValid (series : TemporalSignalSeriesResponse) : Prop :=
  ∀ check ∈ series.fieldChecks ++ series.validateSeriesConsistency, check.1 = true

def TemporalExpectation.IsValid (expectation : TemporalExpectation) : Prop :=
  ∀ check ∈ expectation.fieldChecks ++ expectation.validateExpectationConsistency, check.1 = true

def TemporalDeviationAssessment.IsValid (assessment : TemporalDeviationAssessment) : Prop :=
  ∀ check ∈ assessment.fieldChecks ++ assessment.validateDeviationConsistency, check.1 = true

theorem TemporalSignal.construct_eq_ok {signal : TemporalSignal} (valid : signal.IsValid) : signal.construct = .ok signal :=
  bind_eq_ok.mpr ⟨(), ensure_eq_ok.mpr valid, rfl⟩

theorem TemporalSignalSeriesResponse.construct_eq_ok {series : TemporalSignalSeriesResponse} (valid : series.IsValid) :
    series.construct = .ok series :=
  bind_eq_ok.mpr ⟨(), ensure_eq_ok.mpr valid, rfl⟩

theorem TemporalExpectation.construct_eq_ok {expectation : TemporalExpectation} (valid : expectation.IsValid) :
    expectation.construct = .ok expectation :=
  bind_eq_ok.mpr ⟨(), ensure_eq_ok.mpr valid, rfl⟩

/-- The texts of a governed metric fit the contracts. -/
structure TemporalMetricDefinition.Fits (metric : TemporalMetricDefinition) : Prop where
  metricKey : isLength 1 120 metric.metricKey = true
  unit : isLength 1 40 metric.unit = true
  source : isLength 1 160 metric.sourceAuthority = true
  version : isLength 1 32 metric.projectionVersion = true
  missing : metric.missingBucketDiffersFromZero = true
  scope : metric.supportsAssetScope = false

theorem temporalMetrics_fit : ∀ metric ∈ temporalMetrics, metric.Fits := by
  simp only [temporalMetrics, List.forall_mem_cons]
  refine ⟨?_, ?_, ?_, ?_, ?_, ?_, List.forall_mem_nil _⟩
  all_goals constructor <;> decide +kernel

theorem temporalMetric_spec {metricKey : String} {metric : TemporalMetricDefinition}
    (found : temporalMetric metricKey = some metric) : metric.Fits ∧ metric.metricKey = metricKey :=
  ⟨temporalMetrics_fit metric (List.mem_of_find?_eq_some found), by simpa using List.find?_some found⟩

section Signals

variable {hashing : Hashing} {metric : TemporalMetricDefinition} {siteId : String} {bucketStart generatedAt : Time}
  {aggregate : ProjectionAggregate}

theorem isMidnight_add_day {t : Time} (aligned : isMidnight t = true) (n : ℤ) : isMidnight (t + n * day) = true := by
  rw [isMidnight, decide_eq_true_iff] at aligned ⊢
  rw [Int.add_mul_emod_self_right, aligned]

variable (metric) in
theorem shownValue_cases (returned : aggregate.IsReturned) :
    shownValue metric aggregate = none ∧ aggregate.complete = false ∧ aggregate.evidenceCount = 0 ∧
        aggregate.coverageObserved = true ∨
      shownValue metric aggregate = some aggregate.value := by
  rw [shownValue]
  split
  · rename_i empty
    obtain ⟨-, incomplete, -, unevidenced⟩ := empty
    left
    refine ⟨rfl, incomplete, unevidenced, ?_⟩
    by_contra uncovered
    have := returned.event (Bool.eq_false_iff.mpr uncovered)
    omega
  · exact .inr rfl

theorem signalOf_valid (hex : hashing.IsHex) (fits : metric.Fits) (site : IsSiteId siteId) (aligned : isMidnight bucketStart = true)
    (aggregate : Option ProjectionAggregate) (returned : ∀ found ∈ aggregate, found.IsReturned) (generatedAt : Time) :
    (signalOf hashing metric siteId bucketStart (bucketStart + day) aggregate generatedAt).IsValid := by
  have id := isHexId_take hex "sig_"
  have next : isMidnight (bucketStart + day) = true := by simpa using isMidnight_add_day aligned 1
  have positive : (0 : Int) < day := by decide
  obtain ⟨length, pattern⟩ := site
  cases aggregate with
  | none =>
    simp [TemporalSignal.IsValid, TemporalSignal.fieldChecks, TemporalSignal.validateBucketAndQuality, signalOf,
      temporalSignalId, isSignalId, id, fits.metricKey, fits.unit, fits.source, fits.version, length, pattern, aligned, next,
      isOptionalLength, positive, TemporalSignal.isReceivedLate, backfillStateOf]
    split <;> simp
  | some aggregate =>
    have returned := returned aggregate rfl
    have late : (backfillStateOf (bucketStart + day) generatedAt aggregate.sourceReceivedAt = .lateArriving) ↔
        (aggregate.sourceReceivedAt.any fun received => bucketStart + day < received) = true := by
      rw [backfillStateOf]
      split
      · rename_i after
        exact iff_of_true rfl after
      · rename_i before
        split <;> exact iff_of_false (by simp) before
    have fresh : aggregate.complete = true →
        freshnessOf metric (bucketStart + day) aggregate.sourceObservedAt ≠ .unknown := by
      intro complete
      obtain ⟨observed, present⟩ := Option.isSome_iff_exists.mp (returned.watermark complete)
      rw [present, freshnessOf]
      split <;> simp
    have watermark := returned.watermark
    generalize hfresh : freshnessOf metric (bucketStart + day) aggregate.sourceObservedAt = freshness at fresh
    rcases shownValue_cases metric returned with ⟨empty, incomplete, unevidenced, covered⟩ | shown
    · simp [TemporalSignal.IsValid, TemporalSignal.fieldChecks, TemporalSignal.validateBucketAndQuality, signalOf,
        temporalSignalId, isSignalId, id, fits.metricKey, fits.unit, fits.source, fits.version, length, pattern, aligned, next,
        isOptionalLength, positive, TemporalSignal.isReceivedLate, empty, incomplete, unevidenced, covered, qualityOf, late]
    · simp [TemporalSignal.IsValid, TemporalSignal.fieldChecks, TemporalSignal.validateBucketAndQuality, signalOf,
        temporalSignalId, isSignalId, id, fits.metricKey, fits.unit, fits.source, fits.version, length, pattern, aligned, next,
        isOptionalLength, positive, TemporalSignal.isReceivedLate, shown, qualityOf, late, hfresh]
      cases complete : aggregate.complete with
      | false => simp
      | true =>
        have observed := watermark complete
        have known := fresh complete
        cases freshness <;> simp_all

variable (hashing metric siteId bucketStart generatedAt) in
theorem signalOf_start (aggregate : Option ProjectionAggregate) (finish : Time) :
    (signalOf hashing metric siteId bucketStart finish aggregate generatedAt).bucketStart = bucketStart ∧
      (signalOf hashing metric siteId bucketStart finish aggregate generatedAt).bucketEnd = finish := by
  cases aggregate <;> exact ⟨rfl, rfl⟩

variable (hashing metric siteId bucketStart generatedAt) in
theorem signalOf_scope (aggregate : Option ProjectionAggregate) (finish : Time) :
    (signalOf hashing metric siteId bucketStart finish aggregate generatedAt).metricKey = metric.metricKey ∧
      (signalOf hashing metric siteId bucketStart finish aggregate generatedAt).siteId = siteId ∧
      (signalOf hashing metric siteId bucketStart finish aggregate generatedAt).tenantId = none ∧
      (signalOf hashing metric siteId bucketStart finish aggregate generatedAt).assetId = none := by
  cases aggregate <;> exact ⟨rfl, rfl, rfl, rfl⟩

theorem signalOf_value {aggregate : Option ProjectionAggregate} (returned : ∀ found ∈ aggregate, found.IsReturned)
    {finish : Time} {value : ℚ}
    (shown : (signalOf hashing metric siteId bucketStart finish aggregate generatedAt).value = some value) :
    ∃ count : ℕ, value = count ∧ count < 2 ^ 63 := by
  cases aggregate with
  | none => cases shown
  | some aggregate =>
    have bigint := (returned aggregate rfl).bigint
    simp only [signalOf, shownValue] at shown
    split at shown
    · cases shown
    · exact ⟨aggregate.value, (Option.some.inj shown).symm, bigint⟩

end Signals

section Series

variable {hashing : Hashing} {store : TemporalProjectionStore} {metric : TemporalMetricDefinition} {siteId metricKey : String}
  {start generatedAt : Time} {cutoff : Option Time}

theorem iterDailyBuckets_eq (start : Time) (n : ℕ) :
    iterDailyBuckets start (start + n * day) = (List.range n).map fun (i : Nat) => start + i * day := by
  have count : ((start + n * day - start + day - 1) / day).toNat = n := by
    rw [show start + n * day - start + day - 1 = (day - 1) + n * day by ring, Int.add_mul_ediv_right _ _ (by decide),
      show (day - 1) / day = 0 from by decide, zero_add, Int.toNat_natCast]
  rw [iterDailyBuckets, count]

theorem lookup_eq_none {entries : List (Time × ProjectionAggregate)} {t : Time} (absent : t ∉ entries.map Prod.fst) :
    entries.lookup t = none := by
  rw [List.lookup_eq_none_iff]
  intro entry member
  rw [bne_iff_ne]
  rintro rfl
  exact absent (List.mem_map_of_mem member)

theorem foldlM_window (start finish : Time) (sources found : List (Time × ProjectionAggregate))
    (apart : (found.map Prod.fst ++ sources.map Prod.fst).Nodup) :
    sources.foldlM (fun found entry =>
      if !isWithin start finish entry.1 then .ok found
      else if (found.lookup entry.1).isSome then
        .error (.projection "duplicate-source-bucket" "temporal source returned duplicate normalized buckets")
      else .ok (found ++ [entry])) found =
    (.ok (found ++ sources.filter fun entry => isWithin start finish entry.1) : Except Failure _) := by
  induction sources generalizing found with
  | nil =>
    rw [List.filter_nil, List.append_nil]
    rfl
  | cons entry rest ih =>
    rw [List.foldlM_cons]
    rw [List.map_cons] at apart
    rw [List.filter_cons]
    cases inside : isWithin start finish entry.1 with
    | true =>
      have fresh : found.lookup entry.1 = none := by
        apply lookup_eq_none
        intro member
        exact (List.nodup_append.mp apart).2.2 _ member _ List.mem_cons_self rfl
      rw [fresh, if_pos rfl]
      show List.foldlM _ (found ++ [entry]) rest = _
      rw [ih (found ++ [entry]) (by rwa [List.map_append, List.append_assoc]), List.append_assoc]
      rfl
    | false =>
      rw [if_neg Bool.false_ne_true]
      apply ih found
      exact apart.sublist (List.Sublist.append_left (List.sublist_cons_self _ _) _)

theorem normalizedSources_eq (start finish : Time) {sources : List (Time × ProjectionAggregate)}
    (distinct : (sources.map Prod.fst).Nodup) :
    normalizedSources start finish sources =
      .ok (sources.filter fun entry => isWithin start finish entry.1) :=
  foldlM_window start finish sources [] distinct

/-- The signals of a window of `n` days. -/
def windowSignals (hashing : Hashing) (metric : TemporalMetricDefinition) (siteId : String) (start : Time)
    (sources : List (Time × ProjectionAggregate)) (generatedAt : Time) (n : ℕ) : List TemporalSignal :=
  (List.range n).map fun (i : Nat) => signalOf hashing metric siteId (start + i * day) (start + i * day + day)
    (sources.lookup (start + i * day)) generatedAt

theorem lookup_returned {sources : List (Time × ProjectionAggregate)} (returned : ∀ entry ∈ sources, entry.2.IsReturned)
    (t : Time) : ∀ found ∈ sources.lookup t, found.IsReturned := by
  intro found here
  obtain ⟨before, after, split, -⟩ := List.lookup_eq_some_iff.mp here
  exact returned (t, found) (by rw [split]; simp)

theorem signalChecks_window {series : TemporalSignalSeriesResponse} {sources : List (Time × ProjectionAggregate)}
    (metricKey : metric.metricKey = series.metric.metricKey) (site : siteId = series.siteId) (tenant : series.tenantId = none)
    (asset : series.assetId = none) (n k : ℕ) (finish : series.finish = start + (k + n : ℕ) * day) :
    ∀ check ∈ series.signalChecks (start + k * day) ((List.range' k n).map fun (i : Nat) =>
      signalOf hashing metric siteId (start + i * day) (start + i * day + day) (sources.lookup (start + i * day)) generatedAt),
      check.1 = true := by
  induction n generalizing k with
  | zero => simp [TemporalSignalSeriesResponse.signalChecks, finish]
  | succ n ih =>
    rw [List.range'_succ, List.map_cons, TemporalSignalSeriesResponse.signalChecks]
    simp only [List.forall_mem_append, List.forall_mem_cons]
    obtain ⟨begins, ends⟩ := signalOf_start hashing metric siteId (start + k * day) generatedAt
      (sources.lookup (start + k * day)) (start + k * day + day)
    obtain ⟨key, own, untenanted, unscoped⟩ := signalOf_scope hashing metric siteId (start + k * day) generatedAt
      (sources.lookup (start + k * day)) (start + k * day + day)
    rw [begins, ends, key, own, untenanted, unscoped]
    refine ⟨⟨by simp [metricKey], by simp [site, tenant], by simp [asset], by simp, List.forall_mem_nil _⟩, ?_⟩
    rw [show start + k * day + day = start + (k + 1 : ℕ) * day by push_cast; ring]
    exact ih (k + 1) (by rw [finish]; push_cast; ring)

/-- The series of a window of `n` days. -/
def windowSeries (hashing : Hashing) (metric : TemporalMetricDefinition) (siteId : String) (start : Time)
    (sources : List (Time × ProjectionAggregate)) (generatedAt : Time) (n : ℕ) : TemporalSignalSeriesResponse where
  metric := metric
  tenantId := none
  siteId := siteId
  assetId := none
  start := start
  finish := start + n * day
  generatedAt := generatedAt
  bucketCount := n
  missingBucketCount := (windowSignals hashing metric siteId start sources generatedAt n).countP (·.dataQuality = .missing)
  incompleteBucketCount := (windowSignals hashing metric siteId start sources generatedAt n).countP (!·.complete)
  signals := windowSignals hashing metric siteId start sources generatedAt n

theorem length_windowSignals (sources : List (Time × ProjectionAggregate)) (n : ℕ) :
    (windowSignals hashing metric siteId start sources generatedAt n).length = n := by
  rw [windowSignals, List.length_map, List.length_range]

theorem windowSeries_valid (site : IsSiteId siteId) (sources : List (Time × ProjectionAggregate)) {n : ℕ} (positive : 1 ≤ n)
    (few : n ≤ maxTemporalBuckets) : (windowSeries hashing metric siteId start sources generatedAt n).IsValid := by
  have length : (windowSignals hashing metric siteId start sources generatedAt n).length = n := length_windowSignals sources n
  have counted (property : TemporalSignal → Bool) :
      (windowSignals hashing metric siteId start sources generatedAt n).countP property ≤ maxTemporalBuckets := by
    have fewer : (windowSignals hashing metric siteId start sources generatedAt n).countP property ≤
        (windowSignals hashing metric siteId start sources generatedAt n).length := List.countP_le_length
    exact (length ▸ fewer).trans few
  have checked : ∀ check ∈ (windowSeries hashing metric siteId start sources generatedAt n).signalChecks (start + (0 : ℕ) * day)
      ((List.range' 0 n).map fun (i : Nat) => signalOf hashing metric siteId (start + i * day) (start + i * day + day)
        (sources.lookup (start + i * day)) generatedAt), check.1 = true := by
    apply signalChecks_window rfl rfl rfl rfl n 0
    rw [Nat.zero_add]
    rfl
  have after : start < start + n * day := lt_add_of_pos_right start (mul_pos (by exact_mod_cast positive) (by decide))
  obtain ⟨bounded, pattern⟩ := site
  simp only [TemporalSignalSeriesResponse.IsValid, TemporalSignalSeriesResponse.fieldChecks,
    TemporalSignalSeriesResponse.validateSeriesConsistency, List.forall_mem_append, List.forall_mem_cons]
  rw [Nat.cast_zero, zero_mul, add_zero, ← List.range_eq_range'] at checked
  refine ⟨?_, ?_, checked⟩
  · simp [windowSeries, isOptionalLength, bounded, pattern, positive, few, length, counted]
  · simp [windowSeries, after, length]

theorem windowSignals_valid (hex : hashing.IsHex) (fits : metric.Fits) (site : IsSiteId siteId) (aligned : isMidnight start = true)
    {sources : List (Time × ProjectionAggregate)} (returned : ∀ entry ∈ sources, entry.2.IsReturned) {n : ℕ}
    {signal : TemporalSignal} (member : signal ∈ windowSignals hashing metric siteId start sources generatedAt n) :
    signal.IsValid := by
  obtain ⟨i, -, rfl⟩ := List.mem_map.mp member
  exact signalOf_valid hex fits site (isMidnight_add_day aligned i) _ (lookup_returned returned _) generatedAt

theorem series_constructible (hex : hashing.IsHex) (answers : store.Answers) (governed : temporalMetric metricKey = some metric)
    (site : IsSiteId siteId) (aligned : isMidnight start = true) {n : ℕ} (positive : 1 ≤ n) (few : n ≤ maxTemporalBuckets)
    (known : ∀ limit ∈ cutoff, start + n * day ≤ limit) (closed : start + n * day ≤ (utcDailyBucket generatedAt).2) :
    ∃ sources, (∀ entry ∈ sources, entry.2.IsReturned) ∧
      store.series hashing
          { metricKey := metricKey, siteId := siteId, start := start, finish := start + n * day, generatedAt := generatedAt,
            knowledgeCutoff := cutoff } =
        .ok (windowSeries hashing metric siteId start sources generatedAt n) := by
  obtain ⟨fits, named⟩ := temporalMetric_spec governed
  obtain ⟨sources, answered, distinct, returned⟩ := answers ⟨metric, siteId, start, start + n * day, cutoff⟩
  have kept : ∀ entry ∈ sources.filter fun entry => isWithin start (start + n * day) entry.1, entry.2.IsReturned :=
    fun entry member => returned entry (List.mem_of_mem_filter member)
  have after : start < start + n * day := lt_add_of_pos_right start (mul_pos (by exact_mod_cast positive) (by decide))
  have window : validateTemporalWindow start (start + n * day) "daily" = .ok n := by
    have count : ((start + n * day - start) / day).toNat = n := by
      rw [add_sub_cancel_left, Int.mul_ediv_cancel _ (by decide), Int.toNat_natCast]
    simp only [validateTemporalWindow, require_bind_eq_ok, aligned, isMidnight_add_day aligned, after, count, few, decide_true,
      true_and]
    rfl
  have signals : (iterDailyBuckets start (start + n * day)).mapM (fun bucketStart =>
      (signalOf hashing metric siteId bucketStart (bucketStart + day)
        ((sources.filter fun entry => isWithin start (start + n * day) entry.1).lookup bucketStart) generatedAt).construct) =
      .ok (windowSignals hashing metric siteId start
        (sources.filter fun entry => isWithin start (start + n * day) entry.1) generatedAt n) := by
    rw [mapM_eq_ok, iterDailyBuckets_eq, windowSignals, List.forall₂_map_left_iff, List.forall₂_map_right_iff,
      List.forall₂_same]
    intro i _
    apply TemporalSignal.construct_eq_ok
    exact signalOf_valid hex fits site (isMidnight_add_day aligned i) _ (lookup_returned kept _) generatedAt
  refine ⟨_, kept, ?_⟩
  simp only [TemporalProjectionStore.series, governed, require_bind_eq_ok]
  refine ⟨site.2, rfl, bind_eq_ok.mpr ⟨n, window, ?_⟩⟩
  refine require_bind_eq_ok.mpr ⟨?_, require_bind_eq_ok.mpr ⟨decide_eq_true closed, bind_eq_ok.mpr ⟨sources, answered, ?_⟩⟩⟩
  · rw [Option.all_eq_true]
    exact fun limit member => decide_eq_true (known limit member)
  · refine bind_eq_ok.mpr ⟨_, normalizedSources_eq start (start + n * day) distinct, bind_eq_ok.mpr ⟨_, signals, ?_⟩⟩
    exact TemporalSignalSeriesResponse.construct_eq_ok (windowSeries_valid site _ positive few)

end Series

section Expectations

variable {hashing : Hashing} {store : TemporalProjectionStore} {metric : TemporalMetricDefinition} {siteId metricKey : String}
  {targetStart generatedAt : Time}

theorem countP_quality (signals : List TemporalSignal) :
    signals.countP (·.dataQuality = .observed) + signals.countP (·.dataQuality = .missing) +
      signals.countP (·.dataQuality = .incomplete) + signals.countP (·.dataQuality = .stale) = signals.length := by
  induction signals with
  | nil => rfl
  | cons signal rest ih =>
    simp only [List.countP_cons, List.length_cons]
    cases signal.dataQuality <;> simp <;> omega

/-- A range as the service makes it: none at all, or an ordered one of floats that a contract admits. -/
inductive ExpectedRange.IsMade (range : ExpectedRange) : Prop where
  | blocked (made : range = ⟨none, none, none, .insufficient, .none, some .insufficientUsableHistory⟩)
  | populated (expected lower upper : ℚ) (dataQuality : ExpectationDataQuality) (confidence : ExpectationConfidence)
      (made : range = ⟨some expected, some lower, some upper, dataQuality, confidence, none⟩)
      (expectedIn : InRange expected) (lowerIn : InRange lower) (upperIn : InRange upper)
      (below : lower ≤ expected) (above : expected ≤ upper)
      (sufficient : dataQuality ≠ .insufficient) (trusted : confidence ≠ .none)

theorem qualityAndConfidence_populated (usable sample : ℕ) (method : ExpectationMethod) :
    (qualityAndConfidence usable sample method).1 ≠ .insufficient ∧ (qualityAndConfidence usable sample method).2 ≠ .none := by
  simp only [qualityAndConfidence]
  split_ifs <;> exact ⟨by simp, by simp⟩

theorem expectedRangeOf_made (usable : List TemporalSignal) {sample : List TemporalSignal} (method : ExpectationMethod)
    (counts : ∀ signal ∈ sample, ∃ count : ℕ, signal.value = some (count : ℚ) ∧ count < 2 ^ 63) :
    ∃ range, expectedRangeOf usable sample method = .ok range ∧ range.IsMade := by
  simp only [expectedRangeOf]
  by_cases few : sample.length < if method = .seasonalRobustBaseline then 4 else 7
  · rw [if_pos few]
    exact ⟨_, rfl, .blocked rfl⟩
  · rw [if_neg few]
    have values : ∀ value ∈ sample.filterMap (·.value), ∃ count : ℕ, value = (count : ℚ) ∧ count < 2 ^ 63 := by
      intro value member
      obtain ⟨signal, listed, shown⟩ := List.mem_filterMap.mp member
      obtain ⟨count, counted, small⟩ := counts signal listed
      rw [counted] at shown
      exact ⟨count, (Option.some.inj shown).symm, small⟩
    have nonempty : sample.filterMap (·.value) ≠ [] := by
      cases sample with
      | nil =>
        apply absurd _ few
        split <;> simp
      | cons signal rest =>
        obtain ⟨count, counted, -⟩ := counts signal List.mem_cons_self
        rw [List.filterMap_cons, counted]
        exact List.cons_ne_nil _ _
    obtain ⟨expected, lower, upper, ranged, expectedIn, lowerIn, upperIn, below, above⟩ := robustExpectedRange_eq nonempty values
    obtain ⟨sufficient, trusted⟩ := qualityAndConfidence_populated usable.length sample.length method
    rw [ranged]
    exact ⟨_, rfl, .populated expected lower upper _ _ rfl expectedIn lowerIn upperIn below above sufficient trusted⟩

theorem methodSample_sub (policy : PrimaryMethod) (usable : List TemporalSignal) (targetStart : Time) :
    (methodSample policy usable targetStart).2.Sublist usable := by
  simp only [methodSample]
  split <;> exact List.filter_sublist

theorem expectationPolicies_cover : ∀ metric ∈ temporalMetrics, (expectationPolicies.lookup metric.metricKey).isSome = true := by
  decide +kernel

theorem isFloatField_of_inRange {x : ℚ} (range : InRange x) : isFloatField (some x) = true := by
  simp [isFloatField, range.nonneg, range.isFinite]

/-- What an expectation of the service says of itself and of its target. -/
structure ExpectationOf (hashing : Hashing) (metric : TemporalMetricDefinition) (siteId : String) (targetStart : Time)
    (expectation : TemporalExpectation) : Prop where
  valid : expectation.IsValid
  metricKey : expectation.metricKey = metric.metricKey
  siteId : expectation.siteId = siteId
  assetId : expectation.assetId = none
  tenantId : expectation.tenantId = none
  start : expectation.targetBucketStart = targetStart
  finish : expectation.targetBucketEnd = targetStart + day
  cutoff : expectation.knowledgeCutoff = targetStart
  unit : expectation.unit = metric.unit
  version : expectation.projectionVersion = metric.projectionVersion
  id : temporalExpectationId hashing expectation.metricKey expectation.siteId expectation.targetBucketStart
    expectation.targetBucketEnd expectation.historyStart expectation.historyEnd expectation.method
    expectation.projectionVersion expectation.historyDigest = .ok expectation.expectationId
  range : ExpectedRange.IsMade ⟨expectation.expected, expectation.lower, expectation.upper, expectation.dataQuality,
    expectation.confidence, expectation.blockedReason⟩

theorem rangeChecks_made (expectation : TemporalExpectation)
    (made : ExpectedRange.IsMade ⟨expectation.expected, expectation.lower, expectation.upper, expectation.dataQuality,
      expectation.confidence, expectation.blockedReason⟩) :
    (∀ check ∈ expectation.rangeChecks, check.1 = true) ∧ isFloatField expectation.expected = true ∧
      isFloatField expectation.lower = true ∧ isFloatField expectation.upper = true := by
  rcases made with made | ⟨expected, lower, upper, dataQuality, confidence, made, expectedIn, lowerIn, upperIn, below, above,
    sufficient, trusted⟩
  · simp only [ExpectedRange.mk.injEq] at made
    obtain ⟨hexpected, hlower, hupper, hquality, hconfidence, hreason⟩ := made
    simp [TemporalExpectation.rangeChecks, hexpected, hlower, hupper, hquality, hconfidence, hreason, isFloatField]
  · simp only [ExpectedRange.mk.injEq] at made
    obtain ⟨hexpected, hlower, hupper, hquality, hconfidence, hreason⟩ := made
    rw [hexpected, hlower, hupper]
    refine ⟨?_, isFloatField_of_inRange expectedIn, isFloatField_of_inRange lowerIn, isFloatField_of_inRange upperIn⟩
    simp [TemporalExpectation.rangeChecks, hexpected, hlower, hupper, hquality, hconfidence, hreason, below, above, sufficient,
      trusted]

variable (metricKey) in
theorem expectationId_exists (hex : hashing.IsHex) (siteId : String) (start finish historyStart historyEnd : Time)
    (method : ExpectationMethod) (version : String) {digest : String} (digested : isHistoryDigest digest = true) :
    ∃ id, temporalExpectationId hashing metricKey siteId start finish historyStart historyEnd method version digest = .ok id ∧
      isExpectationId id = true := by
  simp only [temporalExpectationId, require_bind_eq_ok]
  exact ⟨_, ⟨digested, rfl⟩, isHexId_take hex _ _⟩

theorem windowSignals_spec {start : Time} {sources : List (Time × ProjectionAggregate)}
    (returned : ∀ entry ∈ sources, entry.2.IsReturned) {n : ℕ} {signal : TemporalSignal}
    (member : signal ∈ windowSignals hashing metric siteId start sources generatedAt n) :
    signal.bucketEnd ≤ start + n * day ∧
      ∀ value, signal.value = some value → ∃ count : ℕ, value = (count : ℚ) ∧ count < 2 ^ 63 := by
  obtain ⟨i, within, rfl⟩ := List.mem_map.mp member
  constructor
  · rw [(signalOf_start hashing metric siteId _ generatedAt _ _).2, add_assoc, ← add_one_mul]
    have : ((i : Int) + 1) ≤ n := by exact_mod_cast List.mem_range.mp within
    exact Int.add_le_add_left (mul_le_mul_of_nonneg_right this (by decide)) start
  · exact fun value shown => signalOf_value (lookup_returned returned _) shown

theorem expectation_of_history {projection : SeriesRequest → Except Failure TemporalSignalSeriesResponse}
    {series : TemporalSignalSeriesResponse} (hex : hashing.IsHex) (governed : temporalMetric metricKey = some metric)
    (site : IsSiteId siteId) (aligned : isMidnight targetStart = true) (closed : targetStart ≤ (utcDailyBucket generatedAt).1)
    (answered : projection
      { metricKey := metricKey, siteId := siteId, start := targetStart - historyBuckets * day, finish := targetStart,
        generatedAt := targetStart, knowledgeCutoff := some targetStart } = .ok series)
    (length : series.signals.length = historyBuckets)
    (spec : ∀ signal ∈ series.signals, signal.bucketEnd ≤ targetStart ∧
      ∀ value, signal.value = some value → ∃ count : ℕ, value = (count : ℚ) ∧ count < 2 ^ 63) :
    ∃ made, expectation hashing projection
        { metricKey := metricKey, siteId := siteId, targetStart := targetStart, generatedAt := generatedAt } = .ok made ∧
      ExpectationOf hashing metric siteId targetStart made := by
  obtain ⟨fits, named⟩ := temporalMetric_spec governed
  have counted (property : TemporalSignal → Bool) : series.signals.countP property ≤ historyBuckets := by
    rw [← length]
    exact List.countP_le_length
  have classified := countP_quality series.signals
  rw [length] at classified
  generalize husable : (series.signals.filter fun signal => signal.dataQuality = .observed && signal.value.isSome) = usable
  have usableLe : usable.length ≤ series.signals.countP (·.dataQuality = .observed) := by
    rw [← husable, ← List.countP_eq_length_filter]
    apply List.countP_mono_left
    intro signal _ both
    exact (Bool.and_eq_true_iff.mp both).1
  obtain ⟨policy, known⟩ := Option.isSome_iff_exists.mp
    (expectationPolicies_cover metric (List.mem_of_find?_eq_some governed))
  rw [named] at known
  have sub := methodSample_sub policy usable targetStart
  obtain ⟨method, sample, hsample⟩ : ∃ method sample, methodSample policy usable targetStart = (method, sample) := ⟨_, _, rfl⟩
  rw [hsample] at sub
  obtain ⟨range, ranged, made⟩ : ∃ range, expectedRangeOf usable sample method = .ok range ∧ range.IsMade := by
    apply expectedRangeOf_made
    intro signal member
    have inUsable := sub.subset member
    rw [← husable, List.mem_filter, Bool.and_eq_true] at inUsable
    obtain ⟨value, shown⟩ := Option.isSome_iff_exists.mp inUsable.2.2
    obtain ⟨count, rfl, small⟩ := (spec signal inUsable.1).2 value shown
    exact ⟨count, shown, small⟩
  have digested := hex (hashing.dumps (.array ((series.signals.insertionSort (signalLe · ·)).map canonicalSignal)))
  obtain ⟨id, identified, formed⟩ := expectationId_exists metricKey hex siteId targetStart (targetStart + day)
    (targetStart - historyBuckets * day) targetStart method metric.projectionVersion digested
  have next : isMidnight (targetStart + day) = true := by simpa using isMidnight_add_day aligned 1
  have before : isMidnight (targetStart - historyBuckets * day) = true := by
    have := isMidnight_add_day aligned (-historyBuckets)
    rwa [neg_mul, ← sub_eq_add_neg] at this
  have within : (series.signals.all fun signal =>
      signal.bucketEnd ≤ targetStart && signal.bucketEnd ≤ (utcDailyBucket generatedAt).1) = true := by
    rw [List.all_eq_true]
    intro signal member
    have ends := (spec signal member).1
    rw [Bool.and_eq_true, decide_eq_true_eq, decide_eq_true_eq]
    exact ⟨ends, ends.trans closed⟩
  have history : temporalHistoryDigest hashing series.signals =
      .ok (canonicalDigest hashing (.array ((series.signals.insertionSort (signalLe · ·)).map canonicalSignal))) := by
    rw [temporalHistoryDigest, length]
    rfl
  have valid : (expectationOf metric
      { metricKey := metricKey, siteId := siteId, targetStart := targetStart, generatedAt := generatedAt } series.signals
      (canonicalDigest hashing (.array ((series.signals.insertionSort (signalLe · ·)).map canonicalSignal))) id method
      sample.length range).IsValid := by
    obtain ⟨bounded, pattern⟩ := site
    have key := fits.metricKey
    rw [named] at key
    obtain ⟨checks, expectedOk, lowerOk, upperOk⟩ := rangeChecks_made (expectationOf metric
      { metricKey := metricKey, siteId := siteId, targetStart := targetStart, generatedAt := generatedAt } series.signals
      (canonicalDigest hashing (.array ((series.signals.insertionSort (signalLe · ·)).map canonicalSignal))) id method
      sample.length range) made
    have sampled : sample.length ≤ series.signals.countP (·.dataQuality = .observed) := sub.length_le.trans usableLe
    have few : sample.length ≤ historyBuckets := sampled.trans (counted _)
    simp only [TemporalExpectation.IsValid, TemporalExpectation.validateExpectationConsistency, List.forall_mem_append,
      TemporalExpectation.fieldChecks, List.forall_mem_cons]
    refine ⟨?_, ?_, checks⟩
    · simp_all [expectationOf, isOptionalLength, canonicalDigest, fits.unit, fits.version]
    · simp_all [expectationOf]
  refine ⟨_, ?_, ⟨valid, named.symm, rfl, rfl, rfl, rfl, rfl, rfl, rfl, rfl, identified, made⟩⟩
  simp only [expectation, governed, require_bind_eq_ok]
  refine ⟨rfl, aligned, rfl, decide_eq_true closed, bind_eq_ok.mpr ⟨series, answered, ?_⟩⟩
  refine require_bind_eq_ok.mpr ⟨within, bind_eq_ok.mpr ⟨_, history, ?_⟩⟩
  simp only [known, husable, hsample]
  refine bind_eq_ok.mpr ⟨range, ranged, bind_eq_ok.mpr ⟨id, identified, ?_⟩⟩
  exact TemporalExpectation.construct_eq_ok valid

theorem expectation_constructible (hex : hashing.IsHex) (answers : store.Answers)
    (governed : temporalMetric metricKey = some metric) (site : IsSiteId siteId) (aligned : isMidnight targetStart = true)
    (closed : targetStart ≤ (utcDailyBucket generatedAt).1) :
    ∃ made, expectation hashing (store.series hashing)
        { metricKey := metricKey, siteId := siteId, targetStart := targetStart, generatedAt := generatedAt } = .ok made ∧
      ExpectationOf hashing metric siteId targetStart made := by
  have back : targetStart - historyBuckets * day + historyBuckets * day = targetStart := sub_add_cancel _ _
  have before : isMidnight (targetStart - historyBuckets * day) = true := by
    have := isMidnight_add_day aligned (-historyBuckets)
    rwa [neg_mul, ← sub_eq_add_neg] at this
  have own : (utcDailyBucket targetStart).2 = targetStart + day := by
    rw [isMidnight, decide_eq_true_iff] at aligned
    rw [utcDailyBucket, aligned, sub_zero]
  have known : ∀ limit ∈ some targetStart, targetStart - historyBuckets * day + historyBuckets * day ≤ limit := by
    rintro limit ⟨⟩
    exact back.le
  obtain ⟨sources, returned, series⟩ := series_constructible hex answers governed site before (by decide) (by decide) known
    (by rw [back, own]; exact (lt_add_of_pos_right _ (by decide)).le)
  rw [back] at series
  apply expectation_of_history hex governed site aligned closed series (length_windowSignals _ _)
  intro signal member
  have spec := windowSignals_spec returned member
  rwa [back] at spec

end Expectations

end OpenAssetWatch.Temporal
