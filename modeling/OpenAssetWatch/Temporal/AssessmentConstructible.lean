import OpenAssetWatch.Temporal.Constructible

namespace OpenAssetWatch.Temporal

open Library OpenAssetWatch.Text

section Floats

variable {x y : ℚ}

theorem float_le_power {place : ℤ} (above : -1074 ≤ place) (nonneg : 0 ≤ x) (le : x ≤ 2 ^ place) : float x ≤ 2 ^ place :=
  Format.nearest_le nonneg (binary_representable place above) le

theorem isFloatField_of_le (nonneg : 0 ≤ x) (le : x ≤ 2 ^ (87 : ℤ)) : isFloatField (some x) = true := by
  have finite : isFinite x = true := by
    rw [isFinite, decide_eq_true_iff, abs_of_nonneg nonneg]
    calc x ≤ (2 : ℚ) ^ 87 := by exact_mod_cast le
      _ < 2 ^ 1024 := pow_lt_pow_right₀ (by norm_num) (by norm_num)
  simp [isFloatField, nonneg, finite]

theorem isFloatField_distance {observed lower upper : ℚ} (nonneg : 0 ≤ observed) (le : observed ≤ 2 ^ (67 : ℤ))
    (lowerIn : InRange lower) (upperIn : InRange upper) : isFloatField (some (beyondRange observed lower upper).2) = true := by
  have larger : (2 : ℚ) ^ (67 : ℤ) ≤ 2 ^ (87 : ℤ) := by norm_num
  rw [beyondRange]
  split_ifs with under beyond
  · have positive : 0 ≤ lower - observed := by linarith
    exact isFloatField_of_le (Format.nearest_nonneg positive)
      ((float_le_power (by norm_num) positive (by linarith [lowerIn.le])).trans larger)
  · have positive : 0 ≤ observed - upper := by linarith
    exact isFloatField_of_le (Format.nearest_nonneg positive)
      ((float_le_power (by norm_num) positive (by linarith [upperIn.nonneg])).trans larger)
  · exact isFloatField_of_le le_rfl (by positivity)

theorem isFloatField_relativeChange {observed expected : ℚ} (nonneg : 0 ≤ observed) (le : observed ≤ 2 ^ (67 : ℤ))
    (expectedIn : InRange expected) (positive : expected ≠ 0) : isFloatField (some (relativeChangeOf observed expected)) = true := by
  have away : |float (observed - expected)| ≤ 2 ^ (67 : ℤ) := by
    rw [float, Format.abs_nearest, ← Format.nearest_of_nonneg (abs_nonneg _)]
    apply float_le_power (by norm_num) (abs_nonneg _)
    exact abs_le.mpr ⟨by linarith [expectedIn.le], by linarith [expectedIn.nonneg]⟩
  have apart := expectedIn.apart positive
  have ratio : |float (observed - expected)| / expected ≤ 2 ^ (87 : ℤ) := by
    rw [div_le_iff₀ (lt_of_lt_of_le (by positivity) apart)]
    calc |float (observed - expected)| ≤ 2 ^ (87 : ℤ) * 2 ^ (-20 : ℤ) := away.trans (by norm_num)
      _ ≤ 2 ^ (87 : ℤ) * expected := mul_le_mul_of_nonneg_left apart (by positivity)
  have quotient : 0 ≤ |float (observed - expected)| / expected := div_nonneg (abs_nonneg _) expectedIn.nonneg
  exact isFloatField_of_le (Format.nearest_nonneg quotient) (float_le_power (by norm_num) quotient ratio)

end Floats

section Assessments

variable {hashing : Hashing} {store : TemporalProjectionStore} {metric : TemporalMetricDefinition} {siteId metricKey : String}
  {targetStart generatedAt : Time} {inputs : AssessmentInputs} {policy : TemporalDeviationPolicy} {evaluation : Evaluation}

/-- What the service loads for a day. -/
structure LoadedFor (hashing : Hashing) (metric : TemporalMetricDefinition) (siteId : String) (targetStart : Time)
    (inputs : AssessmentInputs) : Prop where
  signal : inputs.observation.IsValid
  counted : ∀ value, inputs.observation.value = some value → ∃ count : ℕ, value = (count : ℚ) ∧ count < 2 ^ 63
  assetId : inputs.observation.assetId = none
  tenantId : inputs.observation.tenantId = none
  expectation : ExpectationOf hashing metric siteId targetStart inputs.expectation

/-- The texts of a policy fit the contracts, and one prior day is all it asks for. -/
structure TemporalDeviationPolicy.Fits (policy : TemporalDeviationPolicy) : Prop where
  admitted : policy.Admitted
  id : isLength 1 160 policy.policyId = true
  version : isLength 1 8 policy.policyVersion = true
  directions : policy.allowedDirections.length ≤ 2
  required : policy.requiredPersistenceBuckets ≤ 2

theorem temporalDeviationPolicies_fit : ∀ entry ∈ temporalDeviationPolicies, entry.2.Fits := by
  simp only [temporalDeviationPolicies, List.forall_mem_cons]
  refine ⟨?_, ?_, ?_, ?_, ?_, ?_, List.forall_mem_nil _⟩
  all_goals
    refine ⟨?_, by decide, by decide, by decide, by decide⟩
    constructor <;> decide

theorem policies_cover : ∀ metric ∈ temporalMetrics, (temporalDeviationPolicies.lookup metric.metricKey).isSome = true := by
  decide

theorem policy_exists (governed : temporalMetric metricKey = some metric) :
    ∃ policy, temporalDeviationPolicies.lookup metricKey = some policy ∧ policy.Fits := by
  obtain ⟨policy, known⟩ := Option.isSome_iff_exists.mp (policies_cover metric (List.mem_of_find?_eq_some governed))
  rw [(temporalMetric_spec governed).2] at known
  obtain ⟨before, after, split, -⟩ := List.lookup_eq_some_iff.mp known
  exact ⟨policy, known, temporalDeviationPolicies_fit (metricKey, policy) (by rw [split]; simp)⟩

variable (hashing metric siteId targetStart generatedAt) in
theorem signalOf_texts (aggregate : Option ProjectionAggregate) (finish : Time) :
    (signalOf hashing metric siteId targetStart finish aggregate generatedAt).signalId =
        temporalSignalId hashing metric.metricKey siteId none targetStart finish metric.projectionVersion ∧
      (signalOf hashing metric siteId targetStart finish aggregate generatedAt).unit = metric.unit ∧
      (signalOf hashing metric siteId targetStart finish aggregate generatedAt).projectionVersion = metric.projectionVersion := by
  cases aggregate <;> exact ⟨rfl, rfl, rfl⟩

theorem loadInputs_constructible (hex : hashing.IsHex) (answers : store.Answers)
    (governed : temporalMetric metricKey = some metric) (site : IsSiteId siteId) (aligned : isMidnight targetStart = true)
    (closed : targetStart ≤ (utcDailyBucket generatedAt).1) :
    ∃ inputs, (TemporalDeviationService.fromProjectionStore hashing store).loadInputs hashing metricKey siteId targetStart
        none generatedAt = .ok inputs ∧ LoadedFor hashing metric siteId targetStart inputs := by
  obtain ⟨fits, named⟩ := temporalMetric_spec governed
  have next : (utcDailyBucket (targetStart + day)).2 = targetStart + day + day := by
    have := isMidnight_add_day aligned 1
    rw [one_mul, isMidnight, decide_eq_true_iff] at this
    rw [utcDailyBucket, this, sub_zero]
  have known : ∀ limit ∈ some (targetStart + day), targetStart + (1 : ℕ) * day ≤ limit := by
    rintro limit ⟨⟩
    rw [Nat.cast_one, one_mul]
  have open_ : targetStart + (1 : ℕ) * day ≤ (utcDailyBucket (targetStart + day)).2 := by
    rw [next, Nat.cast_one, one_mul]
    exact (lt_add_of_pos_right _ (by decide)).le
  obtain ⟨sources, returned, series⟩ := series_constructible hex answers governed site aligned le_rfl (by decide) known open_
  rw [Nat.cast_one, one_mul] at series
  obtain ⟨made, expected, law⟩ := expectation_constructible hex answers governed site aligned closed
  have signals : windowSignals hashing metric siteId targetStart sources (targetStart + day) 1 =
      [signalOf hashing metric siteId targetStart (targetStart + day) (sources.lookup targetStart) (targetStart + day)] := by
    simp [windowSignals]
  obtain ⟨begins, ends⟩ := signalOf_start hashing metric siteId targetStart (targetStart + day) (sources.lookup targetStart)
    (targetStart + day)
  obtain ⟨key, own, untenanted, unscoped⟩ := signalOf_scope hashing metric siteId targetStart (targetStart + day)
    (sources.lookup targetStart) (targetStart + day)
  obtain ⟨id, unit, version⟩ := signalOf_texts hashing metric siteId targetStart (targetStart + day) (sources.lookup targetStart)
    (targetStart + day)
  refine ⟨⟨_, made⟩, ?_, ⟨signalOf_valid hex fits site aligned _ (lookup_returned returned _) (targetStart + day),
    fun value shown => signalOf_value (lookup_returned returned _) shown, unscoped, untenanted, law⟩⟩
  simp only [TemporalDeviationService.loadInputs]
  refine bind_eq_ok.mpr ⟨_, series, ?_⟩
  simp only [windowSeries, signals]
  refine require_bind_eq_ok.mpr ⟨rfl, bind_eq_ok.mpr ⟨made, expected, bind_eq_ok.mpr ⟨(), ?_, rfl⟩⟩⟩
  have identified := law.id
  simp only [law.metricKey, law.siteId, law.start, law.finish, law.version] at identified
  simp only [validateProvenance, begins, ends, key, own, untenanted, unscoped, id, unit, version, law.metricKey, law.siteId,
    law.assetId, law.tenantId, law.start, law.finish, law.unit, law.version, law.cutoff, named, decide_true, Bool.and_self,
    require_bind_eq_ok, true_and]
  rw [← named]
  exact bind_eq_ok.mpr ⟨_, identified, require_eq_ok.mpr (decide_eq_true rfl)⟩

theorem blockingReasons_sublist (observation : TemporalSignal) (expectation : TemporalExpectation) (policy : TemporalDeviationPolicy) :
    (blockingReasons observation expectation policy).Sublist [.targetObservationUnavailable, .targetObservationIncomplete,
      .targetObservationStale, .targetObservationUntrustedQuality, .expectationRangeUnavailable,
      .expectationQualityBelowPolicy, .expectationConfidenceBelowPolicy] := by
  rw [blockingReasons]
  exact List.filter_sublist.map _

/-- The evaluation of a day without supports. -/
inductive EvaluatesTo (policy : TemporalDeviationPolicy) (inputs : AssessmentInputs) : Evaluation → Prop where
  | blocked (blocked : blockingReasons inputs.observation inputs.expectation policy ≠ []) :
      EvaluatesTo policy inputs ⟨.blocked, .unknown, none, none, 0, false,
        blockingReasons inputs.observation inputs.expectation policy, []⟩
  | value (unblocked : Unblocked policy inputs) (value expected lower upper : ℚ) (ranged : Ranged inputs value expected lower upper)
      (state : DeviationAssessmentState) (persistence : ℕ) (reason : DeviationReasonCode)
      (law : state = .withinRange ∧ persistence = 0 ∧ reason = .withinExpectedRange ∧
          (beyondRange (float value) lower upper).1 = .inside ∨
        state = .outsidePolicyDirection ∧ persistence = 0 ∧ reason = .directionNotAdmitted ∧
          (beyondRange (float value) lower upper).1 ≠ .inside ∧
          (beyondRange (float value) lower upper).1.isAdmitted policy.allowedDirections = false ∨
        state = .candidate ∧ persistence = 1 ∧ reason = .deviationCandidate ∧ policy.requiredPersistenceBuckets ≤ 1 ∧
          (beyondRange (float value) lower upper).1.isAdmitted policy.allowedDirections = true ∨
        state = .pendingPersistence ∧ persistence = 1 ∧ reason = .persistenceRequirementNotMet ∧
          1 < policy.requiredPersistenceBuckets ∧
          (beyondRange (float value) lower upper).1.isAdmitted policy.allowedDirections = true) :
      EvaluatesTo policy inputs ⟨state, (beyondRange (float value) lower upper).1,
        some (beyondRange (float value) lower upper).2,
        if 0 < expected then some (relativeChangeOf (float value) expected) else none, persistence,
        decide (state = .candidate), [reason], []⟩

theorem evaluate_exists (policy : TemporalDeviationPolicy) (inputs : AssessmentInputs) :
    ∃ evaluation, evaluate inputs policy [] = .ok evaluation ∧ EvaluatesTo policy inputs evaluation := by
  by_cases blocked : blockingReasons inputs.observation inputs.expectation policy = []
  · have unblocked := blockingReasons_eq_nil.mp blocked
    obtain ⟨value, expected, lower, upper, ranged⟩ := unblocked.ranged
    simp only [evaluate, blocked, ranged.value, ranged.expected, ranged.lower, ranged.upper, ne_eq, not_true_eq_false, if_false,
      evaluateValue, List.any_nil, Bool.false_eq_true, List.length_nil, Nat.add_zero]
    split
    · rename_i inside
      exact ⟨_, rfl, .value unblocked value expected lower upper ranged .withinRange 0 .withinExpectedRange (.inl ⟨rfl, rfl, rfl, inside⟩)⟩
    · rename_i outside
      split
      · rename_i refused
        rw [Bool.not_eq_true'] at refused
        exact ⟨_, rfl, .value unblocked value expected lower upper ranged .outsidePolicyDirection 0 .directionNotAdmitted
          (.inr (.inl ⟨rfl, rfl, rfl, outside, refused⟩))⟩
      · rename_i admitted
        rw [Bool.not_eq_true', Bool.not_eq_false] at admitted
        split
        · rename_i enough
          exact ⟨_, rfl, .value unblocked value expected lower upper ranged .candidate 1 .deviationCandidate
            (.inr (.inr (.inl ⟨rfl, rfl, rfl, enough, admitted⟩)))⟩
        · rename_i short
          exact ⟨_, rfl, .value unblocked value expected lower upper ranged .pendingPersistence 1 .persistenceRequirementNotMet
            (.inr (.inr (.inr ⟨rfl, rfl, rfl, not_le.mp short, admitted⟩)))⟩
  · refine ⟨_, ?_, .blocked blocked⟩
    rw [evaluate, if_pos blocked]

theorem evaluation_floats (counted : ∀ value, inputs.observation.value = some value → ∃ count : ℕ, value = (count : ℚ) ∧ count < 2 ^ 63)
    (made : ExpectedRange.IsMade ⟨inputs.expectation.expected, inputs.expectation.lower, inputs.expectation.upper,
      inputs.expectation.dataQuality, inputs.expectation.confidence, inputs.expectation.blockedReason⟩)
    (evaluated : EvaluatesTo policy inputs evaluation) :
    isFloatField (inputs.observation.value.map float) = true ∧ isFloatField evaluation.distance = true ∧
      isFloatField evaluation.relativeChange = true := by
  have observed : ∀ value, inputs.observation.value = some value → 0 ≤ float value ∧ float value ≤ 2 ^ (67 : ℤ) := by
    intro value shown
    obtain ⟨count, rfl, small⟩ := counted value shown
    have nonneg : (0 : ℚ) ≤ count := Nat.cast_nonneg _
    refine ⟨Format.nearest_nonneg nonneg, float_le_power (by norm_num) nonneg ?_⟩
    calc (count : ℚ) ≤ 2 ^ 63 := by exact_mod_cast small.le
      _ ≤ 2 ^ (67 : ℤ) := by norm_num
  constructor
  · cases shown : inputs.observation.value with
    | none => rfl
    | some value =>
      obtain ⟨nonneg, le⟩ := observed value shown
      exact isFloatField_of_le nonneg (le.trans (by norm_num))
  · cases evaluated with
    | blocked => exact ⟨rfl, rfl⟩
    | value unblocked value expected lower upper ranged =>
      obtain ⟨nonneg, le⟩ := observed value ranged.value
      rw [ranged.expected, ranged.lower, ranged.upper] at made
      rcases made with made | ⟨expected, lower, upper, _, _, made, expectedIn, lowerIn, upperIn⟩
      · simp at made
      · simp only [ExpectedRange.mk.injEq, Option.some.injEq] at made
        obtain ⟨rfl, rfl, rfl, -⟩ := made
        refine ⟨isFloatField_distance nonneg le lowerIn upperIn, ?_⟩
        dsimp only
        split
        · rename_i positive
          exact isFloatField_relativeChange nonneg le expectedIn positive.ne'
        · rfl

theorem assemble_constructible (hex : hashing.IsHex) (fits : policy.Fits) (loaded : LoadedFor hashing metric siteId targetStart inputs)
    (evaluated : EvaluatesTo policy inputs evaluation) (generatedAt : Time) :
    ∃ assessment, assembleAssessment hashing inputs policy generatedAt evaluation = .ok assessment := by
  have supporting : evaluation.supporting = [] := by
    cases evaluated <;> rfl
  have none : ([] : List String).all isDeviationAssessmentId = true := rfl
  obtain ⟨inputDigest, digested, digest⟩ := inputDigest_exists policy hex inputs.expectation
    (hex (hashing.dumps (canonicalSignal inputs.observation))) none
  obtain ⟨assessmentId, identified, id⟩ := assessmentId_exists hex inputs.observation.metricKey inputs.observation.siteId
    inputs.observation.bucketStart inputs.observation.bucketEnd policy.policyVersion digest
  obtain ⟨observedOk, distanceOk, relativeOk⟩ := evaluation_floats loaded.counted loaded.expectation.range evaluated
  obtain ⟨-, expectedOk, lowerOk, upperOk⟩ := rangeChecks_made inputs.expectation loaded.expectation.range
  simp only [assembleAssessment, supporting, List.map_nil]
  refine ⟨_, bind_eq_ok.mpr ⟨inputDigest, digested, bind_eq_ok.mpr ⟨assessmentId, identified, construct_eq_ok.mpr ?_⟩⟩⟩
  have signal := loaded.signal
  simp only [TemporalSignal.IsValid, TemporalSignal.fieldChecks, TemporalSignal.validateBucketAndQuality,
    List.forall_mem_append, List.forall_mem_cons] at signal
  obtain ⟨⟨signalId, metricKey, -, siteId, -, -, unit, -⟩, after, span, midnights, valued, -, observed, -⟩ := signal
  have valid := loaded.expectation.valid
  simp only [TemporalExpectation.IsValid, TemporalExpectation.fieldChecks, List.forall_mem_append, List.forall_mem_cons] at valid
  obtain ⟨⟨expectationId, historyDigest, -⟩, -⟩ := valid
  have required := fits.required
  have least := fits.admitted.required_pos
  have directed := List.length_pos_of_ne_nil fits.admitted.directed
  have directions := fits.directions
  have persistence : evaluation.persistence ≤ 1 := by
    cases evaluated with
    | blocked => exact Nat.zero_le 1
    | value _ _ _ _ _ _ _ persistence _ law => rcases law with law | law | law | law <;> exact law.2.1.le.trans (by norm_num)
  rw [List.forall_mem_append, TemporalDeviationAssessment.validateDeviationConsistency, List.forall_mem_append]
  refine ⟨?_, ?_, ?_⟩
  · have reasons : 1 ≤ evaluation.reasons.length ∧ evaluation.reasons.length ≤ 8 := by
      cases evaluated with
      | blocked blocked =>
        exact ⟨List.length_pos_of_ne_nil blocked, (blockingReasons_sublist _ _ _).length_le.trans (by decide)⟩
      | value => exact ⟨le_rfl, Nat.succ_le_succ (Nat.zero_le 7)⟩
    simp only [TemporalDeviationAssessment.fieldChecks, List.forall_mem_cons]
    refine ⟨id, digest, metricKey, ?_, siteId, ?_, signalId, hex _, observedOk, unit, expectationId, historyDigest, expectedOk,
      lowerOk, upperOk, fits.id, fits.version, ?_, ?_, distanceOk, relativeOk, ?_, rfl, rfl, rfl, ?_, List.forall_mem_nil _⟩
    · rw [loaded.tenantId]
      rfl
    · rw [loaded.assetId]
      rfl
    · exact Bool.and_eq_true_iff.mpr ⟨decide_eq_true directed, decide_eq_true directions⟩
    · exact Bool.and_eq_true_iff.mpr ⟨decide_eq_true least, decide_eq_true (by omega)⟩
    · exact decide_eq_true (by omega)
    · exact Bool.and_eq_true_iff.mpr ⟨decide_eq_true reasons.1, decide_eq_true reasons.2⟩
  · rw [Bool.and_eq_true] at midnights
    have whole : inputs.expectation.expected.isSome = inputs.expectation.lower.isSome ∧
        inputs.expectation.lower.isSome = inputs.expectation.upper.isSome := by
      rcases loaded.expectation.range with made | ⟨_, _, _, _, _, made⟩
      all_goals
        simp only [ExpectedRange.mk.injEq] at made
        obtain ⟨hexpected, hlower, hupper, -⟩ := made
        rw [hexpected, hlower, hupper]
        exact ⟨rfl, rfl⟩
    simp only [TemporalDeviationAssessment.commonChecks, List.forall_mem_cons]
    refine ⟨span, ?_, rfl, decide_eq_true fits.admitted.distinct, ?_, ?_, ?_, List.forall_mem_nil _⟩
    · simp [midnights]
    · cases evaluated with
      | blocked => exact decide_eq_true ((blockingReasons_sublist _ _ _).nodup (by decide))
      | value => exact decide_eq_true (List.nodup_singleton _)
    · exact Bool.and_eq_true_iff.mpr ⟨decide_eq_true whole.1, decide_eq_true whole.2⟩
    · cases evaluated with
      | blocked => rfl
      | value _ _ _ _ _ _ _ _ _ law =>
        rcases law with ⟨rfl, -, rfl, -⟩ | ⟨rfl, -, rfl, -⟩ | ⟨rfl, -, rfl, -⟩ | ⟨rfl, -, rfl, -⟩ <;> rfl
  · cases evaluated with
    | blocked =>
      rw [if_pos rfl]
      simp only [TemporalDeviationAssessment.blockedChecks, List.forall_mem_cons]
      refine ⟨?_, rfl, rfl, rfl, rfl, List.forall_mem_nil _⟩
      rw [List.all_eq_true]
      intro reason member
      have listed := (blockingReasons_sublist _ _ _).subset member
      simp only [List.mem_cons, List.not_mem_nil, or_false] at listed
      rcases listed with rfl | rfl | rfl | rfl | rfl | rfl | rfl <;> rfl
    | value unblocked value expected lower upper ranged state persistence reason law =>
      have evaluated : state ≠ .blocked := by
        rcases law with ⟨rfl, -⟩ | ⟨rfl, -⟩ | ⟨rfl, -⟩ | ⟨rfl, -⟩ <;> simp
      have fresh : inputs.observation.freshness = .current := by
        rw [unblocked.observed] at observed
        simpa [unblocked.complete, unblocked.value] using observed
      have quality : inputs.expectation.dataQuality = .sufficient := unblocked.quality.trans fits.admitted.quality
      have confidence : inputs.expectation.confidence = .medium ∨ inputs.expectation.confidence = .high := by
        have rank := unblocked.confidence
        rw [fits.admitted.confidence] at rank
        cases trusted : inputs.expectation.confidence <;> simp_all [ExpectationConfidence.rank]
      have range := loaded.expectation.range
      rw [ranged.expected, ranged.lower, ranged.upper] at range
      obtain ⟨nonneg, below, above⟩ : 0 ≤ expected ∧ lower ≤ expected ∧ expected ≤ upper := by
        rcases range with made | ⟨_, _, _, _, _, made, expectedIn, -, -, below, above⟩
        · simp at made
        · simp only [ExpectedRange.mk.injEq, Option.some.injEq] at made
          obtain ⟨rfl, rfl, rfl, -⟩ := made
          exact ⟨expectedIn.nonneg, below, above⟩
      rw [if_neg evaluated]
      simp only [TemporalDeviationAssessment.evaluatedChecks, TemporalDeviationAssessment.valueChecks, ranged.value,
        ranged.expected, ranged.lower, ranged.upper, Option.map_some, List.forall_mem_append, List.forall_mem_cons]
      refine ⟨⟨⟨⟨⟨?_, List.forall_mem_nil _⟩, ?_, rfl, rfl, ?_, List.forall_mem_nil _⟩, ?_, ?_,
        List.forall_mem_nil _⟩, ?_⟩, ?_, List.forall_mem_nil _⟩
      · rcases law with ⟨rfl, -, rfl, -⟩ | ⟨rfl, -, rfl, -⟩ | ⟨rfl, -, rfl, -⟩ | ⟨rfl, -, rfl, -⟩ <;> rfl
      · exact Bool.and_eq_true_iff.mpr ⟨decide_eq_true below, decide_eq_true above⟩
      · by_cases zero : expected = 0
        · simp [zero]
        · simp [zero, lt_of_le_of_ne nonneg (Ne.symm zero)]
      · simp [unblocked.complete, fresh, unblocked.observed]
      · simp [quality, confidence]
      · rcases law with ⟨rfl, rfl, rfl, inside⟩ | ⟨rfl, rfl, rfl, outside, refused⟩ | ⟨rfl, rfl, rfl, enough, allowed⟩ |
          ⟨rfl, rfl, rfl, more, allowed⟩
        · simp [TemporalDeviationAssessment.stateChecks, inside]
        · simp [TemporalDeviationAssessment.stateChecks, outside, refused]
        · have exact : 1 = policy.requiredPersistenceBuckets := le_antisymm least enough
          simp [TemporalDeviationAssessment.stateChecks, allowed, ← exact]
        · simp [TemporalDeviationAssessment.stateChecks, allowed, more]
      · exact decide_eq_true (by rw [List.length_nil]; omega)

theorem firstAssessment_constructible (hex : hashing.IsHex) (answers : store.Answers)
    (governed : temporalMetric metricKey = some metric) (site : IsSiteId siteId) (aligned : isMidnight targetStart = true)
    (fits : policy.Fits) (request : ExpectationRequest) (asked : request.metricKey = metricKey ∧ request.siteId = siteId ∧
      request.assetId = none) (closed : targetStart ≤ (utcDailyBucket request.generatedAt).1) :
    ∃ first, (TemporalDeviationService.fromProjectionStore hashing store).firstAssessment hashing policy request targetStart =
      .ok first := by
  obtain ⟨rfl, rfl, scope⟩ := asked
  obtain ⟨inputs, loads, loaded⟩ := loadInputs_constructible hex answers governed site aligned closed
  obtain ⟨evaluation, evaluated, law⟩ := evaluate_exists policy inputs
  obtain ⟨assessment, assembled⟩ := assemble_constructible hex fits loaded law request.generatedAt
  refine ⟨assessment, bind_eq_ok.mpr ⟨inputs, ?_, ?_⟩⟩
  · rwa [scope]
  · exact require_bind_eq_ok.mpr ⟨decide_eq_true fits.admitted.required_pos, require_bind_eq_ok.mpr
      ⟨rfl, bind_eq_ok.mpr ⟨evaluation, evaluated, assembled⟩⟩⟩

theorem assessment_constructible (hex : hashing.IsHex) (answers : store.Answers)
    (governed : temporalMetric metricKey = some metric) (site : IsSiteId siteId) (aligned : isMidnight targetStart = true)
    (closed : targetStart < (utcDailyBucket generatedAt).1) :
    ∃ made, (TemporalDeviationService.fromProjectionStore hashing store).assessment hashing
        { metricKey := metricKey, siteId := siteId, targetStart := targetStart, generatedAt := generatedAt } = .ok made ∧
      made.IsValid := by
  obtain ⟨policy, known, fits⟩ := policy_exists governed
  obtain ⟨made, done⟩ : ∃ made, (TemporalDeviationService.fromProjectionStore hashing store).assessment hashing
      { metricKey := metricKey, siteId := siteId, targetStart := targetStart, generatedAt := generatedAt } = .ok made := by
    apply assessment_exists hex known fits.admitted governed
    · simp only [TemporalDeviationService.validateRequest, require_bind_eq_ok, require_eq_ok]
      exact ⟨rfl, rfl, aligned, decide_eq_true closed⟩
    · intro k below _
      have earlier := isMidnight_add_day aligned (-k)
      rw [neg_mul, ← sub_eq_add_neg] at earlier
      apply firstAssessment_constructible hex answers governed site earlier fits _ ⟨rfl, rfl, rfl⟩
      have back : 0 ≤ (k : Int) * day := mul_nonneg (Int.natCast_nonneg k) (by decide)
      exact (sub_le_self targetStart back).trans closed.le
    · have few := fits.required
      intro j jBelow k kBelow jLeast kLeast _ _ _ _ _
      omega
  refine ⟨made, done, ?_⟩
  obtain ⟨inputs, first, -, built, cases⟩ := assessment_cases known done
  have valid : ∀ {supporting : List TemporalDeviationAssessment} {assessment : TemporalDeviationAssessment},
      buildAssessment hashing inputs policy generatedAt supporting = .ok assessment → assessment.IsValid := by
    intro _ _ built
    obtain ⟨_, made, -⟩ := build_cases built
    exact ensure_eq_ok.mp made.valid
  rcases cases with ⟨-, rfl⟩ | ⟨-, _, -, rebuilt⟩
  · exact valid built
  · exact valid rebuilt

/-- Whatever the store answers, every aligned window has its series, every target its expectation and every closed target its
    assessment, and the contracts admit each of them with its signals. -/
theorem artifacts_constructible (hex : hashing.IsHex) (answers : store.Answers)
    (governed : temporalMetric metricKey = some metric) (site : IsSiteId siteId) :
    (∀ start generatedAt cutoff, ∀ n, isMidnight start = true → 1 ≤ n → n ≤ maxTemporalBuckets →
      (∀ limit ∈ cutoff, start + n * day ≤ limit) → start + n * day ≤ (utcDailyBucket generatedAt).2 →
      ∃ series, store.series hashing
          { metricKey := metricKey, siteId := siteId, start := start, finish := start + n * day, generatedAt := generatedAt,
            knowledgeCutoff := cutoff } = .ok series ∧
        series.IsValid ∧ ∀ signal ∈ series.signals, signal.IsValid) ∧
    (∀ targetStart generatedAt, isMidnight targetStart = true → targetStart ≤ (utcDailyBucket generatedAt).1 →
      ∃ made, expectation hashing (store.series hashing)
          { metricKey := metricKey, siteId := siteId, targetStart := targetStart, generatedAt := generatedAt } = .ok made ∧
        made.IsValid) ∧
    ∀ targetStart generatedAt, isMidnight targetStart = true → targetStart < (utcDailyBucket generatedAt).1 →
      ∃ made, (TemporalDeviationService.fromProjectionStore hashing store).assessment hashing
          { metricKey := metricKey, siteId := siteId, targetStart := targetStart, generatedAt := generatedAt } = .ok made ∧
        made.IsValid := by
  refine ⟨?_, ?_, fun targetStart generatedAt => assessment_constructible hex answers governed site⟩
  · intro start generatedAt cutoff n aligned positive few known closed
    obtain ⟨sources, returned, series⟩ := series_constructible hex answers governed site aligned positive few known closed
    refine ⟨_, series, windowSeries_valid site sources positive few, fun signal member => ?_⟩
    exact windowSignals_valid hex (temporalMetric_spec governed).1 site aligned returned member
  · intro targetStart generatedAt aligned closed
    obtain ⟨made, done, law⟩ := expectation_constructible hex answers governed site aligned closed
    exact ⟨made, done, law.valid⟩

end Assessments

section Sample

/-- Three new assets on the first day that is asked for. -/
def sampleStore : TemporalProjectionStore := fun query =>
  .ok [(query.start, { value := 3, evidenceCount := 3, sourceObservedAt := some query.start,
                       sourceReceivedAt := some (query.start + 1), complete := true })]

theorem sampleStore_answers : sampleStore.Answers := by
  intro query
  refine ⟨_, rfl, List.nodup_singleton _, ?_⟩
  rw [List.forall_mem_singleton]
  exact ⟨fun _ => rfl, fun _ => Nat.le_add_left 1 2, by norm_num⟩

theorem artifacts_constructible_sample :
    ∃ made, (TemporalDeviationService.fromProjectionStore sampleHashing sampleStore).assessment sampleHashing
        { metricKey := "site.assets.new.count", siteId := "hq", targetStart := 59 * day, generatedAt := 60 * day } = .ok made ∧
      made.IsValid := by
  have digest : isHistoryDigest (sampleHashing.sha256 "") = true := by decide
  have hex : sampleHashing.IsHex := fun _ => digest
  have governed : temporalMetric "site.assets.new.count" = some temporalMetrics[0] := by decide
  have site : IsSiteId "hq" := ⟨by decide, by decide⟩
  exact (artifacts_constructible hex sampleStore_answers governed site).2.2 _ _ (by decide) (by decide)

end Sample

end OpenAssetWatch.Temporal
