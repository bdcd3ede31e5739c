import OpenAssetWatch.Temporal.Deviation

namespace OpenAssetWatch.Temporal

open Library OpenAssetWatch.Text

/-- What a policy asks of a day before it compares the day with its range. -/
structure Unblocked (policy : TemporalDeviationPolicy) (inputs : AssessmentInputs) : Prop where
  value : inputs.observation.value.isSome = true
  complete : inputs.observation.complete = true
  fresh : inputs.observation.freshness ≠ .stale
  observed : inputs.observation.dataQuality = .observed
  expected : inputs.expectation.expected.isSome = true
  lower : inputs.expectation.lower.isSome = true
  upper : inputs.expectation.upper.isSome = true
  quality : inputs.expectation.dataQuality = policy.requiredExpectationDataQuality
  confidence : policy.minimumExpectationConfidence.rank ≤ inputs.expectation.confidence.rank

/-- The observed value lies outside the expected range on that side. -/
def IsOutside (inputs : AssessmentInputs) (side : DeviationPolicyDirection) : Prop :=
  ∃ value lower upper, inputs.observation.value = some value ∧ inputs.expectation.lower = some lower ∧
    inputs.expectation.upper = some upper ∧
      match side with
      | .above => upper < float value
      | .below => float value < lower

def DeviationPolicyDirection.direction : DeviationPolicyDirection → DeviationDirection
  | .above => .above
  | .below => .below

section Evaluations

variable {policy : TemporalDeviationPolicy} {inputs : AssessmentInputs} {supporting : List TemporalDeviationAssessment}
  {evaluation : Evaluation} {side : DeviationPolicyDirection}

theorem blockingReasons_eq_nil :
    blockingReasons inputs.observation inputs.expectation policy = [] ↔ Unblocked policy inputs := by
  simp only [blockingReasons, List.map_eq_nil_iff, List.filter_eq_nil_iff, List.forall_mem_cons, Bool.or_eq_true, not_or,
    Option.isNone_iff_eq_none, confidenceMeetsPolicy, Bool.not_eq_true', decide_eq_true_eq, decide_eq_false_iff_not,
    Bool.not_eq_false, ← Option.isSome_iff_ne_none, not_not]
  constructor
  · rintro ⟨value, complete, fresh, observed, ⟨⟨expected, lower⟩, upper⟩, quality, confidence, -⟩
    exact ⟨value, complete, fresh, observed, expected, lower, upper, quality, confidence⟩
  · rintro ⟨value, complete, fresh, observed, expected, lower, upper, quality, confidence⟩
    exact ⟨value, complete, fresh, observed, ⟨⟨expected, lower⟩, upper⟩, quality, confidence, List.forall_mem_nil _⟩

variable (side) in
theorem isAdmitted_direction {allowed : List DeviationPolicyDirection} :
    side.direction.isAdmitted allowed = true ↔ side ∈ allowed := by
  cases side <;> simp [DeviationPolicyDirection.direction, DeviationDirection.isAdmitted, DeviationDirection.policy]

theorem direction_inj {side' : DeviationPolicyDirection} : side.direction = side'.direction ↔ side = side' := by
  cases side <;> cases side' <;> simp [DeviationPolicyDirection.direction]

theorem exists_side {direction : DeviationDirection} {allowed : List DeviationPolicyDirection}
    (admitted : direction.isAdmitted allowed = true) : ∃ side, direction = side.direction ∧ side ∈ allowed := by
  cases direction with
  | inside => cases admitted
  | unknown => cases admitted
  | above => exact ⟨.above, rfl, (isAdmitted_direction .above).mp admitted⟩
  | below => exact ⟨.below, rfl, (isAdmitted_direction .below).mp admitted⟩

/-- The value of the inputs with its range, when nothing is missing. -/
structure Ranged (inputs : AssessmentInputs) (value expected lower upper : ℚ) : Prop where
  value : inputs.observation.value = some value
  expected : inputs.expectation.expected = some expected
  lower : inputs.expectation.lower = some lower
  upper : inputs.expectation.upper = some upper

theorem Unblocked.ranged (unblocked : Unblocked policy inputs) : ∃ value expected lower upper, Ranged inputs value expected lower upper := by
  obtain ⟨value, hvalue⟩ := Option.isSome_iff_exists.mp unblocked.value
  obtain ⟨expected, hexpected⟩ := Option.isSome_iff_exists.mp unblocked.expected
  obtain ⟨lower, hlower⟩ := Option.isSome_iff_exists.mp unblocked.lower
  obtain ⟨upper, hupper⟩ := Option.isSome_iff_exists.mp unblocked.upper
  exact ⟨value, expected, lower, upper, hvalue, hexpected, hlower, hupper⟩

theorem Ranged.isOutside {value expected lower upper : ℚ} (ranged : Ranged inputs value expected lower upper) :
    IsOutside inputs side ↔
      match side with
      | .above => upper < float value
      | .below => float value < lower := by
  constructor
  · rintro ⟨value', lower', upper', hvalue, hlower, hupper, outside⟩
    rw [ranged.value] at hvalue
    rw [ranged.lower] at hlower
    rw [ranged.upper] at hupper
    cases hvalue
    cases hlower
    cases hupper
    exact outside
  · exact fun outside => ⟨value, lower, upper, ranged.value, ranged.lower, ranged.upper, outside⟩

theorem Ranged.direction_iff {value expected lower upper : ℚ} (ranged : Ranged inputs value expected lower upper)
    (ordered : lower ≤ upper) : (beyondRange (float value) lower upper).1 = side.direction ↔ IsOutside inputs side := by
  rw [ranged.isOutside, beyondRange]
  cases side with
  | above =>
    simp only [DeviationPolicyDirection.direction]
    split_ifs with under beyond
    · simp only [false_iff, not_lt]
      linarith
    · simp [beyond]
    · simp [beyond]
  | below =>
    simp only [DeviationPolicyDirection.direction]
    split_ifs with under beyond
    · simp [under]
    · simp [under]
    · simp [under]

/-- What an evaluation says of a value outside on an admitted side. -/
structure Deviating (policy : TemporalDeviationPolicy) (supporting : List TemporalDeviationAssessment)
    (side : DeviationPolicyDirection) (evaluation : Evaluation) : Prop where
  direction : evaluation.direction = side.direction
  persistence : evaluation.persistence = 1 + supporting.length
  candidate : evaluation.candidate = decide (policy.requiredPersistenceBuckets ≤ 1 + supporting.length)
  state : evaluation.state =
    if policy.requiredPersistenceBuckets ≤ 1 + supporting.length then .candidate else .pendingPersistence
  supporting : evaluation.supporting = supporting

/-- What an evaluation says otherwise. -/
structure Quiet (evaluation : Evaluation) : Prop where
  persistence : evaluation.persistence = 0
  candidate : evaluation.candidate = false
  state : isDeviating evaluation.state = false
  supporting : evaluation.supporting = []

theorem evaluateValue_cases {value expected lower upper : ℚ} (ranged : Ranged inputs value expected lower upper)
    (ordered : lower ≤ upper) (done : evaluateValue policy (float value) expected lower upper supporting = .ok evaluation) :
    (∃ side, side ∈ policy.allowedDirections ∧ (∀ other, IsOutside inputs other ↔ other = side) ∧
        Deviating policy supporting side evaluation ∧
        ∀ support ∈ supporting, support.direction = side.direction) ∨
      (∀ side ∈ policy.allowedDirections, ¬ IsOutside inputs side) ∧ Quiet evaluation := by
  simp only [evaluateValue] at done
  split at done
  · rename_i inside
    right
    refine ⟨fun side _ outside => ?_, ?_⟩
    · rw [(ranged.direction_iff ordered).mpr outside] at inside
      cases side <;> cases inside
    · cases done
      exact ⟨rfl, rfl, rfl, rfl⟩
  · split at done
    · rename_i refused
      right
      refine ⟨fun side allowed outside => ?_, ?_⟩
      · rw [(ranged.direction_iff ordered).mpr outside, (isAdmitted_direction side).mpr allowed] at refused
        cases refused
      · cases done
        exact ⟨rfl, rfl, rfl, rfl⟩
    · rename_i admitted
      rw [Bool.not_eq_true, Bool.not_eq_false'] at admitted
      obtain ⟨side, same, allowed⟩ := exists_side admitted
      left
      refine ⟨side, allowed, fun other => ?_, ?_⟩
      · rw [← ranged.direction_iff ordered, same, direction_inj]
        exact eq_comm
      rw [same] at done
      split at done
      · cases done
      · rename_i agree
        refine ⟨?_, ?_⟩
        · split at done <;> rename_i reached <;> cases done
          · exact ⟨rfl, rfl, (decide_eq_true reached).symm, (if_pos reached).symm, rfl⟩
          · exact ⟨rfl, rfl, (decide_eq_false reached).symm, (if_neg reached).symm, rfl⟩
        · intro support member
          by_contra differs
          exact agree (List.any_eq_true.mpr ⟨support, member, decide_eq_true differs⟩)

/-- A range holds its expected value in order, whenever it is whole. -/
def Ordered (inputs : AssessmentInputs) : Prop :=
  ∀ value expected lower upper, Ranged inputs value expected lower upper → lower ≤ upper

theorem evaluateValue_state {value expected lower upper : ℚ}
    (done : evaluateValue policy value expected lower upper supporting = .ok evaluation) : evaluation.state ≠ .blocked := by
  simp only [evaluateValue] at done
  split at done
  · cases done
    simp
  · split at done
    · cases done
      simp
    · split at done
      · cases done
      · split at done <;> cases done <;> simp

theorem evaluate_state (unblocked : Unblocked policy inputs) (done : evaluate inputs policy supporting = .ok evaluation) :
    evaluation.state ≠ .blocked := by
  obtain ⟨value, expected, lower, upper, ranged⟩ := unblocked.ranged
  simp only [evaluate, blockingReasons_eq_nil.mpr unblocked, ne_eq, not_true_eq_false, if_false] at done
  rw [ranged.value, ranged.expected, ranged.lower, ranged.upper] at done
  exact evaluateValue_state done

theorem evaluate_cases (ordered : Unblocked policy inputs → Ordered inputs) (done : evaluate inputs policy supporting = .ok evaluation) :
    (∃ side, Unblocked policy inputs ∧ side ∈ policy.allowedDirections ∧ (∀ other, IsOutside inputs other ↔ other = side) ∧
        Deviating policy supporting side evaluation ∧ ∀ support ∈ supporting, support.direction = side.direction) ∨
      (∀ side ∈ policy.allowedDirections, Unblocked policy inputs → ¬ IsOutside inputs side) ∧ Quiet evaluation := by
  simp only [evaluate] at done
  split at done
  · rename_i blocked
    right
    refine ⟨fun side _ unblocked => absurd (blockingReasons_eq_nil.mpr unblocked) blocked, ?_⟩
    cases done
    exact ⟨rfl, rfl, rfl, rfl⟩
  · rename_i unblocked
    have unblocked := blockingReasons_eq_nil.mp (not_not.mp unblocked)
    obtain ⟨value, expected, lower, upper, ranged⟩ := unblocked.ranged
    rw [ranged.value, ranged.expected, ranged.lower, ranged.upper] at done
    rcases evaluateValue_cases ranged (ordered unblocked _ _ _ _ ranged) done with ⟨side, allowed, outside, rest⟩ | ⟨inside, quiet⟩
    · exact .inl ⟨side, unblocked, allowed, outside, rest⟩
    · exact .inr ⟨fun side allowed _ => inside side allowed, quiet⟩

end Evaluations

section Assembled

variable {hashing : Hashing} {policy : TemporalDeviationPolicy} {inputs : AssessmentInputs} {generatedAt : Time}
  {evaluation : Evaluation} {assessment : TemporalDeviationAssessment}

/-- What an assembled assessment takes over from its evaluation and inputs. -/
structure AssembledFrom (inputs : AssessmentInputs) (policy : TemporalDeviationPolicy) (evaluation : Evaluation)
    (assessment : TemporalDeviationAssessment) : Prop where
  metricKey : assessment.metricKey = inputs.observation.metricKey
  siteId : assessment.siteId = inputs.observation.siteId
  assetId : assessment.assetId = inputs.observation.assetId
  policyId : assessment.policyId = policy.policyId
  policyVersion : assessment.policyVersion = policy.policyVersion
  finish : assessment.targetBucketEnd = inputs.observation.bucketEnd
  state : assessment.assessmentState = evaluation.state
  direction : assessment.direction = evaluation.direction
  persistence : assessment.persistenceObservedBuckets = evaluation.persistence
  candidate : assessment.candidate = evaluation.candidate
  supporting : assessment.supportingAssessmentIds = evaluation.supporting.map (·.assessmentId)
  start : assessment.targetBucketStart = inputs.observation.bucketStart
  observed : assessment.observedValue = inputs.observation.value.map float
  expected : assessment.expected = inputs.expectation.expected
  lower : assessment.lower = inputs.expectation.lower
  upper : assessment.upper = inputs.expectation.upper
  valid : ensure (assessment.fieldChecks ++ assessment.validateDeviationConsistency) = .ok ()

theorem assembled (done : assembleAssessment hashing inputs policy generatedAt evaluation = .ok assessment) :
    AssembledFrom inputs policy evaluation assessment := by
  simp only [assembleAssessment, TemporalDeviationAssessment.construct] at done
  obtain ⟨inputDigest, -, done⟩ := bind_eq_ok.mp done
  obtain ⟨assessmentId, -, done⟩ := bind_eq_ok.mp done
  obtain ⟨valid, checked, done⟩ := bind_eq_ok.mp done
  cases done
  exact ⟨rfl, rfl, rfl, rfl, rfl, rfl, rfl, rfl, rfl, rfl, rfl, rfl, rfl, rfl, rfl, rfl, checked⟩

theorem AssembledFrom.ordered (made : AssembledFrom inputs policy evaluation assessment) (evaluated : evaluation.state ≠ .blocked) :
    Ordered inputs := by
  intro value expected lower upper ranged
  have checks := ensure_eq_ok.mp made.valid
  have within := checks (lower ≤ expected && expected ≤ upper, "assessment range bounds must contain the expected value") (by
    apply List.mem_append_right
    rw [TemporalDeviationAssessment.validateDeviationConsistency, if_neg (by rw [made.state]; exact evaluated)]
    apply List.mem_append_right
    rw [TemporalDeviationAssessment.evaluatedChecks, TemporalDeviationAssessment.valueChecks, made.observed, made.expected,
      made.lower, made.upper, ranged.value, ranged.expected, ranged.lower, ranged.upper]
    simp)
  simp only [Bool.and_eq_true, decide_eq_true_eq] at within
  exact within.1.trans within.2

end Assembled

end OpenAssetWatch.Temporal
