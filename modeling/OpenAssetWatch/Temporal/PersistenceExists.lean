import OpenAssetWatch.Temporal.Persistence

namespace OpenAssetWatch.Temporal

open Library OpenAssetWatch.Text

section Existence

/-- The digests of `hashlib.sha256` are 64 lowercase hexadecimal digits. -/
def Hashing.IsHex (hashing : Hashing) : Prop := ∀ text, isHistoryDigest (hashing.sha256 text) = true

variable {hashing : Hashing} {service : TemporalDeviationService} {policy : TemporalDeviationPolicy}
  {request : ExpectationRequest} {inputs : AssessmentInputs} {evaluation : Evaluation} {generatedAt : Time}
  {first : TemporalDeviationAssessment} {supporting : List TemporalDeviationAssessment} {k : ℕ}
  {side : DeviationPolicyDirection}

theorem isHexId_take (hex : hashing.IsHex) (start text : String) :
    isHexId start 32 (start ++ String.ofList ((hashing.sha256 text).toList.take 32)) = true := by
  have digest := hex text
  simp only [isHistoryDigest, isHexId, String.length_empty, List.drop_zero, Bool.and_eq_true, decide_eq_true_eq] at digest
  have length : (((hashing.sha256 text).toList.take 32)).length = 32 := by
    rw [List.length_take, digest.1.2]
    rfl
  have all : ((hashing.sha256 text).toList.take 32).all isLowerHex = true := by
    rw [List.all_eq_true] at digest ⊢
    exact fun c member => digest.2 c (List.mem_of_mem_take member)
  rw [isHexId, String.toList_append, String.toList_ofList, ← String.length_toList, List.take_left', List.drop_left']
  · simp [length, all]
  · rfl
  · rfl

/-- An evaluation of a deviation over other supports. -/
def Evaluation.supported (evaluation : Evaluation) (policy : TemporalDeviationPolicy)
    (supporting : List TemporalDeviationAssessment) : Evaluation :=
  { evaluation with
    state := if policy.requiredPersistenceBuckets ≤ 1 + supporting.length then .candidate else .pendingPersistence
    persistence := 1 + supporting.length
    candidate := decide (policy.requiredPersistenceBuckets ≤ 1 + supporting.length)
    reasons := if policy.requiredPersistenceBuckets ≤ 1 + supporting.length then [.deviationCandidate]
      else [.persistenceRequirementNotMet]
    supporting := supporting }

theorem evaluateValue_supported {value expected lower upper : ℚ}
    (done : evaluateValue policy value expected lower upper [] = .ok evaluation) (deviating : isDeviating evaluation.state = true)
    (agree : ∀ support ∈ supporting, support.direction = evaluation.direction) :
    evaluateValue policy value expected lower upper supporting = .ok (evaluation.supported policy supporting) := by
  simp only [evaluateValue] at done ⊢
  split at done
  · cases done
    cases deviating
  · rename_i outside
    rw [if_neg outside]
    split at done
    · cases done
      cases deviating
    · rename_i admitted
      rw [if_neg admitted]
      simp only [List.any_nil, Bool.false_eq_true, if_false] at done
      have direction : evaluation.direction = (beyondRange value lower upper).1 := by
        split at done <;> cases done <;> rfl
      rw [if_neg (by
        rw [List.any_eq_true]
        rintro ⟨support, member, differs⟩
        exact of_decide_eq_true differs ((agree support member).trans direction))]
      split at done <;> cases done <;> split <;> simp_all [Evaluation.supported]

theorem evaluate_supported (done : evaluate inputs policy [] = .ok evaluation) (deviating : isDeviating evaluation.state = true)
    (agree : ∀ support ∈ supporting, support.direction = evaluation.direction) :
    evaluate inputs policy supporting = .ok (evaluation.supported policy supporting) := by
  simp only [evaluate] at done ⊢
  split at done
  · cases done
    cases deviating
  · rename_i unblocked
    rw [if_neg unblocked]
    split at done
    · exact evaluateValue_supported done deviating agree
    · cases done

variable (policy) in
theorem inputDigest_exists (hex : hashing.IsHex) (expectation : TemporalExpectation) {observationDigest : String}
    {ids : List String} (digest : isHistoryDigest observationDigest = true) (valid : ids.all isDeviationAssessmentId = true) :
    ∃ inputDigest, temporalAssessmentInputDigest hashing observationDigest expectation policy ids = .ok inputDigest ∧
      isHistoryDigest inputDigest = true := by
  simp only [temporalAssessmentInputDigest, require_bind_eq_ok]
  exact ⟨_, ⟨digest, valid, rfl⟩, hex _⟩

theorem assessmentId_exists (hex : hashing.IsHex) (metricKey siteId : String) (start finish : Time) (version : String)
    {inputDigest : String} (digest : isHistoryDigest inputDigest = true) :
    ∃ id, temporalDeviationAssessmentId hashing inputDigest metricKey siteId start finish version = .ok id ∧
      isDeviationAssessmentId id = true := by
  simp only [temporalDeviationAssessmentId, require_bind_eq_ok]
  exact ⟨_, ⟨digest, rfl⟩, isHexId_take hex _ _⟩

theorem construct_eq_ok {raw : TemporalDeviationAssessment} :
    raw.construct = .ok raw ↔ ∀ check ∈ raw.fieldChecks ++ raw.validateDeviationConsistency, check.1 = true := by
  rw [← ensure_eq_ok, TemporalDeviationAssessment.construct, bind_eq_ok]
  constructor
  · rintro ⟨_, checked, -⟩
    exact checked
  · exact fun checked => ⟨(), checked, rfl⟩

/-- A pending assessment over other supports. -/
def TemporalDeviationAssessment.supported (raw : TemporalDeviationAssessment) (inputDigest assessmentId : String)
    (ids : List String) : TemporalDeviationAssessment :=
  { raw with
    assessmentId := assessmentId
    inputDigest := inputDigest
    persistenceObservedBuckets := 1 + ids.length
    supportingAssessmentIds := ids
    assessmentState := if raw.requiredPersistenceBuckets ≤ 1 + ids.length then .candidate else .pendingPersistence
    candidate := decide (raw.requiredPersistenceBuckets ≤ 1 + ids.length)
    reasonCodes := if raw.requiredPersistenceBuckets ≤ 1 + ids.length then [.deviationCandidate]
      else [.persistenceRequirementNotMet] }

theorem supported_checks {raw : TemporalDeviationAssessment} {inputDigest assessmentId : String} {ids : List String}
    (before : ∀ check ∈ raw.fieldChecks ++ raw.validateDeviationConsistency, check.1 = true)
    (pending : raw.assessmentState = .pendingPersistence) (digest : isHistoryDigest inputDigest = true)
    (id : isDeviationAssessmentId assessmentId = true) (bounded : 1 + ids.length ≤ raw.requiredPersistenceBuckets)
    (valid : ids.all isDeviationAssessmentId = true) (distinct : ids.Nodup) :
    ∀ check ∈ (raw.supported inputDigest assessmentId ids).fieldChecks ++
      (raw.supported inputDigest assessmentId ids).validateDeviationConsistency, check.1 = true := by
  have evaluated : (raw.supported inputDigest assessmentId ids).assessmentState ≠ .blocked := by
    rw [TemporalDeviationAssessment.supported]
    dsimp only
    split <;> simp
  rw [List.forall_mem_append, TemporalDeviationAssessment.validateDeviationConsistency, List.forall_mem_append] at before ⊢
  rw [if_neg evaluated]
  rw [if_neg (by rw [pending]; simp), TemporalDeviationAssessment.evaluatedChecks] at before
  rw [TemporalDeviationAssessment.evaluatedChecks]
  simp only [List.forall_mem_append, List.forall_mem_singleton] at before ⊢
  obtain ⟨fields, common, ⟨⟨⟨reason, values⟩, trusted⟩, state⟩, -⟩ := before
  refine ⟨?_, ?_, ⟨⟨⟨?_, values⟩, trusted⟩, ?_⟩, ?_⟩
  · clear common values trusted state reason evaluated
    simp only [TemporalDeviationAssessment.fieldChecks, List.forall_mem_cons, TemporalDeviationAssessment.supported] at fields ⊢
    simp_all
    refine ⟨decide_eq_true (by omega), decide_eq_true (by omega), decide_eq_true ?_, decide_eq_true ?_⟩
    · split <;> simp
    · split <;> simp
  · clear fields values trusted state reason evaluated
    simp only [TemporalDeviationAssessment.commonChecks, List.forall_mem_cons, TemporalDeviationAssessment.supported] at common ⊢
    simp_all
    split <;> simp [TemporalDeviationAssessment.requiredReason]
  · simp only [TemporalDeviationAssessment.supported]
    split <;> rfl
  · simp only [pending, TemporalDeviationAssessment.stateChecks, List.forall_mem_cons, Bool.and_eq_true] at state
    by_cases enough : raw.requiredPersistenceBuckets ≤ 1 + ids.length
    · have exact : 1 + ids.length = raw.requiredPersistenceBuckets := le_antisymm bounded enough
      simp [TemporalDeviationAssessment.supported, TemporalDeviationAssessment.stateChecks, exact, state.1.1]
    · simp [TemporalDeviationAssessment.supported, TemporalDeviationAssessment.stateChecks, enough, state.1.1, not_le.mp enough]
  · simp [TemporalDeviationAssessment.supported]

theorem assemble_supported (hex : hashing.IsHex)
    (done : assembleAssessment hashing inputs policy generatedAt evaluation = .ok first)
    (pending : evaluation.state = .pendingPersistence) (bounded : 1 + supporting.length ≤ policy.requiredPersistenceBuckets)
    (valid : ∀ support ∈ supporting, isDeviationAssessmentId support.assessmentId = true)
    (distinct : (supporting.map (·.assessmentId)).Nodup) :
    ∃ assessment, assembleAssessment hashing inputs policy generatedAt (evaluation.supported policy supporting) =
      .ok assessment := by
  have ids : (supporting.map (·.assessmentId)).all isDeviationAssessmentId = true := by
    rw [List.all_map, List.all_eq_true]
    exact valid
  obtain ⟨inputDigest, digested, digest⟩ := inputDigest_exists policy hex inputs.expectation
    (hex (hashing.dumps (canonicalSignal inputs.observation))) ids
  obtain ⟨assessmentId, identified, id⟩ := assessmentId_exists hex inputs.observation.metricKey inputs.observation.siteId
    inputs.observation.bucketStart inputs.observation.bucketEnd policy.policyVersion digest
  simp only [assembleAssessment] at done ⊢
  obtain ⟨_, -, done⟩ := bind_eq_ok.mp done
  obtain ⟨_, -, done⟩ := bind_eq_ok.mp done
  have before := construct_eq_ok.mp (by
    obtain ⟨_, checked, same⟩ := bind_eq_ok.mp done
    exact done.trans same.symm)
  have after := supported_checks before pending digest id (by rwa [List.length_map]) ids distinct
  rw [TemporalDeviationAssessment.supported, List.length_map] at after
  exact ⟨_, bind_eq_ok.mpr ⟨inputDigest, digested, bind_eq_ok.mpr ⟨assessmentId, identified, construct_eq_ok.mpr after⟩⟩⟩

theorem supporting_exists {count : ℕ}
    (reached : ∀ i < count, (∀ j < i, Deviates hashing service policy request side (k + j)) →
      ∃ first, firstOf hashing service policy request (k + i) = .ok first) :
    ∃ supporting, service.supportingFrom hashing policy request side.direction (List.range' k count) = .ok supporting := by
  induction count generalizing k with
  | zero => exact ⟨[], rfl⟩
  | succ count ih =>
    rw [List.range'_succ, TemporalDeviationService.supportingFrom]
    obtain ⟨prior, first⟩ := reached 0 (Nat.succ_pos _) (fun j before => absurd before (Nat.not_lt_zero j))
    rw [Nat.add_zero] at first
    by_cases deviates : Deviates hashing service policy request side k
    · obtain ⟨rest, later⟩ := ih fun i below before => by
        have found := reached (i + 1) (Nat.succ_lt_succ below) fun j within => by
          rcases j with _ | j
          · exact deviates
          · have known := before j (Nat.lt_of_succ_lt_succ within)
            rwa [show k + 1 + j = k + (j + 1) by omega] at known
        rwa [show k + 1 + i = k + (i + 1) by omega]
      refine ⟨prior :: rest, bind_eq_ok.mpr ⟨prior, first, ?_⟩⟩
      rw [if_neg (by rw [(first_supports first).mpr deviates]; exact Bool.false_ne_true)]
      exact bind_eq_ok.mpr ⟨rest, later, rfl⟩
    · refine ⟨[], bind_eq_ok.mpr ⟨prior, first, ?_⟩⟩
      rw [if_pos]
      rfl
      by_contra continues
      exact deviates ((first_supports first).mp (Bool.eq_false_iff.mpr continues))

theorem first_id (done : firstOf hashing service policy request k = .ok first) :
    isDeviationAssessmentId first.assessmentId = true := by
  obtain ⟨_, _, _, made⟩ := first_made done
  exact ensure_eq_ok.mp made.valid (isDeviationAssessmentId first.assessmentId, "assessment_id")
    (List.mem_append_left _ List.mem_cons_self)

theorem supports_aligned (observed : ObservedAt request request.targetStart inputs)
    (along : ∀ i, (here : i < supporting.length) → firstOf hashing service policy request (1 + i) = .ok supporting[i] ∧
      Deviates hashing service policy request side (1 + i)) :
    supporting.reverse.zipIdx.all (fun (support, index) => isAligned inputs.observation policy
      (inputs.observation.bucketStart - supporting.reverse.length * day + index * day) support) = true := by
  rw [List.all_eq_true]
  rintro ⟨support, index⟩ member
  obtain ⟨here, same⟩ := List.mem_zipIdx' member
  rw [List.length_reverse] at here
  rw [List.getElem_reverse] at same
  obtain ⟨found, deviates⟩ := along (supporting.length - 1 - index) (by omega)
  rw [← same] at found
  obtain ⟨priorInputs, evaluation, priorObserved, made⟩ := first_made found
  have start : request.targetStart - ((1 + (supporting.length - 1 - index) : ℕ) : Int) * day =
      request.targetStart - (supporting.length : Int) * day + (index : Int) * day := by
    rw [show ((1 + (supporting.length - 1 - index) : ℕ) : Int) = supporting.length - index by omega]
    ring
  have state : isDeviating support.assessmentState = true := by
    rcases first_cases found with ⟨_, _, _, state⟩ | ⟨none, _⟩
    · exact state
    · exact absurd deviates (none side)
  simp only [isAligned, made.metricKey, made.siteId, made.assetId, made.policyId, made.policyVersion, made.start, made.finish,
    observed.metricKey, observed.siteId, observed.assetId, observed.start, priorObserved.metricKey, priorObserved.siteId,
    priorObserved.assetId, priorObserved.start, priorObserved.finish, List.length_reverse, start, state, decide_true,
    Bool.and_self]

theorem pending_deviates (done : firstOf hashing service policy request k = .ok first)
    (pending : first.assessmentState = .pendingPersistence) :
    ∃ side, (∀ other, Deviates hashing service policy request other k ↔ other = side) ∧ first.direction = side.direction := by
  rcases first_cases done with ⟨side, only, direction, -⟩ | ⟨-, quiet⟩
  · exact ⟨side, only, direction⟩
  · rw [pending] at quiet
    cases quiet

theorem build_supported (hex : hashing.IsHex) (observed : ObservedAt request request.targetStart inputs)
    (built : buildAssessment hashing inputs policy generatedAt [] = .ok first)
    (pending : first.assessmentState = .pendingPersistence) (direction : first.direction = side.direction)
    (bounded : supporting.length + 1 ≤ policy.requiredPersistenceBuckets)
    (along : ∀ i, (here : i < supporting.length) → firstOf hashing service policy request (1 + i) = .ok supporting[i] ∧
      Deviates hashing service policy request side (1 + i))
    (distinct : (supporting.map (·.assessmentId)).Nodup) :
    ∃ assessment, buildAssessment hashing inputs policy generatedAt supporting.reverse = .ok assessment := by
  obtain ⟨-, evaluation, evaluated, assembledFirst⟩ := build_eq_ok built
  have made := assembled assembledFirst
  rw [List.insertionSort_nil] at evaluated
  have agree : ∀ support ∈ supporting.reverse, support.direction = evaluation.direction := by
    intro support member
    obtain ⟨i, here, rfl⟩ := List.mem_iff_getElem.mp (List.mem_reverse.mp member)
    obtain ⟨prior, deviates⟩ := along i here
    have joins := (first_supports prior).mpr deviates
    rw [Bool.or_eq_false_iff, decide_eq_false_iff_not, not_not] at joins
    rw [joins.2, ← direction, made.direction]
  have again := evaluate_supported evaluated (by rw [← made.state, pending]; rfl) agree
  have valid : ∀ support ∈ supporting.reverse, isDeviationAssessmentId support.assessmentId = true := by
    intro support member
    obtain ⟨i, here, rfl⟩ := List.mem_iff_getElem.mp (List.mem_reverse.mp member)
    exact first_id (along i here).1
  obtain ⟨assessment, done⟩ : ∃ assessment, assembleAssessment hashing inputs policy generatedAt
      (evaluation.supported policy supporting.reverse) = .ok assessment := by
    apply assemble_supported hex assembledFirst (made.state.symm.trans pending) _ valid
    · rwa [List.map_reverse, List.nodup_reverse]
    · rw [List.length_reverse]
      omega
  refine ⟨assessment, ?_⟩
  rw [buildAssessment, supports_sorted fun i here => (along i here).1]
  apply require_bind_eq_ok.mpr
  constructor
  · rw [List.length_reverse]
    exact decide_eq_true bounded
  · exact require_bind_eq_ok.mpr ⟨supports_aligned observed along, bind_eq_ok.mpr ⟨_, again, done⟩⟩

theorem assessment_exists {metric : TemporalMetricDefinition} (hex : hashing.IsHex)
    (known : service.policies.lookup request.metricKey = some policy) (admitted : policy.Admitted)
    (governed : temporalMetric request.metricKey = some metric)
    (closed : TemporalDeviationService.validateRequest metric request = .ok ())
    (reached : ∀ k < policy.requiredPersistenceBuckets, (∃ side, ∀ j < k, Deviates hashing service policy request side j) →
      ∃ first, firstOf hashing service policy request k = .ok first)
    (distinct : ∀ j < policy.requiredPersistenceBuckets, ∀ k < policy.requiredPersistenceBuckets, 1 ≤ j → 1 ≤ k → ∀ a b,
      firstOf hashing service policy request j = .ok a → firstOf hashing service policy request k = .ok b →
        a.assessmentId = b.assessmentId → j = k) :
    ∃ assessment, service.assessment hashing request = .ok assessment := by
  obtain ⟨first, firstDone⟩ := reached 0 admitted.required_pos
    ⟨.above, fun j before => absurd before (Nat.not_lt_zero j)⟩
  have built := firstDone
  rw [firstOf, TemporalDeviationService.firstAssessment, Nat.cast_zero, zero_mul, sub_zero] at built
  obtain ⟨inputs, loaded, built⟩ := bind_eq_ok.mp built
  have built : buildAssessment hashing inputs policy request.generatedAt [] = .ok first := built
  have observed : ObservedAt request request.targetStart inputs := loadInputs_observed loaded
  simp only [TemporalDeviationService.assessment, governed, known]
  by_cases pending : first.assessmentState = .pendingPersistence
  · obtain ⟨side, only, direction⟩ := pending_deviates firstDone pending
    obtain ⟨supporting, found⟩ : ∃ supporting, service.supportingFrom hashing policy request side.direction
        (List.range' 1 (policy.requiredPersistenceBuckets - 1)) = .ok supporting := by
      apply supporting_exists
      intro i below before
      apply reached (1 + i) (by omega)
      refine ⟨side, fun j within => ?_⟩
      rcases j with _ | j
      · exact (only side).mpr rfl
      · have deviates := before j (by omega)
        rwa [Nat.add_comm] at deviates
    obtain ⟨bounded, along, -⟩ := supporting_spec found
    have required := admitted.required_pos
    have apart : (supporting.map (·.assessmentId)).Nodup := by
      rw [List.Nodup, List.pairwise_map, List.pairwise_iff_getElem]
      intro i j hi hj earlier same
      have := distinct (1 + i) (by omega) (1 + j) (by omega) (by omega) (by omega) _ _ (along i hi).1 (along j hj).1 same
      omega
    obtain ⟨assessment, done⟩ := build_supported hex observed built pending direction (by omega) along apart
    refine ⟨assessment, bind_eq_ok.mpr ⟨(), closed, bind_eq_ok.mpr ⟨inputs, loaded, bind_eq_ok.mpr ⟨first, built, ?_⟩⟩⟩⟩
    rw [if_neg (not_not.mpr pending), decide_eq_true admitted.required_le, direction]
    exact require_bind_eq_ok.mpr ⟨rfl, bind_eq_ok.mpr ⟨supporting, found, done⟩⟩
  · refine ⟨first, bind_eq_ok.mpr ⟨(), closed, bind_eq_ok.mpr ⟨inputs, loaded, bind_eq_ok.mpr ⟨first, built, ?_⟩⟩⟩⟩
    rw [if_pos pending]
    rfl

/-- Every assessment counts the run of deviating days that ends at its target and names the first assessments of the days
    before it; and every closed target whose days can be assessed one by one has an assessment. -/
theorem deviation_persistence (known : service.policies.lookup request.metricKey = some policy) (admitted : policy.Admitted) :
    (∀ assessment, service.assessment hashing request = .ok assessment →
      PersistenceLaw hashing service policy request assessment ∧ SupportLaw hashing service policy request assessment ∧
        ∀ k, 1 ≤ k → k < assessment.persistenceObservedBuckets → ∀ own,
          service.assessment hashing { request with targetStart := request.targetStart - k * day } = .ok own →
          own.persistenceObservedBuckets = 1 →
          assessment.supportingAssessmentIds[assessment.persistenceObservedBuckets - 1 - k]? = some own.assessmentId) ∧
    (∀ metric, hashing.IsHex → temporalMetric request.metricKey = some metric →
      TemporalDeviationService.validateRequest metric request = .ok () →
      (∀ k < policy.requiredPersistenceBuckets, (∃ side, ∀ j < k, Deviates hashing service policy request side j) →
        ∃ first, firstOf hashing service policy request k = .ok first) →
      (∀ j < policy.requiredPersistenceBuckets, ∀ k < policy.requiredPersistenceBuckets, ∀ a b,
        firstOf hashing service policy request j = .ok a → firstOf hashing service policy request k = .ok b →
          a.assessmentId = b.assessmentId → j = k) →
      ∃ assessment, service.assessment hashing request = .ok assessment) := by
  refine ⟨fun assessment done => ?_, fun metric hex governed closed reached distinct => ?_⟩
  · obtain ⟨law, supports, -⟩ := assessment_laws done known admitted
    refine ⟨law, supports, fun k least below own ownDone single => ?_⟩
    obtain ⟨first, firstDone, named⟩ := supports.first k least below
    obtain ⟨-, -, ownFirst⟩ := assessment_laws ownDone known admitted
    have same := ownFirst single.le
    rw [firstOf, Nat.cast_zero, zero_mul, sub_zero] at same
    have agree : Except.ok first = Except.ok own := firstDone.symm.trans same
    cases agree
    exact named
  · exact assessment_exists hex known admitted governed closed reached fun j jBelow k kBelow _ _ =>
      distinct j jBelow k kBelow

end Existence

section Sample

/-- Digests of the right form. -/
def sampleHashing : Hashing where
  sha256 _ := "0123456789abcdef0123456789abcdef0123456789abcdef0123456789abcdef"
  isoformat _ := ""
  dumps _ := ""

/-- A hundred collections on every day. -/
def sampleSignal (start : Time) : TemporalSignal where
  signalId := "sig_0123456789abcdef0123456789abcdef"
  metricKey := "site.inventory.collections.count"
  tenantId := none
  siteId := "hq"
  assetId := none
  bucketStart := start
  bucketEnd := start + day
  value := some 100
  unit := "count"
  evidenceCount := 100
  source := "canonical_inventory_collections"
  sourceObservedAt := some (start + 1)
  sourceReceivedAt := some (start + 2)
  freshness := .current
  complete := true
  dataQuality := .observed
  backfillState := .backfilled
  projectionVersion := "1"
  generatedAt := start + day

/-- Five collections expected on every day. -/
def sampleExpectation (start : Time) : TemporalExpectation where
  expectationId := "exp_0123456789abcdef0123456789abcdef"
  historyDigest := "0123456789abcdef0123456789abcdef0123456789abcdef0123456789abcdef"
  metricKey := "site.inventory.collections.count"
  tenantId := none
  siteId := "hq"
  assetId := none
  targetBucketStart := start
  targetBucketEnd := start + day
  knowledgeCutoff := start
  generatedAt := 60 * day
  historyStart := start - 56 * day
  historyEnd := start
  usableBucketCount := 56
  missingBucketCount := 0
  incompleteBucketCount := 0
  staleBucketCount := 0
  lateArrivingBucketCount := 0
  method := .seasonalRobustBaseline
  methodSampleCount := 8
  expected := some 5
  lower := some 5
  upper := some 5
  unit := "count"
  confidence := .high
  dataQuality := .sufficient
  blockedReason := none
  projectionVersion := "1"

def sampleService : TemporalDeviationService where
  projection request := .ok
    { metric := temporalMetrics[4], tenantId := none, siteId := "hq", assetId := none, start := request.start,
      finish := request.finish, generatedAt := request.generatedAt, bucketCount := 1, missingBucketCount := 0,
      incompleteBucketCount := 0, signals := [sampleSignal request.start] }
  expectations request := .ok (sampleExpectation request.targetStart)

def sampleRequest : ExpectationRequest where
  metricKey := "site.inventory.collections.count"
  siteId := "hq"
  targetStart := 59 * day
  generatedAt := 60 * day

def samplePolicy : TemporalDeviationPolicy where
  policyId := "tdp_site_inventory_collections"
  metricKey := "site.inventory.collections.count"
  allowedDirections := [.above, .below]
  requiredPersistenceBuckets := 2
  maximumPersistenceLookback := 2

theorem samplePolicy_admitted : samplePolicy.Admitted := by
  constructor <;> decide

/-- A day of the sample by itself: a deviation above that waits for persistence. -/
def IsPendingSample (k : ℕ) : Prop :=
  (firstOf sampleHashing sampleService samplePolicy sampleRequest k).toOption.map
    (fun first => (first.assessmentState, first.direction)) = some (.pendingPersistence, .above)

theorem sample_target : IsPendingSample 0 := by
  unfold IsPendingSample
  decide +kernel

theorem sample_before : IsPendingSample 1 := by
  unfold IsPendingSample
  decide +kernel

theorem sample_day {k : ℕ} (below : k < 2) :
    (∃ first, firstOf sampleHashing sampleService samplePolicy sampleRequest k = .ok first) ∧
      Deviates sampleHashing sampleService samplePolicy sampleRequest .above k := by
  have pending : IsPendingSample k := by
    rcases k with _ | _ | k
    · exact sample_target
    · exact sample_before
    · omega
  obtain ⟨first, found, state⟩ := Option.map_eq_some_iff.mp pending
  have done : firstOf sampleHashing sampleService samplePolicy sampleRequest k = .ok first := by
    cases outcome : firstOf sampleHashing sampleService samplePolicy sampleRequest k with
    | error failure => rw [outcome] at found; cases found
    | ok made => rw [outcome] at found; exact congrArg _ (Option.some.inj found)
  obtain ⟨side, only, direction⟩ := pending_deviates done (congrArg Prod.fst state)
  have above : side = .above := by
    have direction := direction.symm.trans (congrArg Prod.snd state)
    cases side with
    | above => rfl
    | below => cases direction
  exact ⟨⟨first, done⟩, (only .above).mpr above.symm⟩

theorem deviation_persistence_sample : ∃ assessment, sampleService.assessment sampleHashing sampleRequest = .ok assessment ∧
    assessment.candidate = true ∧ assessment.persistenceObservedBuckets = 2 ∧
    PersistenceLaw sampleHashing sampleService samplePolicy sampleRequest assessment := by
  have hex : sampleHashing.IsHex := by
    intro text
    show isHistoryDigest "0123456789abcdef0123456789abcdef0123456789abcdef0123456789abcdef" = true
    decide +kernel
  have known : sampleService.policies.lookup sampleRequest.metricKey = some samplePolicy := by decide
  have along : ∃ side, ∀ k < 2, Deviates sampleHashing sampleService samplePolicy sampleRequest side k :=
    ⟨.above, fun k below => (sample_day below).2⟩
  obtain ⟨assessment, done⟩ : ∃ assessment, sampleService.assessment sampleHashing sampleRequest = .ok assessment := by
    have governed : temporalMetric sampleRequest.metricKey = some temporalMetrics[4] := by decide
    apply assessment_exists hex known samplePolicy_admitted governed
    · decide
    · exact fun k below _ => (sample_day below).1
    · intro j below k below' least least' _ _ _ _ _
      have below : j < 2 := below
      have below' : k < 2 := below'
      omega
  have law := ((deviation_persistence known samplePolicy_admitted).1 assessment done).1
  have persistence : (assessment.persistenceObservedBuckets : ℕ∞) = 2 :=
    law.persistence.trans (min_runLength le_rfl along fun impossible => absurd impossible (lt_irrefl _))
  exact ⟨assessment, done, law.candidate_iff.mpr along, by exact_mod_cast persistence, law⟩

end Sample

end OpenAssetWatch.Temporal
