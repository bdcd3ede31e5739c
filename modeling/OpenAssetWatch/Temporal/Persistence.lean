import OpenAssetWatch.Temporal.Evaluation

namespace OpenAssetWatch.Temporal

open Library OpenAssetWatch.Text

/-- The length of the longest stretch, from the first day on, that keeps to one of the sides. -/
noncomputable def runLength {Side : Type} (holds : Side → ℕ → Prop) : ℕ∞ :=
  ⨆ (n : ℕ) (_ : ∃ side, ∀ k < n, holds side k), (n : ℕ∞)

theorem min_runLength {Side : Type} {holds : Side → ℕ → Prop} {required n : ℕ} (bounded : n ≤ required)
    (unbroken : ∃ side, ∀ k < n, holds side k) (broken : n < required → ¬ ∃ side, ∀ k < n + 1, holds side k) :
    min (required : ℕ∞) (runLength holds) = n := by
  apply le_antisymm
  · rcases bounded.lt_or_eq with short | rfl
    · apply (min_le_right _ _).trans
      apply iSup₂_le
      intro m stretch
      by_contra longer
      have longer : n < m := by exact_mod_cast not_le.mp longer
      obtain ⟨side, along⟩ := stretch
      exact broken short ⟨side, fun k within => along k (by omega)⟩
    · exact min_le_left _ _
  · exact le_min (by exact_mod_cast bounded) (le_iSup₂_of_le n unbroken le_rfl)

section Runs

variable (hashing : Hashing) (service : TemporalDeviationService) (policy : TemporalDeviationPolicy)
  (request : ExpectationRequest)

/-- The day `k` days before the target is unblocked and lies outside its own range on that side, which the policy admits. -/
def Deviates (side : DeviationPolicyDirection) (k : ℕ) : Prop :=
  ∃ inputs, service.loadInputs hashing request.metricKey request.siteId (request.targetStart - k * day) request.assetId
      request.generatedAt = .ok inputs ∧
    Unblocked policy inputs ∧ side ∈ policy.allowedDirections ∧ IsOutside inputs side

/-- The assessment of that day as a first deviation. -/
def firstOf (k : ℕ) : Except Failure TemporalDeviationAssessment :=
  service.firstAssessment hashing policy request (request.targetStart - k * day)

variable {hashing service policy request}
variable {inputs : AssessmentInputs} {first assessment : TemporalDeviationAssessment} {k : ℕ} {side : DeviationPolicyDirection}

/-- The observation of a day is that of the scope and day asked for. -/
structure ObservedAt (request : ExpectationRequest) (targetStart : Time) (inputs : AssessmentInputs) : Prop where
  metricKey : inputs.observation.metricKey = request.metricKey
  siteId : inputs.observation.siteId = request.siteId
  assetId : inputs.observation.assetId = request.assetId
  start : inputs.observation.bucketStart = targetStart
  finish : inputs.observation.bucketEnd = targetStart + day

theorem loadInputs_observed {targetStart : Time}
    (loaded : service.loadInputs hashing request.metricKey request.siteId targetStart request.assetId request.generatedAt =
      .ok inputs) : ObservedAt request targetStart inputs := by
  simp only [TemporalDeviationService.loadInputs] at loaded
  obtain ⟨series, -, loaded⟩ := bind_eq_ok.mp loaded
  obtain ⟨-, loaded⟩ := require_bind_eq_ok.mp loaded
  split at loaded
  · obtain ⟨expectation, -, loaded⟩ := bind_eq_ok.mp loaded
    obtain ⟨_, traced, loaded⟩ := bind_eq_ok.mp loaded
    simp only [validateProvenance] at traced
    obtain ⟨inScope, -⟩ := require_bind_eq_ok.mp traced
    simp only [Bool.and_eq_true, decide_eq_true_eq] at inScope
    obtain ⟨⟨⟨⟨metricKey, siteId⟩, assetId⟩, start⟩, finish⟩ := inScope
    cases loaded
    exact ⟨metricKey, siteId, assetId, start, finish⟩
  · cases loaded

theorem build_eq_ok {supporting : List TemporalDeviationAssessment} {generatedAt : Time}
    (done : buildAssessment hashing inputs policy generatedAt supporting = .ok assessment) :
    supporting.length + 1 ≤ policy.requiredPersistenceBuckets ∧
      ∃ evaluation, evaluate inputs policy (supporting.insertionSort (supportLe · ·)) = .ok evaluation ∧
        assembleAssessment hashing inputs policy generatedAt evaluation = .ok assessment := by
  simp only [buildAssessment] at done
  obtain ⟨bounded, done⟩ := require_bind_eq_ok.mp done
  obtain ⟨-, done⟩ := require_bind_eq_ok.mp done
  rw [List.length_insertionSort, decide_eq_true_eq] at bounded
  exact ⟨bounded, bind_eq_ok.mp done⟩

theorem build_cases {supporting : List TemporalDeviationAssessment} {generatedAt : Time}
    (done : buildAssessment hashing inputs policy generatedAt supporting = .ok assessment) :
    ∃ evaluation, AssembledFrom inputs policy evaluation assessment ∧
      ((∃ side, Unblocked policy inputs ∧ side ∈ policy.allowedDirections ∧ (∀ other, IsOutside inputs other ↔ other = side) ∧
          Deviating policy (supporting.insertionSort (supportLe · ·)) side evaluation) ∨
        (∀ side ∈ policy.allowedDirections, Unblocked policy inputs → ¬ IsOutside inputs side) ∧ Quiet evaluation) := by
  obtain ⟨-, evaluation, evaluated, done⟩ := build_eq_ok done
  have made := assembled done
  refine ⟨evaluation, made, ?_⟩
  rcases evaluate_cases (fun unblocked => made.ordered (evaluate_state unblocked evaluated)) evaluated with
    ⟨side, unblocked, allowed, outside, deviating, -⟩ | quiet
  · exact .inl ⟨side, unblocked, allowed, outside, deviating⟩
  · exact .inr quiet

theorem first_cases (done : firstOf hashing service policy request k = .ok first) :
    (∃ side, (∀ other, Deviates hashing service policy request other k ↔ other = side) ∧
        first.direction = side.direction ∧ isDeviating first.assessmentState = true) ∨
      (∀ side, ¬ Deviates hashing service policy request side k) ∧ isDeviating first.assessmentState = false := by
  simp only [firstOf, TemporalDeviationService.firstAssessment] at done
  obtain ⟨inputs, loaded, done⟩ := bind_eq_ok.mp done
  obtain ⟨evaluation, made, cases⟩ := build_cases done
  rcases cases with ⟨side, unblocked, allowed, outside, deviating⟩ | ⟨inside, quiet⟩
  · refine .inl ⟨side, fun other => ?_, made.direction.trans deviating.direction, ?_⟩
    · constructor
      · rintro ⟨inputs', loaded', -, -, outside'⟩
        rw [loaded] at loaded'
        cases loaded'
        exact (outside other).mp outside'
      · rintro rfl
        exact ⟨inputs, loaded, unblocked, allowed, (outside _).mpr rfl⟩
    · rw [made.state, deviating.state]
      split <;> rfl
  · refine .inr ⟨?_, by rw [made.state, quiet.state]⟩
    rintro side ⟨inputs', loaded', unblocked, allowed, outside⟩
    rw [loaded] at loaded'
    cases loaded'
    exact inside side allowed unblocked outside

theorem first_made (done : firstOf hashing service policy request k = .ok first) :
    ∃ inputs evaluation, ObservedAt request (request.targetStart - k * day) inputs ∧ AssembledFrom inputs policy evaluation first := by
  simp only [firstOf, TemporalDeviationService.firstAssessment] at done
  obtain ⟨inputs, loaded, done⟩ := bind_eq_ok.mp done
  obtain ⟨evaluation, made, -⟩ := build_cases done
  exact ⟨inputs, evaluation, loadInputs_observed loaded, made⟩

theorem first_start (done : firstOf hashing service policy request k = .ok first) :
    first.targetBucketStart = request.targetStart - k * day := by
  obtain ⟨inputs, evaluation, observed, made⟩ := first_made done
  rw [made.start, observed.start]

theorem first_supports (done : firstOf hashing service policy request k = .ok first) :
    (!isDeviating first.assessmentState || decide (first.direction ≠ side.direction)) = false ↔
      Deviates hashing service policy request side k := by
  rcases first_cases done with ⟨own, iff, direction, state⟩ | ⟨none, state⟩
  · rw [iff, state, direction, Bool.not_true, Bool.false_or, decide_eq_false_iff_not, not_not, direction_inj]
    exact eq_comm
  · simp [state, none side]

theorem supporting_spec {count : ℕ} {supporting : List TemporalDeviationAssessment}
    (found : service.supportingFrom hashing policy request side.direction (List.range' k count) = .ok supporting) :
    supporting.length ≤ count ∧
      (∀ i, (here : i < supporting.length) → firstOf hashing service policy request (k + i) = .ok supporting[i] ∧
        Deviates hashing service policy request side (k + i)) ∧
      (supporting.length < count → ¬ Deviates hashing service policy request side (k + supporting.length)) := by
  induction count generalizing k supporting with
  | zero =>
    cases found
    exact ⟨le_rfl, fun i here => absurd here (Nat.not_lt_zero i), fun short => absurd short (Nat.lt_irrefl 0)⟩
  | succ count ih =>
    rw [List.range'_succ, TemporalDeviationService.supportingFrom] at found
    obtain ⟨prior, first, found⟩ := bind_eq_ok.mp found
    split at found
    · rename_i breaks
      cases found
      refine ⟨Nat.zero_le _, fun i here => absurd here (Nat.not_lt_zero i), fun _ deviates => ?_⟩
      rw [(first_supports first).mpr deviates] at breaks
      cases breaks
    · rename_i continues
      obtain ⟨rest, later, found⟩ := bind_eq_ok.mp found
      cases found
      obtain ⟨bounded, along, broken⟩ := ih later
      refine ⟨Nat.succ_le_succ bounded, fun i here => ?_, fun short => ?_⟩
      · rcases i with _ | i
        · exact ⟨first, (first_supports first).mp (Bool.eq_false_iff.mpr continues)⟩
        · rw [show k + (i + 1) = k + 1 + i by omega]
          exact along i (Nat.lt_of_succ_lt_succ here)
      · rw [List.length_cons, show k + (rest.length + 1) = k + 1 + rest.length by omega]
        exact broken (Nat.lt_of_succ_lt_succ short)

theorem supports_sorted {supporting : List TemporalDeviationAssessment}
    (along : ∀ i, (here : i < supporting.length) → firstOf hashing service policy request (k + i) = .ok supporting[i]) :
    supporting.reverse.insertionSort (supportLe · ·) = supporting.reverse := by
  apply List.Pairwise.insertionSort_eq
  rw [List.pairwise_reverse, List.pairwise_iff_getElem]
  intro i j hi hj earlier
  have later : supporting[j].targetBucketStart < supporting[i].targetBucketStart := by
    rw [first_start (along i hi), first_start (along j hj)]
    have : (0 : Int) < day := by decide
    have : ((k + i : ℕ) : Int) < ((k + j : ℕ) : Int) := by exact_mod_cast Nat.add_lt_add_left earlier k
    nlinarith
  simp [supportLe, later]

/-- What an assessment says of the run of deviating days that ends at its target. -/
structure PersistenceLaw (hashing : Hashing) (service : TemporalDeviationService) (policy : TemporalDeviationPolicy)
    (request : ExpectationRequest) (assessment : TemporalDeviationAssessment) : Prop where
  candidate_iff : assessment.candidate = true ↔
    ∃ side, ∀ k < policy.requiredPersistenceBuckets, Deviates hashing service policy request side k
  candidate_state : assessment.assessmentState = .candidate ↔
    ∃ side, ∀ k < policy.requiredPersistenceBuckets, Deviates hashing service policy request side k
  pending_iff : assessment.assessmentState = .pendingPersistence ↔
    (∃ side, Deviates hashing service policy request side 0) ∧
      ¬ ∃ side, ∀ k < policy.requiredPersistenceBuckets, Deviates hashing service policy request side k
  persistence : (assessment.persistenceObservedBuckets : ℕ∞) =
    min (policy.requiredPersistenceBuckets : ℕ∞) (runLength (Deviates hashing service policy request))

theorem law_of_quiet {evaluation : Evaluation} (required : 1 ≤ policy.requiredPersistenceBuckets)
    (none : ∀ side, ¬ Deviates hashing service policy request side 0) (made : AssembledFrom inputs policy evaluation assessment)
    (quiet : Quiet evaluation) : PersistenceLaw hashing service policy request assessment := by
  have broken : ¬ ∃ side, ∀ k < policy.requiredPersistenceBuckets, Deviates hashing service policy request side k := by
    rintro ⟨side, along⟩
    exact none side (along 0 required)
  have state := quiet.state
  rw [← made.state, isDeviating, Bool.or_eq_false_iff, decide_eq_false_iff_not, decide_eq_false_iff_not] at state
  constructor
  · rw [made.candidate, quiet.candidate]
    exact iff_of_false Bool.false_ne_true broken
  · exact iff_of_false state.2 broken
  · apply iff_of_false state.1
    rintro ⟨⟨side, deviates⟩, -⟩
    exact none side deviates
  · rw [made.persistence, quiet.persistence]
    apply (min_runLength (Nat.zero_le _) ⟨.above, fun k below => absurd below (Nat.not_lt_zero k)⟩ _).symm
    rintro - ⟨side, along⟩
    exact none side (along 0 Nat.one_pos)

theorem law_of_run {evaluation : Evaluation} {supporting : List TemporalDeviationAssessment}
    (bounded : 1 + supporting.length ≤ policy.requiredPersistenceBuckets)
    (only : ∀ other, Deviates hashing service policy request other 0 → other = side)
    (along : ∀ k < 1 + supporting.length, Deviates hashing service policy request side k)
    (broken : 1 + supporting.length < policy.requiredPersistenceBuckets →
      ¬ Deviates hashing service policy request side (1 + supporting.length))
    (made : AssembledFrom inputs policy evaluation assessment) (deviating : Deviating policy supporting side evaluation) :
    PersistenceLaw hashing service policy request assessment := by
  have reached : policy.requiredPersistenceBuckets ≤ 1 + supporting.length ↔
      ∃ side, ∀ k < policy.requiredPersistenceBuckets, Deviates hashing service policy request side k := by
    constructor
    · exact fun enough => ⟨side, fun k below => along k (by omega)⟩
    · rintro ⟨other, all⟩
      by_contra short
      have same := only other (all 0 (by omega))
      subst same
      exact broken (by omega) (all _ (by omega))
  constructor
  · rw [made.candidate, deviating.candidate, decide_eq_true_iff, reached]
  · rw [made.state, deviating.state, ← reached]
    split <;> simp_all
  · rw [made.state, deviating.state, ← reached]
    have deviates : ∃ side, Deviates hashing service policy request side 0 := ⟨side, along 0 (by omega)⟩
    split <;> simp_all
  · rw [made.persistence, deviating.persistence]
    apply (min_runLength bounded ⟨side, along⟩ _).symm
    rintro short ⟨other, all⟩
    have same := only other (all 0 (by omega))
    subst same
    exact broken short (all _ (Nat.lt_succ_self _))

theorem assessment_cases (known : service.policies.lookup request.metricKey = some policy)
    (done : service.assessment hashing request = .ok assessment) :
    ∃ inputs first, service.loadInputs hashing request.metricKey request.siteId request.targetStart request.assetId
        request.generatedAt = .ok inputs ∧
      buildAssessment hashing inputs policy request.generatedAt [] = .ok first ∧
      (first.assessmentState ≠ .pendingPersistence ∧ assessment = first ∨
        first.assessmentState = .pendingPersistence ∧ ∃ supporting,
          service.supportingFrom hashing policy request first.direction
            (List.range' 1 (policy.requiredPersistenceBuckets - 1)) = .ok supporting ∧
          buildAssessment hashing inputs policy request.generatedAt supporting.reverse = .ok assessment) := by
  simp only [TemporalDeviationService.assessment] at done
  split at done
  · simp only [known] at done
    obtain ⟨_, -, done⟩ := bind_eq_ok.mp done
    obtain ⟨inputs, loaded, done⟩ := bind_eq_ok.mp done
    obtain ⟨first, built, done⟩ := bind_eq_ok.mp done
    refine ⟨inputs, first, loaded, built, ?_⟩
    split at done
    · rename_i settled
      exact .inl ⟨settled, (Except.ok.inj done).symm⟩
    · rename_i pending
      obtain ⟨-, done⟩ := require_bind_eq_ok.mp done
      obtain ⟨supporting, found, done⟩ := bind_eq_ok.mp done
      exact .inr ⟨not_not.mp pending, supporting, found, done⟩
  · cases done

theorem firstOf_zero (loaded : service.loadInputs hashing request.metricKey request.siteId request.targetStart
      request.assetId request.generatedAt = .ok inputs) :
    firstOf hashing service policy request 0 = buildAssessment hashing inputs policy request.generatedAt [] := by
  rw [firstOf, TemporalDeviationService.firstAssessment, Nat.cast_zero, zero_mul, sub_zero, loaded]
  rfl

/-- The assessments of the days before the target that support an assessment, and where their ids stand in it. -/
structure SupportLaw (hashing : Hashing) (service : TemporalDeviationService) (policy : TemporalDeviationPolicy)
    (request : ExpectationRequest) (assessment : TemporalDeviationAssessment) : Prop where
  counted : assessment.supportingAssessmentIds.length = assessment.persistenceObservedBuckets - 1
  first : ∀ k, 1 ≤ k → k < assessment.persistenceObservedBuckets →
    ∃ first, firstOf hashing service policy request k = .ok first ∧
      assessment.supportingAssessmentIds[assessment.persistenceObservedBuckets - 1 - k]? = some first.assessmentId

theorem supportLaw_of_none (few : assessment.persistenceObservedBuckets ≤ 1) (none : assessment.supportingAssessmentIds = []) :
    SupportLaw hashing service policy request assessment := by
  constructor
  · rw [none, List.length_nil]
    omega
  · intro k least below
    omega

theorem supportLaw_of_run {supporting : List TemporalDeviationAssessment}
    (along : ∀ i, (here : i < supporting.length) → firstOf hashing service policy request (1 + i) = .ok supporting[i])
    (persistence : assessment.persistenceObservedBuckets = 1 + supporting.length)
    (ids : assessment.supportingAssessmentIds = supporting.reverse.map (·.assessmentId)) :
    SupportLaw hashing service policy request assessment := by
  constructor
  · rw [ids, List.length_map, List.length_reverse, persistence]
    omega
  · intro k least below
    rw [persistence] at below ⊢
    have here : k - 1 < supporting.length := by omega
    refine ⟨supporting[k - 1], ?_, ?_⟩
    · have found := along (k - 1) here
      rwa [show 1 + (k - 1) = k by omega] at found
    · rw [ids, List.getElem?_map, List.getElem?_reverse (by omega)]
      rw [show supporting.length - 1 - (1 + supporting.length - 1 - k) = k - 1 by omega, List.getElem?_eq_getElem here]
      rfl

theorem assessment_laws (done : service.assessment hashing request = .ok assessment)
    (known : service.policies.lookup request.metricKey = some policy) (admitted : policy.Admitted) :
    PersistenceLaw hashing service policy request assessment ∧ SupportLaw hashing service policy request assessment ∧
      (assessment.persistenceObservedBuckets ≤ 1 → firstOf hashing service policy request 0 = .ok assessment) := by
  obtain ⟨inputs, first, loaded, built, cases⟩ := assessment_cases known done
  have firstDone : firstOf hashing service policy request 0 = .ok first := (firstOf_zero loaded).trans built
  obtain ⟨evaluation, made, kind⟩ := build_cases built
  rw [List.insertionSort_nil] at kind
  rcases kind with ⟨side, unblocked, allowed, outside, deviating⟩ | ⟨inside, quiet⟩
  · have only : ∀ other, Deviates hashing service policy request other 0 ↔ other = side := by
      rcases first_cases firstDone with ⟨own, only, direction, -⟩ | ⟨-, state⟩
      · rw [made.direction, deviating.direction, direction_inj] at direction
        rwa [direction]
      · rw [made.state, deviating.state] at state
        split at state <;> cases state
    rcases cases with ⟨settled, rfl⟩ | ⟨pending, supporting, found, rebuilt⟩
    · have enough : policy.requiredPersistenceBuckets ≤ 1 := by
        by_contra more
        rw [made.state, deviating.state, List.length_nil, if_neg more] at settled
        exact settled rfl
      refine ⟨law_of_run ?_ (fun other => (only other).mp) ?_ ?_ made deviating, ?_, fun _ => firstDone⟩
      · exact admitted.required_pos
      · intro k below
        rw [List.length_nil, Nat.lt_one_iff] at below
        rw [below]
        exact (only side).mpr rfl
      · exact fun more => absurd enough (not_le.mpr more)
      · apply supportLaw_of_none
        · rw [made.persistence, deviating.persistence, List.length_nil]
        · rw [made.supporting, deviating.supporting, List.map_nil]
    · rw [made.direction, deviating.direction] at found
      obtain ⟨bounded, along, broken⟩ := supporting_spec found
      have first := fun i here => (along i here).1
      have days : ∀ k < 1 + supporting.length, Deviates hashing service policy request side k := by
        intro k below
        rcases k with _ | k
        · exact (only side).mpr rfl
        · have deviates := (along k (by omega)).2
          rwa [Nat.add_comm] at deviates
      obtain ⟨evaluation', made', kind'⟩ := build_cases rebuilt
      rw [supports_sorted first] at kind'
      rcases kind' with ⟨side', -, -, outside', deviating'⟩ | ⟨inside, -⟩
      · have same : side = side' := (outside' side).mp ((outside side).mpr rfl)
        subst same
        have required := admitted.required_pos
        refine ⟨law_of_run ?_ (fun other => (only other).mp) ?_ ?_ made' deviating', ?_, ?_⟩
        · rw [List.length_reverse]
          omega
        · rwa [List.length_reverse]
        · rw [List.length_reverse]
          exact fun short => broken (by omega)
        · apply supportLaw_of_run first
          · rw [made'.persistence, deviating'.persistence, List.length_reverse]
          · rw [made'.supporting, deviating'.supporting]
        · intro few
          rw [made'.persistence, deviating'.persistence, List.length_reverse] at few
          have none : supporting = [] := List.length_eq_zero_iff.mp (by omega)
          rw [none, List.reverse_nil] at rebuilt
          rw [firstOf_zero loaded, rebuilt]
      · exact absurd ((outside side).mpr rfl) (inside side allowed unblocked)
  · have none : ∀ side, ¬ Deviates hashing service policy request side 0 := by
      rcases first_cases firstDone with ⟨own, -, -, state⟩ | ⟨none, -⟩
      · rw [made.state, quiet.state] at state
        cases state
      · exact none
    rcases cases with ⟨-, rfl⟩ | ⟨pending, -⟩
    · refine ⟨law_of_quiet admitted.required_pos none made quiet, ?_, fun _ => firstDone⟩
      apply supportLaw_of_none
      · rw [made.persistence, quiet.persistence]
        exact Nat.zero_le _
      · rw [made.supporting, quiet.supporting, List.map_nil]
    · have state := quiet.state
      rw [← made.state, pending] at state
      cases state

end Runs

end OpenAssetWatch.Temporal
