import OpenAssetWatch.Classification.Conflicts
import OpenAssetWatch.Classification.OrderIndependence

namespace OpenAssetWatch.Classification

open Library OpenAssetWatch.Text
open Temporal (float)

section Weights

variable {evidence : ClassificationEvidence} {freshness : EvidenceFreshness} {signal : Signal} {x y : ℚ}

theorem float_mono (nonneg : 0 ≤ x) (le : x ≤ y) : float x ≤ float y := Format.nearest_mono nonneg le

theorem float_nonneg (nonneg : 0 ≤ x) : 0 ≤ float x := Format.nearest_nonneg nonneg

theorem finiteConfidence_range (value : Option ℚ) : 0 ≤ finiteConfidence value ∧ finiteConfidence value ≤ 1 := by
  cases value with
  | none => exact ⟨by decide +kernel, by decide +kernel⟩
  | some number => exact ⟨le_max_left _ _, max_le zero_le_one (min_le_right _ _)⟩

theorem freshnessFactor_range (freshness : EvidenceFreshness) (revoked : Bool) :
    0 ≤ freshnessFactor freshness revoked ∧ freshnessFactor freshness revoked ≤ 1 := by
  cases revoked <;> cases freshness <;> decide +kernel

theorem adjustedWeight_le {weight bound factor : ℚ} (nonneg : 0 ≤ weight) (below : weight ≤ bound)
    (discount : freshnessFactor freshness evidence.sourceRevoked ≤ factor) :
    adjustedWeight evidence weight freshness ≤ max 0 (float (float bound * factor)) := by
  obtain ⟨confident, certain⟩ := finiteConfidence_range evidence.sourceConfidence
  obtain ⟨some_, -⟩ := freshnessFactor_range freshness evidence.sourceRevoked
  have product : weight * finiteConfidence evidence.sourceConfidence ≤ bound :=
    (mul_le_of_le_one_right nonneg certain).trans below
  have product_nonneg := mul_nonneg nonneg confident
  unfold adjustedWeight
  apply max_le_max le_rfl
  refine (min_le_left _ _).trans (float_mono (mul_nonneg (float_nonneg product_nonneg) some_) ?_)
  exact mul_le_mul (float_mono product_nonneg product) discount some_ (float_nonneg (nonneg.trans below))

/-- The greatest weight of weak evidence for a category. -/
def weakWeight : ℚ := float (float (float (98 / 100)) * float (35 / 100))

theorem weak_numbers :
    (max 0 (float (float (float (98 / 100)) * float (1 / 10))) ≤ weakWeight ∧
      max 0 (float (float (float (34 / 100)) * 1)) ≤ weakWeight ∧
      max 0 (float (float (float (98 / 100)) * float (35 / 100))) ≤ weakWeight) ∧
    (0 ≤ weakWeight ∧ 0 ≤ float (5 / 100) ∧ 0 ≤ float (10 / 100) ∧ float (weakWeight + float (10 / 100)) < float (45 / 100)) ∧
    float (45 / 100) ≤ float (55 / 100) ∧ float (45 / 100) ≤ float (58 / 100) ∧ float (45 / 100) ≤ float (62 / 100) ∧
      float (45 / 100) ≤ float (72 / 100) := by
  decide +kernel

/-- What makes evidence for a category weak: a pattern in a name, a revoked source or its age. -/
def IsWeak (evidence : ClassificationEvidence) (now : Time) (signal : Signal) : Prop :=
  signal.reasonCode = .weakHostnamePattern ∨ evidence.sourceRevoked = true ∨ evidence.freshness now = .stale

theorem weight_le_of_weak {now : Time} (member : signal ∈ signalsForEvidence evidence now) (category : signal.attr = .category)
    (weak : IsWeak evidence now signal) : signal.weight ≤ weakWeight := by
  have given := mem_signalsForEvidence member
  unfold IsWeak at weak
  cases revoked : evidence.sourceRevoked with
  | true =>
    cases given with
    | attr _ _ _ _ other => exact absurd category other
    | category _ weight _ light =>
      have discount : freshnessFactor (evidence.freshness now) evidence.sourceRevoked ≤ float (1 / 10) := by
        rw [revoked]
        exact le_rfl
      exact (adjustedWeight_le light.nonneg light.below discount).trans weak_numbers.1.1
  | false =>
    cases given with
    | attr _ _ _ _ other => exact absurd category other
    | category _ weight reasonCode light =>
      rcases weak with name | source | stale
      · have discount := (freshnessFactor_range (evidence.freshness now) evidence.sourceRevoked).2
        exact (adjustedWeight_le light.nonneg (light.hostname name).le discount).trans weak_numbers.1.2.1
      · rw [revoked] at source
        cases source
      · have discount : freshnessFactor (evidence.freshness now) evidence.sourceRevoked ≤ float (35 / 100) := by
          rw [revoked, stale]
          exact le_rfl
        exact (adjustedWeight_le light.nonneg light.below discount).trans weak_numbers.1.2.2

theorem agreement_range (sources : Nat) : 0 ≤ agreement sources ∧ agreement sources ≤ float (10 / 100) := by
  constructor
  · exact le_min (float_nonneg (mul_nonneg (Nat.cast_nonneg _) weak_numbers.2.1.2.1)) weak_numbers.2.1.2.2.1
  · exact min_le_right _ _

theorem scoreOf_lt_of_weak {signals : List Signal} (each : ∀ signal ∈ signals, signal.weight ≤ weakWeight) :
    scoreOf signals < float (45 / 100) := by
  have weight : maxWeight signals ≤ weakWeight := maxWeight_le weak_numbers.2.1.1 each
  obtain ⟨more, least⟩ := agreement_range signals.length
  calc scoreOf signals ≤ float (maxWeight signals + agreement signals.length) := min_le_left _ _
    _ ≤ float (weakWeight + float (10 / 100)) := float_mono (add_nonneg (maxWeight_nonneg signals) more) (add_le_add weight least)
    _ < float (45 / 100) := weak_numbers.2.1.2.2.2

end Weights

section Verdict

variable {signals : List Signal} {ranked : List Ranked} {known : Nat}

theorem materialConflict_of_low (low : ∀ ballot ∈ ranked, ballot.score < float (45 / 100)) (shown : List Char → List Char)
    (conflictType : String) : materialConflict shown conflictType ranked = none := by
  cases ranked with
  | nil => rfl
  | cons selected rest =>
    cases rest with
    | nil => rfl
    | cons other rest =>
      have below := low other (List.mem_cons_of_mem _ List.mem_cons_self)
      have under (threshold : ℚ) (above : float (45 / 100) ≤ threshold) : decide (threshold ≤ other.score) = false :=
        decide_eq_false (not_le.mpr (below.trans_le above))
      unfold materialConflict isMaterial
      dsimp only
      obtain ⟨active, dominant, material, _⟩ := weak_numbers.2.2
      rw [under _ active, under _ material, under _ dominant, Bool.and_false, Bool.and_false,
        Bool.and_false, Bool.or_false, Bool.or_false, Bool.and_false, if_neg Bool.false_ne_true]

theorem categoryOf_text (category : AssetCategory) : categoryOf category.text.toList = category := by
  cases category <;> decide +kernel

/-- A category that is not known, with a status that does not say otherwise. -/
def Unclassified (category : AssetCategory) (status : ClassificationStatus) : Prop :=
  category = .unknown ∧ status ≠ .classified ∧ status ≠ .partiallyClassified

instance (category : AssetCategory) (status : ClassificationStatus) : Decidable (Unclassified category status) :=
  inferInstanceAs (Decidable (_ ∧ _ ∧ _))

theorem verdict_nil (conflicted : Bool) :
    Unclassified (verdict signals [] conflicted known).category (verdict signals [] conflicted known).status := by
  cases conflicted with
  | true =>
    show Unclassified .unknown .conflicting
    decide
  | false =>
    cases signals with
    | nil =>
      show Unclassified .unknown .unknown
      decide
    | cons signal rest =>
      show Unclassified .unknown .insufficientEvidence
      decide

theorem verdict_low (low : ∀ ballot ∈ ranked, ballot.score < float (45 / 100)) :
    Unclassified (verdict signals ranked false known).category (verdict signals ranked false known).status := by
  cases ranked with
  | nil => exact verdict_nil false
  | cons best rest =>
    have below := low best List.mem_cons_self
    have less : ¬ float (72 / 100) ≤ best.score := not_le.mpr (below.trans_le weak_numbers.2.2.2.2.2)
    unfold verdict
    dsimp only [List.head?_cons, Option.map_some, Option.getD_some, List.isEmpty_cons]
    rw [if_neg Bool.false_ne_true, if_neg Bool.false_ne_true, if_neg less, if_neg (not_le.mpr below)]
    show Unclassified .unknown .insufficientEvidence
    decide

theorem unclassified_verdict_iff (low : ∀ ballot ∈ ranked, ballot.score < float (45 / 100))
    (named : ∀ ballot ∈ ranked, categoryOf ballot.value ≠ .unknown) (conflicts : List ClassificationConflict) :
    Unclassified (verdict signals ranked (!conflicts.isEmpty) known).category
      (verdict signals ranked (!conflicts.isEmpty) known).status ↔ ranked = [] ∨ conflicts = [] := by
  cases conflicts with
  | nil => exact iff_of_true (verdict_low low) (.inr rfl)
  | cons conflict rest =>
    cases ranked with
    | nil => exact iff_of_true (verdict_nil true) (.inl rfl)
    | cons best others =>
      apply iff_of_false
      · intro unknown
        exact named best List.mem_cons_self unknown.1
      · intro none_
        rcases none_ with absent | absent <;> cases absent

end Verdict

section Results

variable {evidence : List ClassificationEvidence} {now : Time}

/-- Evidence of which every signal for a category is weak. -/
def OnlyWeak (evidence : List ClassificationEvidence) (now : Time) : Prop :=
  ∀ item ∈ selectEffectiveEvidence evidence now, ∀ signal ∈ signalsForEvidence item now, signal.attr = .category →
    IsWeak item now signal

/-- Evidence without a signal for a category. -/
def NoCategory (evidence : List ClassificationEvidence) (now : Time) : Prop :=
  ∀ signal ∈ effectiveSignals evidence now, signal.attr = .category → signal.value = AssetCategory.unknown.text.toList

/-- Evidence on which no source is at odds with others on the role, the operating system or its version. -/
def AttributesAgree (evidence : List ClassificationEvidence) (now : Time) : Prop :=
  ∀ kind ∈ [(SignalAttribute.subtype, "device-role"), (.osFamily, "os-family"), (.osVersionHint, "os-version")],
    attributeConflict (effectiveSignals evidence now) kind.1 kind.2 = none

theorem low_of_onlyWeak (weak : OnlyWeak evidence now) :
    ∀ ballot ∈ rankVotes (categoryVotes (effectiveSignals evidence now)), ballot.score < float (45 / 100) := by
  intro ranked member
  have votes := ballot member
  rw [votes.score]
  apply scoreOf_lt_of_weak
  intro signal cast
  obtain ⟨given, own⟩ := votesOn_category.listed signal (votes.listed signal cast).1
  obtain ⟨item, effective, from_, -⟩ := mem_effectiveSignals given
  exact weight_le_of_weak from_ own (weak item effective signal from_ own)

theorem noCategory_iff : NoCategory evidence now ↔ rankVotes (categoryVotes (effectiveSignals evidence now)) = [] := by
  unfold categoryVotes
  rw [← tally, rankVotes_eq_nil_iff, List.filter_eq_nil_iff]
  unfold NoCategory
  simp only [Bool.and_eq_true, decide_eq_true_eq, not_and, not_not]

theorem conflictsOf_eq_nil_iff (weak : OnlyWeak evidence now) :
    conflictsOf (effectiveSignals evidence now) (rankVotes (categoryVotes (effectiveSignals evidence now))) = [] ↔
      AttributesAgree evidence now := by
  unfold conflictsOf AttributesAgree
  rw [materialConflict_of_low (low_of_onlyWeak weak)]
  simp only [Option.toList_none, List.nil_append, List.append_eq_nil_iff, Option.toList_eq_nil_iff, List.forall_mem_cons,
    List.not_mem_nil, false_implies, implies_true, and_true, and_assoc]

theorem named_of_ranked {ranked : Ranked} (member : ranked ∈ rankVotes (categoryVotes (effectiveSignals evidence now))) :
    categoryOf ranked.value ≠ .unknown := by
  have votes := ballot member
  obtain ⟨signal, cast⟩ := List.exists_mem_of_ne_nil _ votes.voted
  obtain ⟨listed, same⟩ := votes.listed signal cast
  rw [List.mem_filter, Bool.and_eq_true, decide_eq_true_eq, decide_eq_true_eq] at listed
  obtain ⟨given, own, known⟩ := listed
  obtain ⟨item, -, from_, -⟩ := mem_effectiveSignals given
  obtain ⟨category, named⟩ := (mem_signalsForEvidence from_).category_value own
  rw [← same, named, categoryOf_text]
  rintro rfl
  exact known named

/-- Weak evidence leaves the category unknown exactly where it names none or the attributes do not conflict. -/
theorem weak_evidence_unclassified_iff (classificationIdFor : String → String → String) (siteId assetId : String)
    (evidence : List ClassificationEvidence) (now : Time) (previous : Option Time) (weak : OnlyWeak evidence now) :
    let result := classifyAsset classificationIdFor siteId assetId evidence now previous
    Unclassified result.category result.status ↔ NoCategory evidence now ∨ AttributesAgree evidence now := by
  rw [noCategory_iff, ← conflictsOf_eq_nil_iff weak]
  intro result
  obtain ⟨known, status, category⟩ := verdict_classifyAsset classificationIdFor siteId assetId evidence now previous
  rw [status, category]
  exact unclassified_verdict_iff (low_of_onlyWeak weak) (fun _ => named_of_ranked) _

section Sample

/-- What a passive sensor reads from a name. -/
def sampleHostname : ClassificationEvidence where
  evidenceId := "cev_name"
  sourceId := "sensor"
  sourceType := "passive-sensor"
  collectionMethod := "dns"
  kind := "hostname"
  value := "printer-1"
  observedAt := some 0
  direct := false
  strength := .weak
  sourceConfidence := some 1

/-- What an endpoint says of the version of its operating system. -/
def sampleVersion (sourceId value : String) : ClassificationEvidence where
  evidenceId := "cev_" ++ sourceId
  sourceId := sourceId
  sourceType := "endpoint-collector"
  collectionMethod := "endpoint-inventory"
  kind := "os-version"
  value := value
  observedAt := some 0
  direct := true
  strength := .direct
  sourceConfidence := some 1

instance (evidence : List ClassificationEvidence) (now : Time) : Decidable (OnlyWeak evidence now) :=
  inferInstanceAs (Decidable (∀ item ∈ selectEffectiveEvidence evidence now, ∀ signal ∈ signalsForEvidence item now,
    signal.attr = .category → signal.reasonCode = .weakHostnamePattern ∨ item.sourceRevoked = true ∨ item.freshness now = .stale))

theorem weak_evidence_unclassified_sample :
    Unclassified (sampleClassify [sampleHostname]).category (sampleClassify [sampleHostname]).status ↔
      NoCategory [sampleHostname] 0 ∨ AttributesAgree [sampleHostname] 0 :=
  weak_evidence_unclassified_iff (fun _ _ => "cls") "site" "asset" [sampleHostname] 0 none (by decide +kernel)

/-- Two sources at odds on a version let a mere name say what an asset is. -/
theorem hostname_classifies : ¬ ∀ evidence : List ClassificationEvidence, OnlyWeak evidence 0 →
    Unclassified (sampleClassify evidence).category (sampleClassify evidence).status := by
  intro unclassified
  have weak : OnlyWeak [sampleHostname, sampleVersion "agent-1" "10", sampleVersion "agent-2" "11"] 0 := by decide +kernel
  have category : (sampleClassify [sampleHostname, sampleVersion "agent-1" "10", sampleVersion "agent-2" "11"]).category = .printer := by
    decide +kernel
  have unknown := (unclassified _ weak).1
  rw [category] at unknown
  cases unknown

end Sample

end Results

end OpenAssetWatch.Classification
