import OpenAssetWatch.Finding.RiskMonotone

namespace OpenAssetWatch.Finding

open Library

/-- Two lists of scores are of the same assets, whose scores the relation holds of. -/
def ScoresRelated (R : Nat → Nat → Prop) (before after : List AssetRiskScore) : Prop :=
  List.Forall₂ (fun score score' => score.siteId = score'.siteId ∧ score.assetId = score'.assetId ∧ R score.score score'.score) before after

/-- No KEV evidence of the one list is for the finding and the reference of evidence in the other. -/
def Unrepeated (items later : List (RiskFinding × RiskEvidence)) : Prop := ∀ key ∈ kevKeys items, key ∉ kevKeys later

def ReferencesDistinct (findings : List RiskFinding) : Prop := (kevKeys (findings.flatMap kevItems)).Nodup

/-- The second finding is the first with a severity weight, a confidence or freshness factors that are no less. -/
structure Raised (lower : String → String) (config config' : RiskConfig) (finding finding' : RiskFinding) : Prop where
  findingId : finding'.findingId = finding.findingId
  siteId : finding'.siteId = finding.siteId
  assetId : finding'.assetId = finding.assetId
  status : finding'.status = finding.status
  ruleId : finding'.ruleId = finding.ruleId
  category : finding'.category = finding.category
  severity : finding.severityWeight lower config ≤ finding'.severityWeight lower config'
  confidence : clampedConfidence finding.confidence ≤ clampedConfidence finding'.confidence
  freshness : freshnessFactor lower finding.evidenceFreshness ≤ freshnessFactor lower finding'.evidenceFreshness
  evidence : List.Forall₂
    (fun item item' => item'.evidenceType = item.evidenceType ∧ item'.evidenceRef = item.evidenceRef ∧
      freshnessFactor lower item.freshness ≤ freshnessFactor lower item'.freshness)
    (finding.evidence.getD []) (finding'.evidence.getD [])

section Groups

variable {lower : String → String} {config config' : RiskConfig} {findings findings' : List RiskFinding} {key : String × String}

def concerns (key : String × String) (finding : RiskFinding) : Bool :=
  decide ((strText finding.siteId, strText finding.assetId) = key) && countsForAsset finding

theorem assetFindings_eq (findings : List RiskFinding) (key : String × String) : assetFindings findings key = findings.filter (concerns key) := by
  have grouped := Dict.get?_foldl_append (fun finding : RiskFinding => (strText finding.siteId, strText finding.assetId))
    (findings.filter countsForAsset) Dict.empty key
  rw [List.filter_filter] at grouped
  rw [assetFindings, byAsset, grouped]
  show (if findings.filter (concerns key) = [] then none else some ([] ++ findings.filter (concerns key))).getD [] = _
  split_ifs with empty
  · exact empty.symm
  · rfl

theorem assetRisk_score (findings : List RiskFinding) (asset : RiskAsset) :
    (assetRisk lower config findings asset).score =
      boundedScore (min ((findingContributions lower config (assetFindings findings asset.key)).2 +
        (kevContributions lower (assetFindings findings asset.key)).2) 100) := rfl

theorem assetRisk_le {asset : RiskAsset} (caps : config'.categoryCaps = config.categoryCaps)
    (levels : LevelsRise lower config config' (findings.filter (concerns asset.key)) (findings'.filter (concerns asset.key)))
    (kev : kevSum lower [] ((findings.filter (concerns asset.key)).flatMap kevItems) ≤
      kevSum lower [] ((findings'.filter (concerns asset.key)).flatMap kevItems)) :
    (assetRisk lower config findings asset).score ≤ (assetRisk lower config' findings' asset).score := by
  rw [assetRisk_score, assetRisk_score, assetFindings_eq, assetFindings_eq, kev_score, kev_score]
  apply boundedScore_mono
  apply min_le_min _ le_rfl
  exact add_le_add (finding_score_le caps levels) (min_le_min le_rfl kev)

theorem scores_related {R : Nat → Nat → Prop} {assets : List RiskAsset}
    (related : ∀ asset, R (assetRisk lower config findings asset).score (assetRisk lower config' findings' asset).score) :
    ScoresRelated R (calculateAssetRisk lower config assets findings) (calculateAssetRisk lower config' assets findings') := by
  apply forall₂_insertionSort
  · intro score other score' other' same same'
    rw [same.1, same.2.1, same'.1, same'.2.1]
  · apply List.forall₂_map_left_iff.mpr
    apply List.forall₂_map_right_iff.mpr
    exact List.forall₂_same.mpr fun asset _ => ⟨rfl, rfl, related asset⟩

theorem levels_rise_of_sublist (sub : findings.Sublist findings') : LevelsRise lower config config findings findings' := by
  intro category level
  exact ((sub.filter _).map _).countP_le

theorem levels_rise_of_forall₂
    (rise : List.Forall₂ (fun finding finding' => finding'.categoryKey lower = finding.categoryKey lower ∧
      finding.raw lower config ≤ finding'.raw lower config') findings findings') :
    LevelsRise lower config config' findings findings' := by
  intro category level
  apply countP_le_of_forall₂
  have filtered := List.rel_filter (p := fun finding => decide (finding.categoryKey lower = category))
    (q := fun finding => decide (finding.categoryKey lower = category))
    (fun finding finding' same => by simp only [same.1]) rise
  apply List.forall₂_map_left_iff.mpr
  apply List.forall₂_map_right_iff.mpr
  exact filtered.imp fun _ _ same => same.2

theorem Raised.raw_le {finding finding' : RiskFinding} (raised : Raised lower config config' finding finding') :
    finding.raw lower config ≤ finding'.raw lower config' := by
  have weight : 0 ≤ finding.severityWeight lower config := config.weight_nonneg _
  apply mul_le_mul _ raised.freshness (freshnessFactor_nonneg _) _
  · exact mul_le_mul raised.severity raised.confidence (clampedConfidence_nonneg _) (config'.weight_nonneg _)
  · exact mul_nonneg (config'.weight_nonneg _) (clampedConfidence_nonneg _)

theorem Raised.concerns_eq {finding finding' : RiskFinding} (raised : Raised lower config config' finding finding') (key : String × String) :
    concerns key finding' = concerns key finding := by
  simp only [concerns, countsForAsset, raised.siteId, raised.assetId, raised.status]

theorem Raised.kevItems_raised {finding finding' : RiskFinding} (raised : Raised lower config config' finding finding') :
    List.Forall₂ (KevRaised lower) (kevItems finding) (kevItems finding') := by
  unfold kevItems
  rw [raised.ruleId]
  split_ifs
  · apply List.forall₂_map_left_iff.mpr
    apply List.forall₂_map_right_iff.mpr
    apply raised.evidence.imp
    intro item item' same
    exact ⟨same.1, by simp only [kevKey, raised.findingId, same.2.1], raised.confidence, same.2.2⟩
  · exact .nil

theorem filter_flatMap_sublist (p : RiskFinding → Bool) (findings : List RiskFinding) :
    (kevKeys ((findings.filter p).flatMap kevItems)).Sublist (kevKeys (findings.flatMap kevItems)) :=
  ((List.filter_sublist.flatMap kevItems).filter _).map _

theorem Unrepeated.filter {items : List (RiskFinding × RiskEvidence)} {rest : List RiskFinding}
    (unrepeated : Unrepeated items (rest.flatMap kevItems)) (p : RiskFinding → Bool) :
    Unrepeated items ((rest.filter p).flatMap kevItems) :=
  fun key early later => unrepeated key early ((filter_flatMap_sublist p rest).subset later)

theorem score_perm (perm : findings'.Perm findings) (distinct : ReferencesDistinct findings) (asset : RiskAsset) :
    (assetRisk lower config findings asset).score = (assetRisk lower config findings' asset).score := by
  have filtered := perm.filter (concerns asset.key)
  have kev : kevSum lower [] ((findings.filter (concerns asset.key)).flatMap kevItems) =
      kevSum lower [] ((findings'.filter (concerns asset.key)).flatMap kevItems) :=
    kevSum_perm (filtered.symm.flatMap_right _) ((filter_flatMap_sublist _ _).nodup distinct) []
  have levels (category : String) (level : ℚ) :
      (categoryRaws lower config (findings.filter (concerns asset.key)) category).countP (level ≤ ·) =
        (categoryRaws lower config (findings'.filter (concerns asset.key)) category).countP (level ≤ ·) :=
    ((filtered.symm.filter _).map _).countP_eq _
  apply le_antisymm
  · exact assetRisk_le rfl (fun category level => (levels category level).le) kev.le
  · exact assetRisk_le rfl (fun category level => (levels category level).ge) kev.ge

theorem score_add {front rest : List RiskFinding} {added : RiskFinding}
    (unrepeated : Unrepeated (kevItems added) (rest.flatMap kevItems)) (asset : RiskAsset) :
    (assetRisk lower config (front ++ rest) asset).score ≤ (assetRisk lower config (front ++ added :: rest) asset).score := by
  have sub : (front ++ rest).Sublist (front ++ added :: rest) := (List.Sublist.refl front).append (List.sublist_cons_self added rest)
  apply assetRisk_le rfl (levels_rise_of_sublist (sub.filter _))
  rw [List.filter_append, List.filter_append, List.flatMap_append, List.flatMap_append, List.filter_cons]
  split_ifs
  · rw [List.flatMap_cons]
    exact kevSum_insert (unrepeated.filter _)
  · exact le_rfl

theorem score_raise (caps : config'.categoryCaps = config.categoryCaps)
    (raised : List.Forall₂ (Raised lower config config') findings findings') (asset : RiskAsset) :
    (assetRisk lower config findings asset).score ≤ (assetRisk lower config' findings' asset).score := by
  have filtered : List.Forall₂ (Raised lower config config') (findings.filter (concerns asset.key)) (findings'.filter (concerns asset.key)) :=
    List.rel_filter (fun finding finding' one => iff_of_eq (congrArg (· = true) (one.concerns_eq asset.key).symm)) raised
  apply assetRisk_le caps
  · apply levels_rise_of_forall₂
    apply filtered.imp
    intro finding finding' one
    exact ⟨by simp only [RiskFinding.categoryKey, one.category], one.raw_le⟩
  · apply kevSum_raised
    exact List.rel_flatMap filtered fun finding finding' one => one.kevItems_raised

theorem kevKeys_map {finding finding' : RiskFinding} (same : finding'.findingId = finding.findingId) (items : List RiskEvidence) :
    kevKeys (items.map (finding', ·)) = kevKeys (items.map (finding, ·)) := by
  have keys (evidence : RiskEvidence) : kevKey finding' evidence = kevKey finding evidence := by rw [kevKey, kevKey, same]
  unfold kevKeys
  rw [List.filter_map, List.filter_map, List.map_map, List.map_map]
  simp only [Function.comp_def, keys]

theorem levels_rise_of_evidence {front rest : List RiskFinding} {finding : RiskFinding} (evidence : Option (List RiskEvidence))
    (key : String × String) :
    LevelsRise lower config config ((front ++ finding :: rest).filter (concerns key))
      ((front ++ { finding with evidence } :: rest).filter (concerns key)) := by
  have alike : List.Forall₂
      (fun finding finding' => concerns key finding = concerns key finding' ∧ finding'.categoryKey lower = finding.categoryKey lower ∧
        finding.raw lower config ≤ finding'.raw lower config)
      (front ++ finding :: rest) (front ++ { finding with evidence } :: rest) := by
    apply List.rel_append
    · exact List.forall₂_same.mpr fun _ _ => ⟨rfl, rfl, le_rfl⟩
    · exact .cons ⟨rfl, rfl, le_rfl⟩ (List.forall₂_same.mpr fun _ _ => ⟨rfl, rfl, le_rfl⟩)
  have filtered := List.rel_filter (p := concerns key) (q := concerns key)
    (fun finding finding' same => iff_of_eq (congrArg (· = true) same.1)) alike
  exact levels_rise_of_forall₂ (filtered.imp fun _ _ same => same.2)

theorem kevSum_evidence {before after : List (RiskFinding × RiskEvidence)} {finding : RiskFinding} {first last : List RiskEvidence}
    {item : RiskEvidence} (split : finding.evidence.getD [] = first ++ last)
    (unrepeated : Unrepeated (kevItems { finding with evidence := some [item] }) (kevItems { finding with evidence := some last } ++ after)) :
    kevSum lower [] (before ++ (kevItems finding ++ after)) ≤
      kevSum lower [] (before ++ (kevItems { finding with evidence := some (first ++ item :: last) } ++ after)) := by
  unfold kevItems at unrepeated ⊢
  dsimp only [Option.getD_some] at unrepeated ⊢
  split_ifs at unrepeated ⊢ with vulnerable
  · have fresh : Unrepeated ([item].map (finding, ·)) (last.map (finding, ·) ++ after) := by
      have renamed (evidence items : List RiskEvidence) :
          kevKeys (items.map ({ finding with evidence := some evidence }, ·)) = kevKeys (items.map (finding, ·)) :=
        @kevKeys_map finding { finding with evidence := some evidence } rfl items
      intro key early later
      apply unrepeated key
      · rw [renamed]
        exact early
      · rw [kevKeys_append, renamed, ← kevKeys_append]
        exact later
    have inserted : kevSum lower [] ((before ++ first.map (finding, ·)) ++ (last.map (finding, ·) ++ after)) ≤
        kevSum lower [] ((before ++ first.map (finding, ·)) ++ ([item].map (finding, ·) ++ (last.map (finding, ·) ++ after))) :=
      kevSum_insert fresh
    rw [split, List.map_append]
    simp only [List.append_assoc] at inserted ⊢
    apply inserted.trans
    apply kevSum_raised
    have kept (items : List RiskEvidence) :
        List.Forall₂ (KevRaised lower) (items.map (finding, ·))
          (items.map (({ finding with evidence := some (first ++ item :: last) } : RiskFinding), ·)) := by
      apply List.forall₂_map_left_iff.mpr
      apply List.forall₂_map_right_iff.mpr
      exact List.forall₂_same.mpr fun _ _ => ⟨rfl, rfl, le_rfl, le_rfl⟩
    have unchanged (items : List (RiskFinding × RiskEvidence)) : List.Forall₂ (KevRaised lower) items items :=
      List.forall₂_same.mpr fun _ _ => ⟨rfl, rfl, le_rfl, le_rfl⟩
    rw [← List.append_assoc ([item].map _), ← List.map_append, ← List.append_assoc (first.map _), ← List.map_append]
    exact List.rel_append (unchanged before) (List.rel_append (kept (first ++ item :: last)) (unchanged after))
  · exact le_rfl

theorem score_evidence {front rest : List RiskFinding} {finding : RiskFinding} {first last : List RiskEvidence} {item : RiskEvidence}
    (split : finding.evidence.getD [] = first ++ last)
    (unrepeated : Unrepeated (kevItems { finding with evidence := some [item] })
      (kevItems { finding with evidence := some last } ++ rest.flatMap kevItems)) (asset : RiskAsset) :
    (assetRisk lower config (front ++ finding :: rest) asset).score ≤
      (assetRisk lower config (front ++ { finding with evidence := some (first ++ item :: last) } :: rest) asset).score := by
  apply assetRisk_le rfl (levels_rise_of_evidence (some (first ++ item :: last)) asset.key)
  have same : concerns asset.key { finding with evidence := some (first ++ item :: last) } = concerns asset.key finding := rfl
  rw [List.filter_append, List.filter_append, List.flatMap_append, List.flatMap_append, List.filter_cons, List.filter_cons, same]
  split_ifs
  · rw [List.flatMap_cons, List.flatMap_cons]
    apply kevSum_evidence split
    intro key early later
    apply unrepeated key early
    rw [kevKeys_append, List.mem_append] at later ⊢
    exact later.imp_right fun listed => (filter_flatMap_sublist _ rest).subset listed
  · exact le_rfl

theorem roundFour_close (value : ℚ) : |roundFour value - value| ≤ 1 / 20000 := by
  have close : |roundEven (value * 10000) - value * 10000| ≤ 1 / 2 := by
    obtain ⟨below, above⟩ := abs_roundEven_sub_le (value * 10000)
    linarith
  have scaled : roundFour value - value = (roundEven (value * 10000) - value * 10000) / 10000 := by
    rw [roundFour]
    ring
  rw [scaled, abs_div, abs_of_pos (by norm_num : (0 : ℚ) < 10000)]
  linarith

end Groups

/-- The score of an asset is at most 100, does not depend on the order of the findings, and does not fall when a finding or
KEV evidence is added or a finding is raised. The weights that it sums stay within the cap of their category; the factors
hold them rounded. -/
theorem asset_risk_law (lower : String → String) (config : RiskConfig) (assets : List RiskAsset) (findings : List RiskFinding) :
    (∀ score ∈ calculateAssetRisk lower config assets findings, score.score ≤ 100) ∧
    (∀ permuted : List RiskFinding, permuted.Perm findings → ReferencesDistinct findings →
      ScoresRelated (· = ·) (calculateAssetRisk lower config assets findings) (calculateAssetRisk lower config assets permuted)) ∧
    (∀ front added rest, findings = front ++ rest → Unrepeated (kevItems added) (rest.flatMap kevItems) →
      ScoresRelated (· ≤ ·) (calculateAssetRisk lower config assets findings)
        (calculateAssetRisk lower config assets (front ++ added :: rest))) ∧
    (∀ config' raised, config'.categoryCaps = config.categoryCaps → List.Forall₂ (Raised lower config config') findings raised →
      ScoresRelated (· ≤ ·) (calculateAssetRisk lower config assets findings) (calculateAssetRisk lower config' assets raised)) ∧
    (∀ front finding rest first item last, findings = front ++ finding :: rest → finding.evidence.getD [] = first ++ last →
      Unrepeated (kevItems { finding with evidence := some [item] })
        (kevItems { finding with evidence := some last } ++ rest.flatMap kevItems) →
      ScoresRelated (· ≤ ·) (calculateAssetRisk lower config assets findings)
        (calculateAssetRisk lower config assets
          (front ++ { finding with evidence := some (first ++ item :: last) } :: rest))) ∧
    ∀ score ∈ calculateAssetRisk lower config assets findings,
      let group := assetFindings findings (score.siteId, score.assetId)
      let weights := categoryContributions lower config group
      let kev := (kevContributions lower group).1
      score.factors = ((riskCategories lower config group).flatMap fun category => (weights category).1.map (·.factor category)) ++
        kev.map (·.factor) ∧
      (∀ category, ((weights category).1.map (·.adjusted)).sum ≤ config.cap category ∧
        ∀ weight ∈ (weights category).1, |(weight.factor category).adjustedWeight - weight.adjusted| ≤ 1 / 20000) ∧
      (kev.map (·.adjusted)).sum ≤ kevCategoryCap ∧ ∀ weight ∈ kev, |weight.factor.adjustedWeight - weight.adjusted| ≤ 1 / 20000 := by
  refine ⟨fun score listed => ?_, fun permuted perm distinct => scores_related (score_perm perm distinct), ?_, ?_, ?_, fun score listed => ?_⟩
  · obtain ⟨asset, -, rfl⟩ := List.mem_map.mp ((List.mem_insertionSort _).mp listed)
    exact boundedScore_le _
  · intro front added rest split unrepeated
    subst split
    exact scores_related (score_add unrepeated)
  · intro config' raised caps rise
    exact scores_related (score_raise caps rise)
  · intro front finding rest first item last listed split unrepeated
    subst listed
    exact scores_related (score_evidence split unrepeated)
  · obtain ⟨asset, -, rfl⟩ := List.mem_map.mp ((List.mem_insertionSort _).mp listed)
    refine ⟨rfl, fun category => ⟨?_, fun weight _ => roundFour_close _⟩, ?_, fun weight _ => roundFour_close _⟩
    · rw [category_adjusted]
      exact min_le_left _ _
    · let sorted := (kevCandidates lower [] ((assetFindings findings asset.key).flatMap kevItems)).insertionSort fun a b =>
        candidateKey a ≤ candidateKey b
      have total : 0 + ((kevLoop 1 0 sorted).1.map (·.adjusted)).sum = (kevLoop 1 0 sorted).2 := kevLoop_adjusted sorted 1
      rw [zero_add] at total
      exact (total.trans (kev_score (assetFindings findings asset.key))).trans_le (min_le_left _ _)

def sampleAsset : RiskAsset := { siteId := some "site", assetId := some "asset", observedAt := none, lastSeenAt := none }

/-- A critical finding of the category `coverage`. -/
def sampleFinding (findingId : String) (confidence : ℚ) : RiskFinding :=
  { findingId := some findingId, siteId := some "site", assetId := some "asset", status := some "active", ruleId := none
    title := none, severity := some "critical", category := some "coverage", confidence := some confidence
    evidenceFreshness := some "fresh", evidence := none }

def sampleRiskFindings : List RiskFinding := [sampleFinding "a" 0.5000015, sampleFinding "b" 0.3750025, sampleFinding "c" 0.375]

def defaultConfig : RiskConfig := loadRiskConfig (fun _ => none) fun _ => none

/-- A finding whose component is known to be exploited. -/
def sampleKevFinding : RiskFinding :=
  { sampleFinding "d" 1 with
    ruleId := some "vulnerable-component"
    evidence := some [{ evidenceType := some "kev-prioritization", evidenceRef := some "kev", freshness := some "aging" }] }

theorem asset_risk_law_sample :
    ScoresRelated (· ≤ ·) (calculateAssetRisk id defaultConfig [sampleAsset] (sampleRiskFindings ++ []))
      (calculateAssetRisk id defaultConfig [sampleAsset] (sampleRiskFindings ++ [sampleKevFinding])) :=
  (asset_risk_law id defaultConfig [sampleAsset] (sampleRiskFindings ++ [])).2.2.1 sampleRiskFindings sampleKevFinding [] rfl
    fun key _ later => by cases later

/-- The factors round 20.00006, 9.00006 and 0.99988 to four decimals. -/
theorem stored_weights_exceed_cap :
    ¬ ∀ score ∈ calculateAssetRisk id defaultConfig [sampleAsset] sampleRiskFindings, ∀ category,
      ((score.factors.filter (·.category = category)).map (·.adjustedWeight)).sum ≤ defaultConfig.cap category := by
  have exceeded : ∃ score ∈ calculateAssetRisk id defaultConfig [sampleAsset] sampleRiskFindings,
      defaultConfig.cap "coverage" < ((score.factors.filter (·.category = "coverage")).map (·.adjustedWeight)).sum := by
    decide_cbv
  intro within
  obtain ⟨score, listed, more⟩ := exceeded
  exact absurd (within score listed "coverage") (not_le.mpr more)

end OpenAssetWatch.Finding
